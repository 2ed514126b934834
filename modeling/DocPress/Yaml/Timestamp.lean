import DocPress.Numeral
import DocPress.Yaml.Fault

/-! # Timestamps

A timestamp is a date, or a date with a time of day, in a zone that is given by its distance from
universal time or in none. Seconds have six decimals; further digits are rounded by the first of
them.

* `Timestamp.read?`: the timestamp that a text writes, if it has the form of one.
* `Timestamp.display`, `Timestamp.inspect`: a timestamp as a text that stands alone, and inside a
  list or a map. -/

set_option autoImplicit false

namespace DocPress.Yaml

structure Date where
  year : Nat
  month : Nat
  day : Nat
deriving DecidableEq

structure Clock where
  hour : Nat
  minute : Nat
  second : Nat
  microsecond : Nat
deriving DecidableEq

/-- The distance of a zone from universal time, with the text that gave it. -/
structure Zone where
  minutes : Int
  name : String
deriving DecidableEq

inductive Timestamp where
  | day (date : Date)
  | moment (date : Date) (clock : Clock) (zone : Option Zone)
deriving DecidableEq

namespace Date

def isLeap (year : Nat) : Bool := year % 4 = 0 && (year % 100 ≠ 0 || year % 400 = 0)

def daysIn (year month : Nat) : Nat :=
  if month = 2 then (if isLeap year then 29 else 28)
  else if month = 4 ∨ month = 6 ∨ month = 9 ∨ month = 11 then 30
  else 31

def isReal (d : Date) : Bool :=
  1 ≤ d.year && d.year ≤ 9999 && 1 ≤ d.month && d.month ≤ 12 && 1 ≤ d.day
    && d.day ≤ daysIn d.year d.month

def tomorrow (d : Date) : Date :=
  if d.day < daysIn d.year d.month then { d with day := d.day + 1 }
  else if d.month < 12 then ⟨d.year, d.month + 1, 1⟩
  else ⟨d.year + 1, 1, 1⟩

/-- The number of days from the first day of the first year to a day. -/
def ordinal (d : Date) : Nat :=
  let years := d.year - 1
  365 * years + years / 4 - years / 100 + years / 400
    + (List.range (d.month - 1)).foldl (fun days m => days + daysIn d.year (m + 1)) 0 + (d.day - 1)

end Date

namespace Clock

def isReal (c : Clock) : Bool := c.hour ≤ 23 && c.minute ≤ 59 && c.second ≤ 59

def microseconds (c : Clock) : Nat :=
  ((c.hour * 60 + c.minute) * 60 + c.second) * 1000000 + c.microsecond

/-- The next second, and whether it is on the next day. -/
def tick (c : Clock) : Clock × Bool :=
  if c.second < 59 then ({ c with second := c.second + 1 }, false)
  else if c.minute < 59 then ({ c with minute := c.minute + 1, second := 0 }, false)
  else if c.hour < 23 then ({ c with hour := c.hour + 1, minute := 0, second := 0 }, false)
  else ({ c with hour := 0, minute := 0, second := 0 }, true)

end Clock

namespace Timestamp

/-! ## Reading -/

def value (ds : List Char) : Nat := ds.foldl (fun n c => 10 * n + (c.toNat - 48)) 0

/-- The digits at the front of a text, at least `low` and at most `high` of them. -/
def digits? (low high : Nat) (cs : List Char) : Option (List Char × List Char) :=
  let ds := (cs.take high).takeWhile Char.isDigit
  if low ≤ ds.length then some (ds, cs.drop ds.length) else none

def after? (c : Char) : List Char → Option (List Char)
  | [] => none
  | x :: cs => if x = c then some cs else none

/-- The microseconds that the digits after the point of the seconds give. Rounding may carry them to
a full second. -/
def microsecondsOf (ds : List Char) : Nat :=
  let kept := value (ds.take 6 ++ List.replicate (6 - ds.length) '0')
  match ds.drop 6 with
  | d :: _ => if '5' ≤ d then kept + 1 else kept
  | [] => kept

def zone? (cs : List Char) : Option Zone :=
  match cs with
  | ['Z'] => some ⟨0, "Z"⟩
  | sign :: rest => do
    if sign ≠ '+' ∧ sign ≠ '-' then none
    let (hours, rest) ← digits? 1 2 rest
    let minutes ←
      match rest with
      | [] => some []
      | ':' :: rest => do
        let (minutes, rest) ← digits? 2 2 rest
        if rest.isEmpty then some minutes else none
      | _ => none
    let total : Int := 60 * value hours + value minutes
    return ⟨if sign = '-' then -total else total, String.ofList cs⟩
  | [] => none

/-- A moment, unless the calendar, the clock or the zone is impossible. `microseconds` may be a full
second. -/
def moment? (date : Date) (clock : Clock) (microseconds : Nat) (zone : Option Zone) :
    Except Fault Timestamp :=
  if zone.any fun z => decide (1440 ≤ z.minutes.natAbs) then .error .timeUnknown
  else if !date.isReal || !clock.isReal then .error .timeUnknown
  else if microseconds < 1000000 then
    .ok (.moment date { clock with microsecond := microseconds } zone)
  else
    let (clock, isNextDay) := clock.tick
    let date := if isNextDay then date.tomorrow else date
    if date.year ≤ 9999 then .ok (.moment date clock zone) else .error .timeTooLate

/-- The timestamp that a text writes, if it has the form of one; a line feed may end it. -/
def read? (text : List Char) : Option (Except Fault Timestamp) := do
  let text := if text.getLast? = some '\n' then text.dropLast else text
  let (year, rest) ← digits? 4 4 text
  let (month, rest) ← digits? 1 2 (← after? '-' rest)
  let (dayOfMonth, rest) ← digits? 1 2 (← after? '-' rest)
  let date : Date := ⟨value year, value month, value dayOfMonth⟩
  match rest with
  | [] => return if date.isReal then .ok (.day date) else .error .timeUnknown
  | x :: _ =>
    let isSpace (c : Char) : Bool := c = ' ' || c = '\t'
    if !(x = 'T' || x = 't' || isSpace x) then none
    let (hour, rest) ← digits? 1 2 (if isSpace x then rest.dropWhile isSpace else rest.drop 1)
    let (minute, rest) ← digits? 2 2 (← after? ':' rest)
    let (second, rest) ← digits? 2 2 (← after? ':' rest)
    let (fraction, rest) :=
      match rest with
      | '.' :: rest => (rest.takeWhile Char.isDigit, rest.dropWhile Char.isDigit)
      | rest => ([], rest)
    let zone ← if rest.isEmpty then some none else (zone? (rest.dropWhile isSpace)).map some
    let clock := ⟨value hour, value minute, value second, 0⟩
    return moment? date clock (microsecondsOf fraction) zone

/-- Whether a text without a tag is taken for a timestamp: it has the form of one, and a date that
stands alone has two digits for the month and two for the day. -/
def isPlain (text : List Char) : Bool :=
  (read? text).isSome
    && ((text.filter (· ≠ '\n')).length = 10 || text.any fun c => c = ':')

/-! ## Writing -/

def padded (width n : Nat) : String :=
  let ds := Numeral.digits n
  String.ofList (List.replicate (width - ds.length) '0' ++ ds)

def dateText (d : Date) : String :=
  padded 4 d.year ++ "-" ++ padded 2 d.month ++ "-" ++ padded 2 d.day

def clockText (c : Clock) : String :=
  padded 2 c.hour ++ ":" ++ padded 2 c.minute ++ ":" ++ padded 2 c.second
    ++ (if c.microsecond = 0 then "" else "." ++ padded 6 c.microsecond)

def zoneText (z : Zone) : String :=
  let n := z.minutes.natAbs
  (if z.minutes < 0 then "-" else "+") ++ padded 2 (n / 60) ++ ":" ++ padded 2 (n % 60)

def display : Timestamp → String
  | day d => dateText d
  | moment d c z => dateText d ++ " " ++ clockText c ++ (z.map zoneText).getD ""

def spanText (minutes : Int) : String :=
  let days : Int := if minutes < 0 then -1 else 0
  let seconds := (minutes - 1440 * days) * 60
  let parts := (if days = 0 then [] else ["days=" ++ Numeral.ofInt days])
    ++ (if seconds = 0 then [] else ["seconds=" ++ Numeral.ofInt seconds])
  "datetime.timedelta(" ++ (if parts.isEmpty then "0" else ", ".intercalate parts) ++ ")"

def inspect : Timestamp → String
  | day d =>
    "datetime.date(" ++ ", ".intercalate ([d.year, d.month, d.day].map Numeral.ofNat) ++ ")"
  | moment d c z =>
    let small : List Nat :=
      if c.microsecond ≠ 0 then [c.second, c.microsecond]
      else if c.second ≠ 0 then [c.second] else []
    let numbers := [d.year, d.month, d.day, c.hour, c.minute] ++ small
    let zone := z.toList.map fun z =>
      "tzinfo=datetime.timezone(" ++ spanText z.minutes ++ ", '" ++ z.name ++ "')"
    "datetime.datetime(" ++ ", ".intercalate (numbers.map Numeral.ofNat ++ zone) ++ ")"

/-! ## Comparing -/

/-- The number of microseconds from the start of the first year, in universal time if there is a
zone. -/
def instant (d : Date) (c : Clock) (z : Option Zone) : Int :=
  (d.ordinal : Int) * 86400000000 + c.microseconds - ((z.map Zone.minutes).getD 0) * 60000000

/-- Whether two timestamps are the same: the same day, or the same instant if both have a zone or
neither has one. -/
def same : Timestamp → Timestamp → Bool
  | day d, day e => d = e
  | moment d c y, moment e b z => y.isSome = z.isSome && instant d c y = instant e b z
  | _, _ => false

end Timestamp

end DocPress.Yaml
