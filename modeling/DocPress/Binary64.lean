import DocPress.Numeral

/-! # Binary floating-point numbers of 64 bits

A finite number is `± mantissa · 2 ^ exponent`. Two functions join it with decimal notation, both
in exact arithmetic of natural numbers.

* `ofDecimal` gives the number nearest to a decimal one; of two equally near it takes the one with
  the even mantissa.
* `shortest` gives the fewest decimal digits that read back as the number, and of those with the
  fewest the ones nearest to it.
* `text` writes a number with these digits: positionally when the leading digit stands for a power
  of ten from `10 ^ -4` up to `10 ^ 15`, with an exponent of at least two digits otherwise. -/

set_option autoImplicit false

namespace DocPress

inductive Binary64 where
  | finite (negative : Bool) (mantissa : Nat) (exponent : Int)
  | infinite (negative : Bool)
  | nan
deriving DecidableEq

namespace Binary64

def minExponent : Int := -1074

def maxExponent : Int := 971

/-- The quotient rounded to the nearest natural number, a half to the even one. -/
def roundDiv (num den : Nat) : Nat :=
  let q := num / den
  let r := num % den
  if 2 * r < den then q
  else if den < 2 * r then q + 1
  else if q % 2 = 0 then q else q + 1

/-- `num / den` measured in units of `2 ^ e`, as a quotient of natural numbers. -/
def inUnits (num den : Nat) (e : Int) : Nat × Nat :=
  if 0 ≤ e then (num, den * Nat.pow 2 e.toNat) else (num * Nat.pow 2 (-e).toNat, den)

def ofQuotient (negative : Bool) (num den : Nat) : Binary64 :=
  let guess : Int := (num.log2 : Int) - (den.log2 : Int) - 52
  let (n, d) := inUnits num den guess
  let e := max minExponent (if n / d < Nat.pow 2 52 then guess - 1 else guess)
  let (n, d) := inUnits num den e
  let m := roundDiv n d
  let (m, e) := if m = Nat.pow 2 53 then (Nat.pow 2 52, e + 1) else (m, e)
  if maxExponent < e then .infinite negative else .finite negative m e

def ofDecimal (negative : Bool) (digits : Nat) (exponent : Int) : Binary64 :=
  let magnitude := ((Numeral.digits digits).length : Int) + exponent
  if digits = 0 ∨ magnitude < -330 then .finite negative 0 minExponent
  else if 310 < magnitude then .infinite negative
  else if 0 ≤ exponent then ofQuotient negative (digits * Nat.pow 10 exponent.toNat) 1
  else ofQuotient negative digits (Nat.pow 10 (-exponent).toNat)

def toInt? : Binary64 → Option Int
  | .finite negative m e =>
    let signed (n : Nat) : Int := if negative then -(n : Int) else n
    if 0 ≤ e then some (signed (m * Nat.pow 2 e.toNat))
    else if m % Nat.pow 2 (-e).toNat = 0 then some (signed (m / Nat.pow 2 (-e).toNat))
    else none
  | _ => none

def isZero : Binary64 → Bool
  | .finite _ m _ => m = 0
  | _ => false

/-! ## The shortest decimal digits -/

/-- The least `k` from `start` on with `num < den · 10 ^ k`, looked for in `fuel` steps. -/
def decimalPlaces (num den : Nat) : (fuel : Nat) → (start : Int) → Int
  | 0, k => k
  | fuel + 1, k =>
    let below :=
      if 0 ≤ k then decide (num < den * Nat.pow 10 k.toNat)
      else decide (num * Nat.pow 10 (-k).toNat < den)
    if below then k else decimalPlaces num den fuel (k + 1)

/-- The interval of quotients over `den` that read as `m · 2 ^ e`: its lower end, the number and
the upper end, all over one denominator. -/
def readingInterval (m : Nat) (e : Int) : Nat × Nat × Nat × Nat :=
  -- in quarters of the unit `2 ^ e`, since the gap below a power of two is half as wide
  let low := if m = Nat.pow 2 52 ∧ minExponent < e then 4 * m - 1 else 4 * m - 2
  let value := 4 * m
  let high := 4 * m + 2
  if 2 ≤ e then
    let s := Nat.pow 2 (e - 2).toNat
    (low * s, value * s, high * s, 1)
  else (low, value, high, Nat.pow 2 (2 - e).toNat)

/-- The digits of `m · 2 ^ e` rounded to the grid `10 ^ k`, when the result lies in the interval:
the nearer of the two neighbours on the grid, of those that read back. -/
def onGrid? (even : Bool) (low value high den : Nat) (k : Int) : Option Nat :=
  let num (x : Nat) : Nat := if 0 ≤ k then x else x * Nat.pow 10 (-k).toNat
  let unit : Nat := if 0 ≤ k then den * Nat.pow 10 k.toNat else den
  let inside (d : Nat) : Bool :=
    let x := d * unit
    (decide (num low < x) && decide (x < num high))
      || (even && (decide (x = num low) || decide (x = num high)))
  let below := num value / unit
  let above := below + 1
  let rest := num value % unit
  match inside below, inside above with
  | true, true =>
    if 2 * rest < unit then some below
    else if unit < 2 * rest then some above
    else if below % 2 = 0 then some below else some above
  | true, false => some below
  | false, true => some above
  | false, false => none

/-- The first grid from `n` digits on that holds a number of the interval; `places` is the power
of ten above the number. -/
def shortestFrom (even : Bool) (low value high den : Nat) (places : Int) :
    (fuel n : Nat) → Nat × Int
  | 0, n => (value, places - n)
  | fuel + 1, n =>
    match onGrid? even low value high den (places - n) with
    | some d => (d, places - n)
    | none => shortestFrom even low value high den places fuel (n + 1)

/-- The fewest digits that read back as `m · 2 ^ e`, and the power of ten of the last of them. -/
def shortest (m : Nat) (e : Int) : Nat × Int :=
  let (low, value, high, den) := readingInterval m e
  let places := decimalPlaces value den 700 (-330)
  shortestFrom (m % 2 = 0) low value high den places 17 1

def dropZeros (ds : List Char) : List Char × Nat :=
  let kept := (ds.reverse.dropWhile (· = '0')).reverse
  (kept, ds.length - kept.length)

/-- Writes digits whose value is `0.d₁d₂… · 10 ^ point`. -/
def layOut (ds : List Char) (point : Int) : List Char :=
  let zeros (n : Int) : List Char := List.replicate n.toNat '0'
  if -4 < point ∧ point ≤ 16 then
    if point ≤ 0 then '0' :: '.' :: zeros (-point) ++ ds
    else if (ds.length : Int) ≤ point then ds ++ zeros (point - ds.length) ++ ['.', '0']
    else ds.take point.toNat ++ '.' :: ds.drop point.toNat
  else
    let power := point - 1
    let size := Numeral.digits power.natAbs
    let mantissa :=
      match ds with
      | d :: d' :: rest => d :: '.' :: d' :: rest
      | ds => ds
    mantissa ++ 'e' :: (if power < 0 then '-' else '+')
      :: (if size.length < 2 then '0' :: size else size)

/-- The shortest decimal notation that reads back as a number. -/
def text : Binary64 → String
  | .nan => "nan"
  | .infinite negative => if negative then "-inf" else "inf"
  | .finite negative m e =>
    let sign : String := if negative then "-" else ""
    if m = 0 then sign ++ "0.0"
    else
      let (n, k) := shortest m e
      let (ds, dropped) := dropZeros (Numeral.digits n)
      sign ++ String.ofList (layOut ds (k + dropped + ds.length))

end Binary64

end DocPress
