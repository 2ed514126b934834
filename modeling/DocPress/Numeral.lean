import DocPress.Text.Blank
import DocPress.Text.Digit

/-! # Numerals of whole numbers

Writing is canonical: no leading zero, and a minus sign before a negative number. Reading is
lenient: it allows blanks around the numeral, either sign, digits of any script, leading zeros, and
single underscores between digits. A decimal numeral has no more than `maxDigits` digits, since the
time to convert one grows with the square of its length; numerals of a base that is a power of two
have any length.

* `ofInt`: the numeral of a number, and `isWritable`, whether it is short enough.
* `read?`: the number of a decimal numeral.
* `readIn?`, `readMarked?`: the number of a numeral of base two, eight or sixteen, whose base is
  known, or is told by the mark `0b`, `0o` or `0x`. -/

set_option autoImplicit false

namespace DocPress.Numeral

/-- The most digits of a decimal numeral. -/
def maxDigits : Nat := 4300

/-! ## Writing -/

def digitChar (d : Nat) : Char := Char.ofNat (48 + d)

def digits (n : Nat) : List Char :=
  if n < 10 then [digitChar n] else digits (n / 10) ++ [digitChar (n % 10)]
termination_by n
decreasing_by omega

def ofNat (n : Nat) : String := String.ofList (digits n)

def ofInt : Int → String
  | .ofNat n => ofNat n
  | .negSucc n => "-" ++ ofNat (n + 1)

/-- Whether the numeral of an integer has no more than `maxDigits` digits. -/
def isWritable (n : Int) : Bool := n.natAbs < Nat.pow 10 maxDigits

/-! ## Reading -/

def isMargin (c : Char) : Bool :=
  if c.toNat < 128 then c = ' ' || (decide ('\t' ≤ c) && decide (c ≤ '\r')) else Text.isBlank c

def trim (cs : List Char) : List Char :=
  ((cs.dropWhile isMargin).reverse.dropWhile isMargin).reverse

/-- The value of a digit of some base, in which letters follow the decimal digits. -/
def digitValue? (base : Nat) (c : Char) : Option Nat :=
  let value :=
    if 'a' ≤ c ∧ c ≤ 'z' then some (c.toNat - 87)
    else if 'A' ≤ c ∧ c ≤ 'Z' then some (c.toNat - 55)
    else Text.digitValue? c
  value.filter fun d => decide (d < base)

/-- Reads digits onto the number `value` read so far. An underscore is allowed where `ready` says
that a digit stands before it, and a digit has to follow it. -/
def readDigits (base : Nat) : (value : Nat) → (ready : Bool) → List Char → Option Nat
  | value, ready, [] => if ready then some value else none
  | value, ready, c :: cs =>
    if c = '_' then (if ready then readDigits base value false cs else none)
    else
      match digitValue? base c with
      | some d => readDigits base (base * value + d) true cs
      | none => none

/-- A text without the sign at its front, and whether the sign is a minus. -/
def splitSign : List Char → Bool × List Char
  | '-' :: cs => (true, cs)
  | '+' :: cs => (false, cs)
  | cs => (false, cs)

def signed (isNegative : Bool) (n : Nat) : Int := if isNegative then -(n : Int) else n

def read? (s : String) : Option Int :=
  let (isNegative, cs) := splitSign (trim s.toList)
  if (cs.filter (· ≠ '_')).length ≤ maxDigits then
    (readDigits 10 0 false cs).map (signed isNegative)
  else none

def baseOf? (mark : Char) : Option Nat :=
  if mark = 'b' ∨ mark = 'B' then some 2
  else if mark = 'o' ∨ mark = 'O' then some 8
  else if mark = 'x' ∨ mark = 'X' then some 16
  else none

def splitMark? : List Char → Option (Nat × List Char)
  | '0' :: mark :: cs => (baseOf? mark).map fun base => (base, cs)
  | _ => none

/-- Reads the digits after the mark of a base; one underscore may stand before them. -/
def readAfterMark (base : Nat) (cs : List Char) : Option Nat :=
  readDigits base 0 false (if cs.head? = some '_' then cs.drop 1 else cs)

/-- Reads a numeral whose base is told by a mark. -/
def readMarked? (s : String) : Option Int :=
  let (isNegative, cs) := splitSign (trim s.toList)
  (splitMark? cs).bind fun (base, cs) => (readAfterMark base cs).map (signed isNegative)

/-- Reads a numeral of a base that is a power of two; the mark of the base may stand before its
digits. -/
def readIn? (base : Nat) (s : String) : Option Int :=
  let (isNegative, cs) := splitSign (trim s.toList)
  let value :=
    match splitMark? cs with
    | some (marked, rest) =>
      if marked = base then readAfterMark base rest else readDigits base 0 false cs
    | none => readDigits base 0 false cs
  value.map (signed isNegative)

end DocPress.Numeral
