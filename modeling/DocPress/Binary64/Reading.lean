import DocPress.Binary64

/-! # Reading floating-point numerals

A numeral is an infinity, a number that is none, or decimal digits with a point among them or none,
and with an exponent or none, each with a sign or without. Digits of any script are read, and single
underscores are allowed between digits.

* `Binary64.readFront?`: the numeral at the front of a text, and what follows it.
* `Binary64.read?`: the number of a text that is a numeral with blanks around it or not. -/

set_option autoImplicit false

namespace DocPress.Binary64

def digitsValue (cs : List Char) : Nat := cs.foldl (fun n c => 10 * n + (c.toNat - 48)) 0

/-- The exponent at the front of a text and what follows it; zero if there is none. -/
def exponentFront (cs : List Char) : Int × List Char :=
  match cs with
  | e :: rest =>
    let (isNegative, ds) := Numeral.splitSign rest
    let digits := ds.takeWhile Char.isDigit
    if (e = 'e' ∨ e = 'E') ∧ digits ≠ [] then
      (Numeral.signed isNegative (digitsValue digits), ds.drop digits.length)
    else (0, cs)
  | [] => (0, cs)

def unsignedFront? (isNegative : Bool) (cs : List Char) : Option (Binary64 × List Char) :=
  let startsWith (word : String) : Bool :=
    word.toList.isPrefixOf (cs.map Char.toLower)
  if startsWith "infinity" then some (.infinite isNegative, cs.drop 8)
  else if startsWith "inf" then some (.infinite isNegative, cs.drop 3)
  else if startsWith "nan" then some (.nan, cs.drop 3)
  else
    let whole := cs.takeWhile Char.isDigit
    let (fraction, rest) :=
      match cs.drop whole.length with
      | '.' :: rest => (rest.takeWhile Char.isDigit, rest.dropWhile Char.isDigit)
      | rest => ([], rest)
    if whole = [] ∧ fraction = [] then none
    else
      let (exponent, rest) := exponentFront rest
      some (.ofDecimal isNegative (digitsValue (whole ++ fraction)) (exponent - fraction.length),
        rest)

def readFront? (cs : List Char) : Option (Binary64 × List Char) :=
  let (isNegative, cs) := Numeral.splitSign cs
  unsignedFront? isNegative cs

/-- A text without its underscores, if each stands between two digits; `before` says whether a
digit stands before the text. -/
def dropUnderscores? (before : Bool) : List Char → Option (List Char)
  | [] => some []
  | '_' :: c :: cs =>
    if before && c.isDigit then (dropUnderscores? true cs).map (c :: ·) else none
  | c :: cs => if c = '_' then none else (dropUnderscores? c.isDigit cs).map (c :: ·)

/-- A text that may be a numeral in its plain form: its digits those of ASCII, without the
underscores between them and without the blanks around it. -/
def plainForm? (s : String) : Option (List Char) :=
  let plainDigit (c : Char) : Char := ((Text.digitValue? c).map Numeral.digitChar).getD c
  dropUnderscores? false ((Numeral.trim s.toList).map plainDigit)

def read? (s : String) : Option Binary64 :=
  match (plainForm? s).bind readFront? with
  | some (x, []) => some x
  | _ => none

def neg : Binary64 → Binary64
  | finite negative m e => finite (!negative) m e
  | infinite negative => infinite (!negative)
  | nan => nan

end DocPress.Binary64
