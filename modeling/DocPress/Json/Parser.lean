import DocPress.Binary64.Reading
import DocPress.Data

/-! # Reading JSON

A strict reader of JSON texts: one value with blanks around it and nothing else, no comments, no
trailing commas, no leading zeros, no control characters inside strings, no half of a surrogate pair
without its other half, and only numbers that are finite. A number written with a point or an
exponent is a floating-point number, any other is a whole number, which takes no more than
`Numeral.maxDigits` characters. Of two entries of an object with one key the later gives the value
and the earlier the position.

Every step of the reader gives back the text that it left. The readers of values take a bound on
the number of nested steps; since each two steps pass a bracket or a comma, `parse?` sets it to
twice the length of the text. -/

set_option autoImplicit false

namespace DocPress.Json

/-- The text after the blanks that JSON allows between tokens. -/
def skipBlanks (cs : List Char) : List Char :=
  cs.dropWhile fun c => c = ' ' ∨ c = '\t' ∨ c = '\n' ∨ c = '\r'

def hexValue? (c : Char) : Option Nat :=
  if '0' ≤ c ∧ c ≤ '9' then some (c.toNat - 48)
  else if 'a' ≤ c ∧ c ≤ 'f' then some (c.toNat - 87)
  else if 'A' ≤ c ∧ c ≤ 'F' then some (c.toNat - 55)
  else none

def unitOf (a b c d : Char) : Option Nat :=
  match hexValue? a, hexValue? b, hexValue? c, hexValue? d with
  | some a, some b, some c, some d => some (((a * 16 + b) * 16 + c) * 16 + d)
  | _, _, _, _ => none

def isHighHalf (n : Nat) : Bool := decide (0xD800 ≤ n) && decide (n ≤ 0xDBFF)

def isLowHalf (n : Nat) : Bool := decide (0xDC00 ≤ n) && decide (n ≤ 0xDFFF)

/-- The character that a surrogate pair stands for. -/
def ofHalves (high low : Nat) : Char :=
  Char.ofNat (0x10000 + (high - 0xD800) * 0x400 + (low - 0xDC00))

def escapeValue? : Char → Option Char
  | '"' => some '"'
  | '\\' => some '\\'
  | '/' => some '/'
  | 'b' => some '\x08'
  | 'f' => some '\x0c'
  | 'n' => some '\n'
  | 'r' => some '\r'
  | 't' => some '\t'
  | _ => none

/-- Reads the rest of a string after its opening quote. `half` holds the first half of a surrogate
pair whose second half has to follow, and `acc` the characters read, last first. -/
def readString : (half : Option Nat) → (acc : List Char) → List Char →
    Option (String × List Char)
  | _, _, [] => none
  | some high, acc, '\\' :: 'u' :: a :: b :: c :: d :: cs =>
    match unitOf a b c d with
    | none => none
    | some low => if isLowHalf low then readString none (ofHalves high low :: acc) cs else none
  | some _, _, _ :: _ => none
  | none, acc, '"' :: cs => some (String.ofList acc.reverse, cs)
  | none, acc, '\\' :: 'u' :: a :: b :: c :: d :: cs =>
    match unitOf a b c d with
    | none => none
    | some n =>
      if isHighHalf n then readString (some n) acc cs
      else if isLowHalf n then none
      else readString none (Char.ofNat n :: acc) cs
  | none, acc, '\\' :: e :: cs =>
    match escapeValue? e with
    | some c => readString none (c :: acc) cs
    | none => none
  | none, acc, c :: cs =>
    if c.toNat < 0x20 ∨ c = '\\' then none else readString none (c :: acc) cs

def spanDigits (cs : List Char) : List Char × List Char :=
  (cs.takeWhile Char.isDigit, cs.dropWhile Char.isDigit)

/-- Reads the fraction of a number: its digits, or none where no point stands. -/
def readFraction : List Char → Option (List Char × List Char)
  | '.' :: cs =>
    match spanDigits cs with
    | ([], _) => none
    | (ds, rest) => some (ds, rest)
  | cs => some ([], cs)

def readExponent : List Char → Option (Option Int × List Char)
  | e :: cs =>
    if e = 'e' ∨ e = 'E' then
      let (isNegative, cs) := Numeral.splitSign cs
      match spanDigits cs with
      | ([], _) => none
      | (ds, rest) => some (some (Numeral.signed isNegative (Binary64.digitsValue ds)), rest)
    else some (none, e :: cs)
  | [] => some (none, [])

def readUnsigned (isNegative : Bool) (cs : List Char) : Option (Data × List Char) :=
  match spanDigits cs with
  | ([], _) => none
  | ('0' :: _ :: _, _) => none
  | (whole, rest) =>
    match readFraction rest with
    | none => none
    | some (fraction, rest) =>
      match readExponent rest with
      | none => none
      | some (exponent, rest) =>
        if fraction.isEmpty && exponent.isNone then
          if whole.length + (if isNegative then 1 else 0) ≤ Numeral.maxDigits then
            some (.int (Numeral.signed isNegative (Binary64.digitsValue whole)), rest)
          else none
        else
          match Binary64.ofDecimal isNegative (Binary64.digitsValue (whole ++ fraction))
              (exponent.getD 0 - fraction.length) with
          | .finite s m e => some (.float (.finite s m e), rest)
          | _ => none

def readNumber : List Char → Option (Data × List Char)
  | '-' :: cs => readUnsigned true cs
  | cs => readUnsigned false cs

/-- Sets the value of a key, at the place of the key if it is there and at the end if not. -/
def setKey (key : String) (value : Data) : List (String × Data) → List (String × Data)
  | [] => [(key, value)]
  | (k, v) :: es => if k = key then (k, value) :: es else (k, v) :: setKey key value es

mutual
def readValue : (fuel : Nat) → List Char → Option (Data × List Char)
  | 0, _ => none
  | fuel + 1, cs =>
    match skipBlanks cs with
    | 'n' :: 'u' :: 'l' :: 'l' :: rest => some (.null, rest)
    | 't' :: 'r' :: 'u' :: 'e' :: rest => some (.bool true, rest)
    | 'f' :: 'a' :: 'l' :: 's' :: 'e' :: rest => some (.bool false, rest)
    | '"' :: rest =>
      match readString none [] rest with
      | some (s, rest) => some (.text s, rest)
      | none => none
    | '[' :: rest =>
      match skipBlanks rest with
      | ']' :: rest => some (.list [], rest)
      | rest => readItems fuel [] rest
    | '\x7b' :: rest =>
      match skipBlanks rest with
      | '\x7d' :: rest => some (.map [], rest)
      | rest => readEntries fuel [] rest
    | rest => readNumber rest

/-- Reads the items of a list up to its end; `acc` holds those read, last first. -/
def readItems : (fuel : Nat) → (acc : List Data) → List Char → Option (Data × List Char)
  | 0, _, _ => none
  | fuel + 1, acc, cs =>
    match readValue fuel cs with
    | none => none
    | some (value, rest) =>
      match skipBlanks rest with
      | ',' :: rest => readItems fuel (value :: acc) rest
      | ']' :: rest => some (.list (value :: acc).reverse, rest)
      | _ => none

def readEntries : (fuel : Nat) → (acc : List (String × Data)) → List Char →
    Option (Data × List Char)
  | 0, _, _ => none
  | fuel + 1, acc, cs =>
    match skipBlanks cs with
    | '"' :: rest =>
      match readString none [] rest with
      | none => none
      | some (key, rest) =>
        match skipBlanks rest with
        | ':' :: rest =>
          match readValue fuel rest with
          | none => none
          | some (value, rest) =>
            match skipBlanks rest with
            | ',' :: rest => readEntries fuel (setKey key value acc) rest
            | '\x7d' :: rest => some (.map (setKey key value acc), rest)
            | _ => none
        | _ => none
    | _ => none
end

/-- Reads a JSON text; nothing if it is not one. -/
def parse? (s : String) : Option Data :=
  match readValue (2 * s.toList.length + 2) s.toList with
  | some (value, rest) => if (skipBlanks rest).isEmpty then some value else none
  | none => none

end DocPress.Json
