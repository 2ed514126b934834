import DocPress.Text.Quoted

/-! # Bytes written as text

Bytes are written in base 64: four characters of the alphabet stand for three bytes, and equals
signs fill the last four. Characters outside the alphabet are passed over. -/

set_option autoImplicit false

namespace DocPress.Yaml.Bytes

def sextet? (c : Char) : Option Nat :=
  if 'A' ≤ c ∧ c ≤ 'Z' then some (c.toNat - 65)
  else if 'a' ≤ c ∧ c ≤ 'z' then some (c.toNat - 71)
  else if '0' ≤ c ∧ c ≤ '9' then some (c.toNat + 4)
  else if c = '+' then some 62
  else if c = '/' then some 63
  else none

/-- Reads bytes onto those of `done`, which are in reverse. `count` characters of the present four
have been read, with the bits `bits` not yet given out, and then `pads` equals signs. -/
def readFrom : (done : List Nat) → (count bits pads : Nat) → List Char → Option (List Nat)
  | done, count, _, _, [] => if count = 0 then some done.reverse else none
  | done, count, bits, pads, c :: cs =>
    if c = '=' then
      if 2 ≤ count then
        if 4 ≤ count + pads + 1 then some done.reverse else readFrom done count bits (pads + 1) cs
      else readFrom done count bits pads cs
    else
      match sextet? c with
      | none => readFrom done count bits pads cs
      | some n =>
        if count = 0 then readFrom done 1 n 0 cs
        else if count = 1 then readFrom ((bits * 4 + n / 16) :: done) 2 (n % 16) 0 cs
        else if count = 2 then readFrom ((bits * 16 + n / 4) :: done) 3 (n % 4) 0 cs
        else readFrom ((bits * 64 + n) :: done) 0 0 0 cs

def read? (text : String) : Option (List Nat) :=
  if text.toList.all fun c => decide (c.toNat < 128) then readFrom [] 0 0 0 text.toList else none

/-- The form in which bytes are shown: those of printable ASCII characters as the characters, the
others by their numbers. -/
def inspect (bytes : List Nat) : String :=
  let cs := bytes.map Char.ofNat
  let quote := Text.quoteFor cs
  let shown (c : Char) : List Char :=
    if c.toNat < 127 then Text.escapeQuoted quote c else Text.escapeCode c
  String.ofList ('b' :: quote :: cs.flatMap shown ++ [quote])

end DocPress.Yaml.Bytes
