import DocPress.Text.Ranges
import DocPress.Text.Lowercase.Table

/-! # Lower-casing

The full lower-case mapping of a text. Each character has its own lower-case form, except that the
dotted capital `İ` becomes two characters, and that the capital sigma becomes the final form `ς`
where a cased character stands before it and none after it. -/

set_option autoImplicit false

namespace DocPress.Text

/-- The lower-case form of one character that has a single one. -/
def lowerChar (c : Char) : Char :=
  if c.toNat < 128 then
    (if 65 ≤ c.toNat ∧ c.toNat ≤ 90 then Char.ofNat (c.toNat + 32) else c)
  else
    match lowerRuns.find? fun r =>
        decide (r.1 ≤ c.toNat) && decide (c.toNat ≤ r.2.1)
          && decide ((c.toNat - r.1) % r.2.2.1 = 0) with
    | some r => Char.ofNat (Int.toNat (c.toNat + r.2.2.2))
    | none => c

/-- Whether the nearest character that is not looked past has case. -/
def nearestIsCased (cs : List Char) : Bool :=
  match cs.dropWhile (inRanges caseIgnorableRanges) with
  | [] => false
  | c :: _ => inRanges casedRanges c

/-- The lower-case form of a text; `before` holds the characters already passed, nearest first. -/
def lowerFrom (before : List Char) : List Char → List Char
  | [] => []
  | c :: cs =>
    (if c.toNat = 0x3A3 then
        (if nearestIsCased before && !nearestIsCased cs then [Char.ofNat 0x3C2]
         else [Char.ofNat 0x3C3])
      else if c.toNat = 0x130 then ['i', Char.ofNat 0x307]
      else [lowerChar c])
    ++ lowerFrom (c :: before) cs

def lower (s : String) : String := String.ofList (lowerFrom [] s.toList)

end DocPress.Text
