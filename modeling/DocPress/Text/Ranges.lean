/-! # Sets of characters given by ranges

A property of characters that a standard lists as ranges of code points is kept as a list of
inclusive ranges, and `inRanges` decides it. -/

set_option autoImplicit false

namespace DocPress.Text

/-- Whether a code point lies in one of the inclusive ranges. -/
def inRanges (ranges : List (Nat × Nat)) (c : Char) : Bool :=
  ranges.any fun r => decide (r.1 ≤ c.toNat) && decide (c.toNat ≤ r.2)

end DocPress.Text
