import DocPress.Binary64

/-! # Sums and products

The sum and the product of two floating-point numbers are the numbers nearest to the exact ones. -/

set_option autoImplicit false

namespace DocPress.Binary64

/-- The number nearest to `n · 2 ^ e`; a zero has the given sign. -/
def ofScaled (zeroNegative : Bool) (n : Int) (e : Int) : Binary64 :=
  if n = 0 then .finite zeroNegative 0 minExponent
  else
    let (num, den) := inUnits n.natAbs 1 (-e)
    ofQuotient (decide (n < 0)) num den

def add : Binary64 → Binary64 → Binary64
  | .nan, _ => .nan
  | _, .nan => .nan
  | .infinite s, .infinite t => if s = t then .infinite s else .nan
  | .infinite s, _ => .infinite s
  | _, .infinite t => .infinite t
  | .finite s m e, .finite t n f =>
    let low := min e f
    let a := Numeral.signed s (m * Nat.pow 2 (e - low).toNat)
    let b := Numeral.signed t (n * Nat.pow 2 (f - low).toNat)
    ofScaled (s && t) (a + b) low

def mul : Binary64 → Binary64 → Binary64
  | .nan, _ => .nan
  | _, .nan => .nan
  | .infinite s, .infinite t => .infinite (s != t)
  | .infinite s, .finite t n _ => if n = 0 then .nan else .infinite (s != t)
  | .finite s m _, .infinite t => if m = 0 then .nan else .infinite (s != t)
  | .finite s m e, .finite t n f => ofScaled (s != t) (Numeral.signed (s != t) (m * n)) (e + f)

end DocPress.Binary64
