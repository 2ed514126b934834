import DocPress.Proofs.DecodeSteps
import DocPress.Proofs.Numeral
import DocPress.TypeExpr.Render

/-! # Whole numbers of any size as types

A literal type may be a whole number that no floating-point number can hold. A document describes it
by the digits of its absolute value, with the sign kept apart from them, and it is shown by its
numeral. No digit is lost on the way.

* `Data.TellsNumber`: the descriptions of a whole number by its digits and its sign.
* `Literal.decode_of_tellsNumber`: the number that is read from such a description.
* `TypeExpr.render_of_tellsNumber`: the type that is read from it, and the fragment of that type. -/

set_option autoImplicit false

namespace DocPress

/-- A description of a whole number: the decimal digits of its absolute value, and whether it is
negative. -/
structure Data.TellsNumber (n : Int) (d : Data) : Prop where
  digits : d.field? "value" = some (.text (toString n.natAbs))
  sign : d.field? "negative" = some (.bool (decide (n < 0)))

/-- A description of a literal type whose value is described by its digits and its sign. -/
structure Data.TellsNumberType (n : Int) (d : Data) : Prop where
  tag : d.field? "type" = some (.text "literal")
  value : ∃ v, d.field? "value" = some v ∧ v.TellsNumber n

namespace Numeral

theorem isWritable_natAbs (n : Int) : isWritable (n.natAbs : Int) = isWritable n := by
  rw [isWritable, isWritable, Int.natAbs_natCast]

end Numeral

theorem Data.flagAt_of_bool {d : Data} {key : String} {b : Bool}
    (found : d.field? key = some (.bool b)) : d.flagAt key = b := by
  rw [flagAt, present?, found]
  cases b <;> rfl

namespace Literal

/-- The digits and the sign make up the number, if the digits are not too many. -/
theorem decode_of_tellsNumber {n : Int} {d : Data} (tells : d.TellsNumber n) :
    decode d = if Numeral.isWritable n then .ok (.int n) else .error .notANumeral := by
  have signed : (if decide (n < 0) = true then -(n.natAbs : Int) else n.natAbs) = n := by
    simp only [decide_eq_true_eq]
    split <;> omega
  cases d with
  | map entries =>
    simp only [decode, tells.digits, ← Numeral.ofNat_eq_toString, Numeral.read?_ofNat,
      Numeral.isWritable_natAbs, Data.flagAt_of_bool tells.sign]
    cases Numeral.isWritable n with
    | true => exact congrArg (fun m => Except.ok (Literal.int m)) signed
    | false => rfl
  | _ => cases tells.digits

end Literal

namespace TypeExpr

/-- A literal type that is described by the digits and the sign of a whole number is that number,
whatever its size up to the bound on numerals, and it is shown by the usual numeral of the number,
with all digits. -/
theorem render_of_tellsNumber (n : Int) (d : Data) (tells : d.TellsNumberType n) (index : Index)
    (unit : DocUnit) (unwrap : Bool) :
    decode index d =
      (if Numeral.isWritable n then .ok (.literal (.int n)) else .error .notANumeral) ∧
    (literal (.int n)).render unit unwrap =
      if Numeral.isWritable n then .ok (Markup.quoted (toString n))
      else .error .numberTooLong := by
  constructor
  · obtain ⟨v, isValue, tellsNumber⟩ := tells.value
    rw [decode_literalType tells.tag, isValue, Option.getD_some,
      Literal.decode_of_tellsNumber tellsNumber]
    cases Numeral.isWritable n <;> rfl
  · rw [render, renderLiteral, literalFragment, Numeral.ofInt_eq_toString]
    rfl

/-- The number `-9007199254740993`, which no floating-point number of 64 bits equals. -/
def beyondFloats : Data :=
  .map
    [("type", "literal"),
      ("value", .map [("negative", .bool true), ("value", "9007199254740993")])]

theorem render_of_tellsNumber_beyondFloats :
    beyondFloats.TellsNumberType (-9007199254740993) ∧
    decode [] beyondFloats = .ok (.literal (.int (-9007199254740993))) ∧
    (literal (.int (-9007199254740993))).render ⟨.text "unit", [], none, none⟩ false =
      .ok (Markup.quoted "-9007199254740993") := by
  have tells : beyondFloats.TellsNumberType (-9007199254740993) := ⟨rfl, _, rfl, ⟨rfl, rfl⟩⟩
  obtain ⟨read, shown⟩ := render_of_tellsNumber _ _ tells [] ⟨.text "unit", [], none, none⟩ false
  have short : Numeral.isWritable (-9007199254740993) = true := by decide +kernel
  rw [if_pos short] at read shown
  exact ⟨tells, read, shown⟩

end TypeExpr

end DocPress
