import DocPress.Proofs.LinkTargets
import DocPress.Proofs.Numeral
import DocPress.TypeExpr.Render

/-! # Plain texts

A text without braces and without less-than signs means nothing to the markup of a page. The texts
that the program itself puts into fragments are of this kind.

* `isPlain_ofInt`, `Binary64.isPlain_text`: the numerals of whole numbers and of floating-point
  numbers.
* `isPlain_of_label`: the labels that replace the names of references.
* `ReferenceForm.isPlain_of`: the labels and fixed texts of the rules for references. -/

set_option autoImplicit false

namespace DocPress

/-- A character that opens no tag and neither opens nor closes an expression. -/
def IsPlainChar (c : Char) : Prop := c ≠ '<' ∧ c ≠ '\x7b' ∧ c ≠ '\x7d'

instance (c : Char) : Decidable (IsPlainChar c) :=
  inferInstanceAs (Decidable (c ≠ '<' ∧ c ≠ '\x7b' ∧ c ≠ '\x7d'))

def IsPlain (s : String) : Prop := ∀ c ∈ s.toList, IsPlainChar c

instance (s : String) : Decidable (IsPlain s) :=
  List.decidableBAll IsPlainChar s.toList

theorem isPlain_append {s s' : String} (first : IsPlain s) (second : IsPlain s') :
    IsPlain (s ++ s') := by
  intro c member
  rw [String.toList_append] at member
  cases List.mem_append.mp member with
  | inl inFirst => exact first c inFirst
  | inr inSecond => exact second c inSecond

/-! ## Numerals -/

theorem isPlainChar_digitChar : ∀ d < 10, IsPlainChar (Numeral.digitChar d) := by decide

theorem isPlainChar_of_mem_digits {n : Nat} {c : Char} (isDigit : c ∈ Numeral.digits n) :
    IsPlainChar c := by
  obtain ⟨d, small, rfl⟩ := Numeral.exists_digitChar_of_mem isDigit
  exact isPlainChar_digitChar d small

theorem isPlain_ofNat (n : Nat) : IsPlain (Numeral.ofNat n) := by
  intro c member
  rw [Numeral.ofNat, String.toList_ofList] at member
  exact isPlainChar_of_mem_digits member

theorem isPlain_ofInt (n : Int) : IsPlain (Numeral.ofInt n) := by
  cases n with
  | ofNat n => exact isPlain_ofNat n
  | negSucc n => exact isPlain_append (by decide) (isPlain_ofNat (n + 1))

namespace Binary64

theorem mem_of_mem_dropZeros {ds : List Char} {c : Char} (isKept : c ∈ (dropZeros ds).1) :
    c ∈ ds := by
  have dropped := (List.dropWhile_suffix _).subset (List.mem_reverse.mp isKept)
  exact List.mem_reverse.mp dropped

theorem isPlainChar_of_mem_layOut {ds : List Char} {point : Int}
    (digits : ∀ c ∈ ds, IsPlainChar c) : ∀ c ∈ layOut ds point, IsPlainChar c := by
  have marks : ∀ c ∈ ['0', '.', 'e', '-', '+'], IsPlainChar c := by simp [IsPlainChar]
  have zeros (n : Nat) : ∀ c ∈ List.replicate n '0', IsPlainChar c := by
    intro c member
    obtain rfl := List.eq_of_mem_replicate member
    decide
  have power (n : Nat) : ∀ c ∈ Numeral.digits n, IsPlainChar c :=
    fun c member => isPlainChar_of_mem_digits member
  have front (n : Nat) : ∀ c ∈ ds.take n, IsPlainChar c :=
    fun c member => digits c (List.mem_of_mem_take member)
  have back (n : Nat) : ∀ c ∈ ds.drop n, IsPlainChar c :=
    fun c member => digits c (List.mem_of_mem_drop member)
  intro c member
  unfold layOut at member
  grind

theorem isPlain_text (x : Binary64) : IsPlain x.text := by
  cases x with
  | nan => decide
  | infinite negative => cases negative <;> decide
  | finite negative m e =>
    have sign : IsPlain (if negative then "-" else "") := by cases negative <;> decide
    rw [text]
    -- the digits are not computed here: any digits will do
    generalize shortest m e = found
    obtain ⟨n, k⟩ := found
    split
    · exact isPlain_append sign (by decide)
    · apply isPlain_append sign
      intro c member
      rw [String.toList_ofList] at member
      apply isPlainChar_of_mem_layOut _ c member
      intro d isKept
      exact isPlainChar_of_mem_digits (mem_of_mem_dropZeros isKept)

end Binary64

/-! ## Fixed texts -/

theorem isPlain_of_label {unit : DocUnit} {ref : Reference} {target : LinkTarget} {label : String}
    (resolved : Link.resolve unit ref = .ok target) (isLabel : target.label? = some label) :
    IsPlain label := by
  have all : ∀ target ∈ Link.fixedTargets, ∀ label ∈ target.label?, IsPlain label := by decide
  exact all target ((Link.leads_of_resolve resolved).isFixed_of_label isLabel) label isLabel

/-- The style classes of code tags. -/
def Markup.styles : List String := ["primitive", "symbol", "type"]

/-- A rule that puts nothing but plain texts of its own into a fragment. -/
def ReferenceForm.IsPlain : ReferenceForm → Prop
  | later label | input label => DocPress.IsPlain label
  | fixed style text => style ∈ Markup.styles ∧ DocPress.IsPlain text
  | languageGeneric | transform | passThrough | link | misnamed _ => True

/-- What is looked up in a table is what a row of it gives. -/
theorem mem_of_lookup {α β : Type} [BEq α] [LawfulBEq α] {key : α} {value : β}
    {table : List (α × β)} (found : table.lookup key = some value) : (key, value) ∈ table := by
  obtain ⟨before, after, rfl, -⟩ := List.lookup_eq_some_iff.mp found
  exact List.mem_append_right before List.mem_cons_self

theorem ReferenceForm.isPlain_ofName (package : Option String) (name : String) :
    (ofName package name).IsPlain := by
  have laterLabels : ∀ row ∈ laterWrappers, DocPress.IsPlain row.2 := by decide
  have inputLabels : ∀ row ∈ inputWrappers, DocPress.IsPlain row.2 := by decide
  have inPackage : ∀ row ∈ fixedInPackage, row.2.1 ∈ Markup.styles ∧ DocPress.IsPlain row.2.2 := by
    decide
  have anywhere : ∀ row ∈ fixedAnywhere, row.2.1 ∈ Markup.styles ∧ DocPress.IsPlain row.2.2 := by
    decide
  unfold ofName
  dsimp only
  split
  · trivial
  split
  · rename_i label found
    exact laterLabels _ (mem_of_lookup found)
  split
  · rename_i label found
    exact inputLabels _ (mem_of_lookup found)
  split
  · trivial
  split
  · rename_i style text found
    cases Option.or_eq_some_iff.mp found with
    | inl found =>
      obtain ⟨p, -, found⟩ := Option.bind_eq_some_iff.mp found
      exact inPackage _ (mem_of_lookup found)
    | inr found => exact anywhere _ (mem_of_lookup found.2)
  · trivial

theorem ReferenceForm.isPlain_of (package : Option Data) (name : Data) :
    (ReferenceForm.of package name).IsPlain := by
  unfold ReferenceForm.of
  split
  · trivial
  · split
    · trivial
    · exact isPlain_ofName _ _
    · trivial

end DocPress
