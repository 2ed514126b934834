import DocPress.TypeExpr.Render

/-! # Kinds of references

The rule by which a reference is rendered is looked up by its package and its name. There are four
kinds of references: the generic types of the language, the wrappers, the references with a fixed
text, and the links. A list or a map cannot be looked up.

* `Reference.IsLanguage`, `Reference.IsWrapper`, `Reference.HasFixedText`: the first three kinds.
* `Reference.Misfits`: the references without a rule.
* `Reference.form_cases`: each other reference is rendered by a rule for its kind. -/

set_option autoImplicit false

namespace DocPress

namespace Reference

def IsLanguage (ref : Reference) : Prop := ref.package = some (.text "typescript")

/-- A reference whose package and name have a row in a table. -/
def InTable {α : Type} (table : List ((String × String) × α)) (ref : Reference) : Prop :=
  ∃ package name value, ref.package = some (.text package) ∧ ref.name = .text name ∧
    ((package, name), value) ∈ table

/-- A reference to a wrapper, of which the first type argument is shown. -/
def IsWrapper (ref : Reference) : Prop :=
  ref.name = .text "Transform" ∨ ref.InTable ReferenceForm.laterWrappers ∨
    ref.InTable ReferenceForm.inputWrappers ∨
    ∃ name ∈ ReferenceForm.passThroughNames, ref.name = .text name

def HasFixedText (ref : Reference) : Prop :=
  ref.InTable ReferenceForm.fixedInPackage ∨
    ∃ name shown, (name, shown) ∈ ReferenceForm.fixedAnywhere ∧ ref.name = .text name

/-- A reference whose package or name is to be looked up but is a list or a map. -/
def Misfits (ref : Reference) : Prop :=
  ref.name ≠ .text "Transform" ∧ (ref.name.isKey = false ∨
    ∃ package, ref.package = some package ∧ package.isKey = false ∧
      (package.isTrue = true ∨ ∀ name ∈ ReferenceForm.passThroughNames, ref.name ≠ .text name))

end Reference

/-- The rules by which a reference is shown through its first type argument. -/
def ReferenceForm.ShowsPayload : ReferenceForm → Prop
  | .transform | .later _ | .input _ | .passThrough => True
  | .languageGeneric | .fixed _ _ | .link | .misnamed _ => False

theorem isSome_lookup_iff {α β : Type} [BEq α] [LawfulBEq α] {key : α} {table : List (α × β)} :
    (table.lookup key).isSome ↔ ∃ value, (key, value) ∈ table := by
  rw [List.lookup_isSome_iff]
  constructor
  · rintro ⟨⟨key', value⟩, member, same⟩
    cases eq_of_beq same
    exact ⟨value, member⟩
  · rintro ⟨value, member⟩
    exact ⟨(key, value), member, BEq.rfl⟩

/-- Looking up an absent package as an empty one finds nothing, as no table has an empty one. -/
theorem lookup_getD_empty {α : Type} {table : List ((String × String) × α)}
    (nonempty : ∀ row ∈ table, row.1.1 ≠ "") (package : Option String) (name : String) :
    table.lookup (package.getD "", name) = package.bind fun p => table.lookup (p, name) := by
  cases package with
  | some package => rfl
  | none =>
    refine List.lookup_eq_none_iff.mpr fun row member => ?_
    have different := nonempty row member
    simp only [Option.getD_none, bne_iff_ne, ne_eq]
    intro same
    exact different (congrArg Prod.fst same).symm

theorem Data.isIn_iff {d : Data} {texts : List String} :
    d.isIn texts = true ↔ ∃ s ∈ texts, d = .text s := by
  cases d <;> simp [Data.isIn, Data.text?]

namespace Reference

variable {ref : Reference} {name : String}

theorem isSome_bind_lookup_iff {α : Type} {table : List ((String × String) × α)}
    (isNamed : ref.name = .text name) :
    ((ref.package.bind Data.text?).bind fun p => table.lookup (p, name)).isSome ↔
      ref.InTable table := by
  constructor
  · intro found
    obtain ⟨value, found⟩ := Option.isSome_iff_exists.mp found
    obtain ⟨package, isText, found⟩ := Option.bind_eq_some_iff.mp found
    obtain ⟨d, isPackage, isText⟩ := Option.bind_eq_some_iff.mp isText
    cases d <;> cases isText
    obtain ⟨value, member⟩ := isSome_lookup_iff.mp (Option.isSome_of_eq_some found)
    exact ⟨package, name, value, isPackage, isNamed, member⟩
  · rintro ⟨package, name', value, isPackage, isNamed', member⟩
    cases isNamed.symm.trans isNamed'
    rw [isPackage]
    exact isSome_lookup_iff.mpr ⟨value, member⟩

theorem isWrapper_iff (isNamed : ref.name = .text name) : ref.IsWrapper ↔
    name = "Transform" ∨
    (ReferenceForm.laterWrappers.lookup ((ref.package.bind Data.text?).getD "", name)).isSome ∨
    (ReferenceForm.inputWrappers.lookup ((ref.package.bind Data.text?).getD "", name)).isSome ∨
    name ∈ ReferenceForm.passThroughNames := by
  rw [lookup_getD_empty (by decide), lookup_getD_empty (by decide),
    isSome_bind_lookup_iff isNamed, isSome_bind_lookup_iff isNamed]
  simp [IsWrapper, isNamed]

theorem hasFixedText_iff (isNamed : ref.name = .text name) : ref.HasFixedText ↔
    (((ref.package.bind Data.text?).bind fun p =>
      ReferenceForm.fixedInPackage.lookup (p, name)).or
        (ReferenceForm.fixedAnywhere.lookup name)).isSome := by
  rw [Option.isSome_or, Bool.or_eq_true, isSome_bind_lookup_iff isNamed, isSome_lookup_iff]
  simp [HasFixedText, isNamed]

theorem ofName_cases (isNamed : ref.name = .text name) :
    (ref.IsWrapper ∧ (ReferenceForm.ofName (ref.package.bind Data.text?) name).ShowsPayload) ∨
    (¬ ref.IsWrapper ∧ ref.HasFixedText ∧
      ∃ style text, ReferenceForm.ofName (ref.package.bind Data.text?) name = .fixed style text) ∨
    (¬ ref.IsWrapper ∧ ¬ ref.HasFixedText ∧
      ReferenceForm.ofName (ref.package.bind Data.text?) name = .link) := by
  rw [isWrapper_iff isNamed, hasFixedText_iff isNamed, ReferenceForm.ofName]
  by_cases isTransform : name = "Transform"
  · simp [isTransform, ReferenceForm.ShowsPayload]
  cases ReferenceForm.laterWrappers.lookup ((ref.package.bind Data.text?).getD "", name) with
  | some label => simp [isTransform, ReferenceForm.ShowsPayload]
  | none =>
  cases ReferenceForm.inputWrappers.lookup ((ref.package.bind Data.text?).getD "", name) with
  | some label => simp [isTransform, ReferenceForm.ShowsPayload]
  | none =>
  by_cases passThrough : name ∈ ReferenceForm.passThroughNames
  · simp [isTransform, passThrough, ReferenceForm.ShowsPayload]
  cases ((ref.package.bind Data.text?).bind fun p =>
      ReferenceForm.fixedInPackage.lookup (p, name)).or
        (ReferenceForm.fixedAnywhere.lookup name) with
  | some shown => simp [isTransform, passThrough]
  | none => simp [isTransform, passThrough]

theorem misfits_iff : ref.Misfits ↔ (ReferenceForm.misfit? ref.package ref.name).isSome := by
  have notPassThrough : (∀ name ∈ ReferenceForm.passThroughNames, ref.name ≠ .text name) ↔
      ref.name.isIn ReferenceForm.passThroughNames = false := by
    rw [← Bool.not_eq_true, Data.isIn_iff]
    simp
  unfold Misfits ReferenceForm.misfit?
  rw [notPassThrough]
  by_cases isTransform : ref.name = .text "Transform"
  · simp [isTransform]
  cases ref.package with
  | none => simp [isTransform]
  | some package =>
    cases present : package.isTrue <;>
      cases ref.name.isIn ReferenceForm.passThroughNames <;>
      simp [isTransform, present, Option.filter, or_comm]

theorem misfit?_eq_none (fits : ¬ ref.Misfits) :
    ReferenceForm.misfit? ref.package ref.name = none := by
  simpa [misfits_iff] using fits

theorem of_eq_ofName (notLanguage : ¬ ref.IsLanguage) (fits : ¬ ref.Misfits)
    (isNamed : ref.name = .text name) :
    ReferenceForm.of ref.package ref.name =
      ReferenceForm.ofName (ref.package.bind Data.text?) name := by
  refine (if_neg notLanguage).trans ?_
  rw [misfit?_eq_none fits, isNamed]

theorem of_eq_link (notLanguage : ¬ ref.IsLanguage) (fits : ¬ ref.Misfits)
    (notText : ¬ ∃ name, ref.name = .text name) :
    ReferenceForm.of ref.package ref.name = .link := by
  refine (if_neg notLanguage).trans ?_
  rw [misfit?_eq_none fits]
  cases isNamed : ref.name with
  | text name => exact absurd ⟨name, isNamed⟩ notText
  | _ => rfl

theorem of_eq_misnamed (notLanguage : ¬ ref.IsLanguage) (misfits : ref.Misfits) :
    ∃ value, ReferenceForm.of ref.package ref.name = .misnamed value := by
  obtain ⟨value, isMisfit⟩ := Option.isSome_iff_exists.mp (misfits_iff.mp misfits)
  refine ⟨value, (if_neg notLanguage).trans ?_⟩
  rw [isMisfit]

/-- Each reference that can be looked up is of one kind, which decides on the rule that it is shown
by. -/
theorem form_cases (ref : Reference) :
    (ref.IsLanguage ∧ ReferenceForm.of ref.package ref.name = .languageGeneric) ∨
    (¬ ref.IsLanguage ∧ ref.Misfits ∧
      ∃ value, ReferenceForm.of ref.package ref.name = .misnamed value) ∨
    (¬ ref.IsLanguage ∧ ¬ ref.Misfits ∧ ref.IsWrapper ∧
      (ReferenceForm.of ref.package ref.name).ShowsPayload) ∨
    (¬ ref.IsLanguage ∧ ¬ ref.Misfits ∧ ¬ ref.IsWrapper ∧ ref.HasFixedText ∧
      ∃ style text, ReferenceForm.of ref.package ref.name = .fixed style text) ∨
    (¬ ref.IsLanguage ∧ ¬ ref.Misfits ∧ ¬ ref.IsWrapper ∧ ¬ ref.HasFixedText ∧
      ReferenceForm.of ref.package ref.name = .link) := by
  by_cases language : ref.IsLanguage
  · exact .inl ⟨language, if_pos language⟩
  by_cases misfits : ref.Misfits
  · exact .inr (.inl ⟨language, misfits, of_eq_misnamed language misfits⟩)
  by_cases isText : ∃ name, ref.name = .text name
  · obtain ⟨name, isNamed⟩ := isText
    have cases := ofName_cases isNamed
    rw [← of_eq_ofName language misfits isNamed] at cases
    exact .inr (.inr (by simpa [language, misfits] using cases))
  · have notWrapper : ¬ ref.IsWrapper := by
      simp_all [IsWrapper, InTable]
    have notFixed : ¬ ref.HasFixedText := by
      simp_all [HasFixedText, InTable]
    exact .inr (.inr (.inr (.inr
      ⟨language, misfits, notWrapper, notFixed, of_eq_link language misfits isText⟩)))

/-! ## Rules that show no type argument -/

section

variable (unit : DocUnit) (unwrap : Bool)

theorem render_of_misnamed {value : Data}
    (form : ReferenceForm.of ref.package ref.name = .misnamed value) :
    ref.render unit unwrap = .error (.notText value .lookedUp) := by
  obtain ⟨name, package, qualifiedName, arguments, target⟩ := ref
  unfold Reference.render
  simp only [form]

theorem render_of_fixed {style text : String}
    (form : ReferenceForm.of ref.package ref.name = .fixed style text) :
    ref.render unit unwrap = .ok (Markup.code style text) := by
  obtain ⟨name, package, qualifiedName, arguments, target⟩ := ref
  unfold Reference.render
  simp only [form]

theorem render_of_link (form : ReferenceForm.of ref.package ref.name = .link) :
    ref.render unit unwrap = TypeExpr.renderLink unit ref := by
  obtain ⟨name, package, qualifiedName, arguments, target⟩ := ref
  unfold Reference.render
  simp only [form]

end

end Reference

end DocPress
