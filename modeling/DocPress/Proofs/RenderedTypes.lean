import DocPress.Proofs.ClientLink
import DocPress.Proofs.ReferenceKinds
import Mathlib.Logic.Relation
import Mathlib.Tactic.ByContra

/-! # Which types are rendered

A type has a fragment unless some type that its fragment shows has no rendering. Which types a
fragment shows depends on the type and on the references that it goes through, but not on whether
wrappers of later values are left out.

* `TypeExpr.Displays`, `TypeExpr.Rendered`: the types that the fragment of a type shows, in one step
  and in any number of steps.
* `TypeExpr.Showable`: the types that have a fragment if the types that they show next have one.
* `TypeExpr.render_succeeds_iff`: a type is rendered if and only if it shows only such types. -/

set_option autoImplicit false

namespace DocPress

/-! ## What a fragment shows -/

/-- The types that the fragment of a type shows in one step. -/
inductive TypeExpr.Displays : TypeExpr → TypeExpr → Prop
  | member {members : List TypeExpr} {t : TypeExpr} (isMember : t ∈ members) :
      (TypeExpr.union members).Displays t
  | element {t : TypeExpr} : (TypeExpr.array t).Displays t
  | first {t : TypeExpr} {rest : List TypeExpr} : (TypeExpr.tuple (t :: rest)).Displays t
  | argument {ref : Reference} {t : TypeExpr} (language : ref.IsLanguage)
      (isArgument : t ∈ ref.arguments) : (TypeExpr.reference ref).Displays t
  | payload {ref : Reference} {t : TypeExpr} (notLanguage : ¬ ref.IsLanguage)
      (wrapper : ref.IsWrapper) (isFirst : ref.arguments.head? = some t) :
      (TypeExpr.reference ref).Displays t
  | parameter {parameters : List Declaration} {result : TypeExpr} {d : Declaration}
      {t : TypeExpr} (isParameter : d ∈ parameters)
      (noLink : ¬ DocComment.GivesTypeLink d.comment) (type : d.declaredType? = some t) :
      (TypeExpr.callable parameters result).Displays t
  | result {parameters : List Declaration} {t : TypeExpr} :
      (TypeExpr.callable parameters t).Displays t

/-- The types that the fragment of a type shows, the type itself among them. -/
def TypeExpr.Rendered : TypeExpr → TypeExpr → Prop := Relation.ReflTransGen TypeExpr.Displays

/-- A parameter that cannot be shown, whatever its type. -/
inductive Declaration.UnsupportedParameter (d : Declaration) : Prop
  | untyped (noLink : ¬ DocComment.GivesTypeLink d.comment) (noType : d.declaredType? = none)
  | default {value : Data} (isDefault : d.defaultValue = some value)
      (present : value.isTrue = true) (notEmptyObject : value ≠ .text "\x7b\x7d")

/-- The types that have no fragment on the page of a unit, whatever the types that they show. -/
inductive TypeExpr.Unsupported (unit : DocUnit) : TypeExpr → Prop
  | other {tag : String} : Unsupported unit (.other tag)
  | emptyTuple : Unsupported unit (.tuple [])
  | noFields : Unsupported unit (.object [])
  | notOneHole {head : Data} {spans : List (TypeExpr × Data)}
      (notOneHole : ∀ hole tail, spans ≠ [(.primitive hole, tail)]) :
      Unsupported unit (.template head spans)
  | argumentMissing {ref : Reference} (notLanguage : ¬ ref.IsLanguage)
      (wrapper : ref.IsWrapper) (missing : ref.arguments = []) :
      Unsupported unit (.reference ref)
  | unresolved {ref : Reference} (notLanguage : ¬ ref.IsLanguage) (notWrapper : ¬ ref.IsWrapper)
      (notFixed : ¬ ref.HasFixedText) (fails : ∀ target, Link.resolve unit ref ≠ .ok target) :
      Unsupported unit (.reference ref)
  | parameter {parameters : List Declaration} {result : TypeExpr} {d : Declaration}
      (isParameter : d ∈ parameters) (unsupported : d.UnsupportedParameter) :
      Unsupported unit (.callable parameters result)

/-- The types of malformed documents that have something other than a text where a text is rendered,
or a list or a map where a reference is looked up. -/
inductive TypeExpr.LacksText : TypeExpr → Prop
  | head {head hole tail : Data} (noText : ∀ s, head ≠ .text s) :
      LacksText (.template head [(.primitive hole, tail)])
  | tail {head hole tail : Data} (noText : ∀ s, tail ≠ .text s) :
      LacksText (.template head [(.primitive hole, tail)])
  | parameter {parameters : List Declaration} {result : TypeExpr} {d : Declaration}
      (isParameter : d ∈ parameters) (noText : DocComment.SeesNoText d.comment) :
      LacksText (.callable parameters result)
  | misfit {ref : Reference} (notLanguage : ¬ ref.IsLanguage) (misfits : ref.Misfits) :
      LacksText (.reference ref)

/-- A literal type whose value is a whole number without a numeral. -/
inductive TypeExpr.Overlong : TypeExpr → Prop
  | literal {n : Int} (tooLong : Numeral.isWritable n = false) : Overlong (.literal (.int n))

/-- The types that have a fragment on the page of a unit if the types that it shows next have. -/
structure TypeExpr.Showable (unit : DocUnit) (t : TypeExpr) : Prop where
  supported : ¬ t.Unsupported unit
  textual : ¬ t.LacksText
  short : ¬ t.Overlong

/-! ## What succeeds -/

def Succeeds {ε α : Type} (x : Except ε α) : Prop := ∃ a, x = .ok a

section

variable {ε α β : Type}

@[simp] theorem succeeds_ok (a : α) : Succeeds (.ok a : Except ε α) := ⟨a, rfl⟩

@[simp] theorem not_succeeds_error (fault : ε) : ¬ Succeeds (.error fault : Except ε α) := by
  simp [Succeeds]

/-- A sequence succeeds if both parts do, where the second does not depend on the value. -/
theorem succeeds_bind_iff {x : Except ε α} {f : α → Except ε β} {p : Prop}
    (next : ∀ a, x = .ok a → (Succeeds (f a) ↔ p)) : Succeeds (x >>= f) ↔ Succeeds x ∧ p := by
  cases x with
  | error fault => simp [Succeeds, bind, Except.bind]
  | ok a =>
    rw [← next a rfl]
    simp [bind, Except.bind]

/-- What is made of the value of a computation does not change whether it succeeds. -/
theorem succeeds_bind_pure_iff {x : Except ε α} {f : α → β} :
    Succeeds (x >>= fun a => pure (f a)) ↔ Succeeds x := by
  rw [succeeds_bind_iff (p := True) fun a _ => by simp [pure, Except.pure], and_true]

end

theorem Data.succeeds_required_iff (d : Data) (use : TextUse) :
    Succeeds (d.required use) ↔ ∃ s, d = .text s := by
  cases d <;> simp [Data.required]

theorem TypeExpr.succeeds_renderTemplate_iff (head hole tail : Data) :
    Succeeds (TypeExpr.renderTemplate head hole tail) ↔
      (∃ s, head = .text s) ∧ ∃ s, tail = .text s := by
  rw [TypeExpr.renderTemplate, succeeds_bind_iff fun _ _ => succeeds_bind_pure_iff,
    Data.succeeds_required_iff, Data.succeeds_required_iff]

theorem TypeExpr.succeeds_renderLink_iff (unit : DocUnit) (ref : Reference) :
    Succeeds (TypeExpr.renderLink unit ref) ↔ ∃ target, Link.resolve unit ref = .ok target := by
  unfold TypeExpr.renderLink
  cases Link.resolve unit ref <;> simp

theorem TypeExpr.succeeds_renderAll_iff (unit : DocUnit) (unwrap : Bool) (ts : List TypeExpr) :
    Succeeds (TypeExpr.renderAll unit unwrap ts) ↔ ∀ t ∈ ts, Succeeds (t.render unit unwrap) := by
  induction ts with
  | nil => simp [TypeExpr.renderAll]
  | cons t ts inductionHypothesis =>
    rw [TypeExpr.renderAll, succeeds_bind_iff fun _ _ => succeeds_bind_pure_iff,
      inductionHypothesis, List.forall_mem_cons]

theorem TypeExpr.succeeds_renderFirst_iff (unit : DocUnit) (unwrap : Bool) (ref : Reference)
    (ts : List TypeExpr) : Succeeds (TypeExpr.renderFirst unit unwrap ref ts) ↔
      ts ≠ [] ∧ ∀ t, ts.head? = some t → Succeeds (t.render unit unwrap) := by
  cases ts with
  | nil => simp [TypeExpr.renderFirst]
  | cons t ts => simp [TypeExpr.renderFirst]

theorem Declaration.succeeds_parameterName_iff (d : Declaration) : Succeeds d.parameterName ↔
    ∀ value, d.defaultValue = some value → value.isTrue → value = .text "\x7b\x7d" := by
  unfold Declaration.parameterName
  cases d.defaultValue with
  | none => simp
  | some value =>
    by_cases present : value.isTrue
    · by_cases emptyObject : value = .text "\x7b\x7d"
      · simp [emptyObject, Option.filter, Data.isTrue]
      · simp [present, emptyObject, Option.filter]
    · simp [present, Option.filter]

theorem Declaration.renderType_eq (unit : DocUnit) (unwrap : Bool) (d : Declaration) :
    d.renderType unit unwrap =
      match DocComment.typeLink? d.comment with
      | .error fault => .error fault
      | .ok (some link) => .ok link
      | .ok none => TypeExpr.renderDeclared unit unwrap d.name d.declaredType? := by
  obtain ⟨name, kind, modifiers, comment, type, signatures, getter, children, path, value⟩ := d
  unfold Declaration.renderType
  rcases getter with _ | ⟨_, _, _, _⟩ <;> cases kind <;> rfl

theorem Declaration.succeeds_renderType_iff (unit : DocUnit) (unwrap : Bool) (d : Declaration) :
    Succeeds (d.renderType unit unwrap) ↔ ¬ DocComment.SeesNoText d.comment ∧
      (¬ DocComment.GivesTypeLink d.comment →
        ∃ t, d.declaredType? = some t ∧ Succeeds (t.render unit unwrap)) := by
  rw [Declaration.renderType_eq]
  rcases DocComment.typeLink?_cases d.comment with
    ⟨gives, link, isLink⟩ | ⟨notGiven, text, isNone⟩ | ⟨noText, fault, fails⟩
  · simp [isLink, gives, gives.not_seesNoText]
  · rw [isNone]
    cases d.declaredType? with
    | none => simp [TypeExpr.renderDeclared, notGiven]
    | some t => simp [TypeExpr.renderDeclared, notGiven, text]
  · simp [fails, noText]

theorem Declaration.succeeds_renderParameters_iff (unit : DocUnit) (unwrap : Bool)
    (ds : List Declaration) : Succeeds (Declaration.renderParameters unit unwrap ds) ↔
      ∀ d ∈ ds, Succeeds d.parameterName ∧ Succeeds (d.renderType unit unwrap) := by
  induction ds with
  | nil => simp [Declaration.renderParameters]
  | cons d ds inductionHypothesis =>
    rw [Declaration.renderParameters, succeeds_bind_iff fun _ _ =>
      succeeds_bind_iff fun _ _ => succeeds_bind_pure_iff, inductionHypothesis,
      List.forall_mem_cons, and_assoc]

section

variable (unit : DocUnit) (unwrap : Bool) {ref : Reference}

/-- A generic type of the language is rendered if all its type arguments are. -/
theorem Reference.succeeds_render_of_languageGeneric
    (form : ReferenceForm.of ref.package ref.name = .languageGeneric) :
    Succeeds (ref.render unit unwrap) ↔ ∀ t ∈ ref.arguments, Succeeds (t.render unit unwrap) := by
  obtain ⟨name, package, qualifiedName, arguments, target⟩ := ref
  unfold Reference.render
  simp only [form]
  cases arguments with
  | nil => simp
  | cons t ts => simp only [succeeds_bind_pure_iff, TypeExpr.succeeds_renderAll_iff]

/-- A wrapper is rendered if its first type argument is. -/
theorem Reference.succeeds_render_of_showsPayload
    (payload : (ReferenceForm.of ref.package ref.name).ShowsPayload) :
    Succeeds (ref.render unit unwrap) ↔
      Succeeds (TypeExpr.renderFirst unit unwrap ref ref.arguments) := by
  obtain ⟨name, package, qualifiedName, arguments, target⟩ := ref
  unfold Reference.render
  cases form : ReferenceForm.of package name with
  | transform | later | input | passThrough => simp only [succeeds_bind_pure_iff]
  | languageGeneric | fixed | link | misnamed =>
    rw [form] at payload
    exact payload.elim

theorem Reference.not_succeeds_render_of_misnamed {value : Data}
    (form : ReferenceForm.of ref.package ref.name = .misnamed value) :
    ¬ Succeeds (ref.render unit unwrap) := by
  rw [Reference.render_of_misnamed unit unwrap form]
  exact not_succeeds_error _

theorem Reference.succeeds_render_of_fixed {style text : String}
    (form : ReferenceForm.of ref.package ref.name = .fixed style text) :
    Succeeds (ref.render unit unwrap) := by
  rw [Reference.render_of_fixed unit unwrap form]
  exact succeeds_ok _

theorem Reference.succeeds_render_of_link
    (form : ReferenceForm.of ref.package ref.name = .link) :
    Succeeds (ref.render unit unwrap) ↔ ∃ target, Link.resolve unit ref = .ok target := by
  rw [Reference.render_of_link unit unwrap form, TypeExpr.succeeds_renderLink_iff]

end

/-- A reference is rendered if its kind is, and if the types are that its fragment shows next. -/
theorem Reference.succeeds_render_iff (unit : DocUnit) (unwrap : Bool) (ref : Reference) :
    Succeeds (ref.render unit unwrap) ↔ (TypeExpr.reference ref).Showable unit ∧
      ∀ t, (TypeExpr.reference ref).Displays t → Succeeds (t.render unit unwrap) := by
  rcases ref.form_cases with ⟨language, form⟩ | ⟨notLanguage, misfits, value, form⟩ |
    ⟨notLanguage, fits, wrapper, payload⟩ |
    ⟨notLanguage, fits, notWrapper, fixed, style, text, form⟩ |
    ⟨notLanguage, fits, notWrapper, notFixed, form⟩
  · rw [Reference.succeeds_render_of_languageGeneric unit unwrap form]
    constructor
    · intro shown
      refine ⟨⟨fun unsupported => ?_, fun lacks => ?_, nofun⟩, fun t displays => ?_⟩
      · cases unsupported with
        | argumentMissing notLanguage => exact notLanguage language
        | unresolved notLanguage => exact notLanguage language
      · cases lacks with
        | misfit notLanguage => exact notLanguage language
      · cases displays with
        | argument _ isArgument => exact shown t isArgument
        | payload notLanguage => exact absurd language notLanguage
    · rintro ⟨-, shown⟩ t isArgument
      exact shown t (.argument language isArgument)
  · refine iff_of_false (Reference.not_succeeds_render_of_misnamed unit unwrap form) ?_
    rintro ⟨showable, -⟩
    exact showable.textual (.misfit notLanguage misfits)
  · rw [Reference.succeeds_render_of_showsPayload unit unwrap payload,
      TypeExpr.succeeds_renderFirst_iff]
    constructor
    · rintro ⟨nonempty, shown⟩
      refine ⟨⟨fun unsupported => ?_, fun lacks => ?_, nofun⟩, fun t displays => ?_⟩
      · cases unsupported with
        | argumentMissing _ _ missing => exact nonempty missing
        | unresolved _ notWrapper => exact notWrapper wrapper
      · cases lacks with
        | misfit _ misfits => exact fits misfits
      · cases displays with
        | argument language => exact absurd language notLanguage
        | payload _ _ isFirst => exact shown t isFirst
    · rintro ⟨showable, shown⟩
      exact ⟨fun missing => showable.supported (.argumentMissing notLanguage wrapper missing),
        fun t isFirst => shown t (.payload notLanguage wrapper isFirst)⟩
  · -- the type arguments of a reference with a fixed text are not shown
    refine iff_of_true (Reference.succeeds_render_of_fixed unit unwrap form) ⟨⟨?_, ?_, nofun⟩, ?_⟩
    · rintro (_ | _ | _)
      · contradiction
      · contradiction
    · intro lacks
      cases lacks
      contradiction
    · intro t displays
      cases displays <;> contradiction
  · rw [Reference.succeeds_render_of_link unit unwrap form]
    constructor
    · rintro ⟨target, leads⟩
      refine ⟨⟨fun unsupported => ?_, fun lacks => ?_, nofun⟩, fun t displays => ?_⟩
      · cases unsupported with
        | argumentMissing _ wrapper => exact notWrapper wrapper
        | unresolved _ _ _ fails => exact fails target leads
      · cases lacks with
        | misfit _ misfits => exact fits misfits
      · cases displays <;> contradiction
    · -- only a reference for which none of the other rules is left has to be resolved
      rintro ⟨showable, -⟩
      by_contra fails
      exact showable.supported
        (.unresolved notLanguage notWrapper notFixed (not_exists.mp fails))

theorem TypeExpr.succeeds_render_template_iff (unit : DocUnit) (unwrap : Bool) (head : Data)
    (spans : List (TypeExpr × Data)) :
    Succeeds ((TypeExpr.template head spans).render unit unwrap) ↔
      (TypeExpr.template head spans).Showable unit ∧
      ∀ s, (TypeExpr.template head spans).Displays s → Succeeds (s.render unit unwrap) := by
  by_cases oneHole : ∃ hole tail, spans = [(.primitive hole, tail)]
  · obtain ⟨hole, tail, rfl⟩ := oneHole
    rw [TypeExpr.render, TypeExpr.succeeds_renderTemplate_iff]
    constructor
    · rintro ⟨⟨before, isBefore⟩, after, isAfter⟩
      refine ⟨⟨fun unsupported => ?_, fun lacks => ?_, nofun⟩, nofun⟩
      · cases unsupported with
        | notOneHole notOneHole => exact notOneHole hole tail rfl
      · cases lacks with
        | head noText => exact noText before isBefore
        | tail noText => exact noText after isAfter
    · rintro ⟨showable, -⟩
      constructor
      · by_contra noText
        exact showable.textual (.head fun s isText => noText ⟨s, isText⟩)
      · by_contra noText
        exact showable.textual (.tail fun s isText => noText ⟨s, isText⟩)
  · have notOneHole : ∀ hole tail, spans ≠ [(.primitive hole, tail)] := by
      simpa using oneHole
    -- the equation for all other spans asks for a proof that they are not of the first form
    rw [TypeExpr.render]
    · simp only [not_succeeds_error, false_iff]
      rintro ⟨showable, -⟩
      exact showable.supported (.notOneHole notOneHole)
    · exact notOneHole

/-- A function type is rendered if its result is, and each parameter by its name and its type. -/
theorem TypeExpr.succeeds_render_callable_iff (unit : DocUnit) (unwrap : Bool)
    (parameters : List Declaration) (result : TypeExpr) :
    Succeeds ((TypeExpr.callable parameters result).render unit unwrap) ↔
      (TypeExpr.callable parameters result).Showable unit ∧
      ∀ s, (TypeExpr.callable parameters result).Displays s → Succeeds (s.render unit unwrap) := by
  rw [TypeExpr.render, succeeds_bind_iff fun _ _ => succeeds_bind_pure_iff,
    Declaration.succeeds_renderParameters_iff]
  simp only [Declaration.succeeds_parameterName_iff, Declaration.succeeds_renderType_iff]
  constructor
  · rintro ⟨parametersShown, resultShown⟩
    refine ⟨⟨fun unsupported => ?_, fun lacks => ?_, nofun⟩, fun s displays => ?_⟩
    · cases unsupported with
      | parameter isParameter unsupported =>
        obtain ⟨defaults, -, typed⟩ := parametersShown _ isParameter
        cases unsupported with
        | untyped noLink noType =>
          obtain ⟨t, type, -⟩ := typed noLink
          simp [noType] at type
        | default isDefault present notEmptyObject =>
          exact notEmptyObject (defaults _ isDefault present)
    · cases lacks with
      | parameter isParameter noText => exact (parametersShown _ isParameter).2.1 noText
    · cases displays with
      | parameter isParameter noLink type =>
        obtain ⟨t, type', shown⟩ := (parametersShown _ isParameter).2.2 noLink
        cases type.symm.trans type'
        exact shown
      | result => exact resultShown
  · rintro ⟨showable, shown⟩
    refine ⟨fun d isParameter => ⟨?_, ?_, ?_⟩, shown _ .result⟩
    · intro value isDefault present
      by_contra notEmptyObject
      exact showable.supported (.parameter isParameter (.default isDefault present notEmptyObject))
    · intro noText
      exact showable.textual (.parameter isParameter noText)
    · intro noLink
      cases type : d.declaredType? with
      | none => exact absurd (.parameter isParameter (.untyped noLink type)) showable.supported
      | some t => exact ⟨t, rfl, shown t (.parameter isParameter noLink type)⟩

/-- A literal type is rendered if its value is not a number without a numeral. -/
theorem TypeExpr.succeeds_render_literal_iff (unit : DocUnit) (unwrap : Bool) (value : Literal) :
    Succeeds ((TypeExpr.literal value).render unit unwrap) ↔
      (TypeExpr.literal value).Showable unit ∧
      ∀ s, (TypeExpr.literal value).Displays s → Succeeds (s.render unit unwrap) := by
  rw [TypeExpr.render, TypeExpr.renderLiteral]
  cases writable : value.isWritable with
  | true =>
    refine iff_of_true (by simp) ⟨⟨nofun, nofun, fun overlong => ?_⟩, nofun⟩
    cases overlong with
    | literal tooLong => exact Bool.noConfusion (tooLong.symm.trans writable)
  | false =>
    refine iff_of_false (by simp) ?_
    rintro ⟨showable, -⟩
    cases value with
    | int n => exact showable.short (.literal writable)
    | _ => cases writable

/-- A type is rendered if its form is, and if the types that its fragment shows next are. -/
theorem TypeExpr.succeeds_render_iff (unit : DocUnit) (unwrap : Bool) (t : TypeExpr) :
    Succeeds (t.render unit unwrap) ↔ t.Showable unit ∧
      ∀ s, t.Displays s → Succeeds (s.render unit unwrap) := by
  cases t with
  | primitive name =>
    simp only [TypeExpr.render, succeeds_ok, true_iff]
    exact ⟨⟨nofun, nofun, nofun⟩, nofun⟩
  | literal value => exact TypeExpr.succeeds_render_literal_iff unit unwrap value
  | template head spans => exact TypeExpr.succeeds_render_template_iff unit unwrap head spans
  | union members =>
    rw [TypeExpr.render, succeeds_bind_pure_iff, TypeExpr.succeeds_renderAll_iff]
    constructor
    · intro shown
      refine ⟨⟨nofun, nofun, nofun⟩, fun s displays => ?_⟩
      cases displays with
      | member isMember => exact shown s isMember
    · rintro ⟨-, shown⟩ s isMember
      exact shown s (.member isMember)
  | array element =>
    rw [TypeExpr.render, succeeds_bind_pure_iff]
    constructor
    · intro shown
      refine ⟨⟨nofun, nofun, nofun⟩, fun s displays => ?_⟩
      cases displays
      exact shown
    · rintro ⟨-, shown⟩
      exact shown _ .element
  | tuple elements =>
    cases elements with
    | nil =>
      simp only [TypeExpr.render, not_succeeds_error, false_iff]
      rintro ⟨showable, -⟩
      exact showable.supported .emptyTuple
    | cons first rest =>
      rw [TypeExpr.render, succeeds_bind_pure_iff]
      constructor
      · intro shown
        refine ⟨⟨nofun, nofun, nofun⟩, fun s displays => ?_⟩
        cases displays
        exact shown
      · rintro ⟨-, shown⟩
        exact shown _ .first
  | reference ref =>
    rw [TypeExpr.render]
    exact Reference.succeeds_render_iff unit unwrap ref
  | object fields =>
    cases fields with
    | nil =>
      simp only [TypeExpr.render, not_succeeds_error, false_iff]
      rintro ⟨showable, -⟩
      exact showable.supported .noFields
    | cons field rest =>
      simp only [TypeExpr.render, succeeds_ok, true_iff]
      exact ⟨⟨nofun, nofun, nofun⟩, nofun⟩
  | callable parameters result =>
    exact TypeExpr.succeeds_render_callable_iff unit unwrap parameters result
  | other tag =>
    simp only [TypeExpr.render, not_succeeds_error, false_iff]
    rintro ⟨showable, -⟩
    exact showable.supported .other

theorem Declaration.sizeOf_declaredType? {d : Declaration} {t : TypeExpr}
    (type : d.declaredType? = some t) : sizeOf t < sizeOf d := by
  obtain ⟨name, kind, modifiers, comment, own, signatures, getter, children, path, value⟩ := d
  unfold Declaration.declaredType? at type
  split at type
  · rename_i g _ isGetter
    cases isGetter
    obtain ⟨_, _, result, _⟩ := g
    cases type
    simp only [Declaration.mk.sizeOf_spec, Option.some.sizeOf_spec, CallSignature.mk.sizeOf_spec]
    omega
  · cases type
    simp only [Declaration.mk.sizeOf_spec, Option.some.sizeOf_spec]
    omega

theorem Reference.sizeOf_lt_of_mem_arguments {ref : Reference} {t : TypeExpr}
    (isArgument : t ∈ ref.arguments) : sizeOf t < sizeOf ref := by
  have smaller := List.sizeOf_lt_of_mem isArgument
  cases ref
  rw [Reference.mk.sizeOf_spec]
  dsimp only at smaller
  omega

/-- What the fragment of a type shows is smaller than the type. -/
theorem TypeExpr.Displays.sizeOf_lt {t s : TypeExpr} (displays : t.Displays s) :
    sizeOf s < sizeOf t := by
  cases displays with
  | member isMember =>
    have smaller := List.sizeOf_lt_of_mem isMember
    rw [TypeExpr.union.sizeOf_spec]
    omega
  | element =>
    rw [TypeExpr.array.sizeOf_spec]
    omega
  | first =>
    rw [TypeExpr.tuple.sizeOf_spec, List.cons.sizeOf_spec]
    omega
  | argument language isArgument =>
    have smaller := Reference.sizeOf_lt_of_mem_arguments isArgument
    rw [TypeExpr.reference.sizeOf_spec]
    omega
  | payload notLanguage wrapper isFirst =>
    have smaller := Reference.sizeOf_lt_of_mem_arguments (List.mem_of_head? isFirst)
    rw [TypeExpr.reference.sizeOf_spec]
    omega
  | parameter isParameter noLink type =>
    have inParameters := List.sizeOf_lt_of_mem isParameter
    have smaller := Declaration.sizeOf_declaredType? type
    rw [TypeExpr.callable.sizeOf_spec]
    omega
  | result =>
    rw [TypeExpr.callable.sizeOf_spec]
    omega

/-- If a type is rendered, so are the types that its fragment shows. -/
theorem TypeExpr.Rendered.succeeds {unit : DocUnit} {unwrap : Bool} {t s : TypeExpr}
    (rendered : t.Rendered s) (succeeds : Succeeds (t.render unit unwrap)) :
    Succeeds (s.render unit unwrap) := by
  induction rendered with
  | refl => exact succeeds
  | tail _ displays inductionHypothesis =>
    exact ((TypeExpr.succeeds_render_iff unit unwrap _).mp inductionHypothesis).2 _ displays

theorem TypeExpr.succeeds_render_of_rendered {unit : DocUnit} (unwrap : Bool) (t : TypeExpr)
    (renders : ∀ s, t.Rendered s → s.Showable unit) : Succeeds (t.render unit unwrap) := by
  refine (TypeExpr.succeeds_render_iff unit unwrap t).mpr ⟨renders t .refl, fun s displays => ?_⟩
  have smaller := displays.sizeOf_lt
  exact TypeExpr.succeeds_render_of_rendered unwrap s fun s' rendered =>
    renders s' (.head displays rendered)
termination_by sizeOf t

/-- A type is rendered if and only if no type that its fragment shows is one that cannot be, so that
it does not matter whether wrappers of later values are left out. -/
theorem TypeExpr.render_succeeds_iff (unit : DocUnit) (t : TypeExpr) :
    (∀ unwrap, (∃ shown, t.render unit unwrap = .ok shown) ↔
      ∀ s, t.Rendered s → ¬ s.Unsupported unit ∧ ¬ s.LacksText ∧ ¬ s.Overlong) ∧
    ((∃ shown, t.render unit true = .ok shown) ↔ ∃ shown, t.render unit false = .ok shown) := by
  have succeeds_iff : ∀ unwrap, Succeeds (t.render unit unwrap) ↔
      ∀ s, t.Rendered s → ¬ s.Unsupported unit ∧ ¬ s.LacksText ∧ ¬ s.Overlong := by
    intro unwrap
    constructor
    · intro succeeds s rendered
      obtain ⟨⟨supported, textual, short⟩, -⟩ :=
        (TypeExpr.succeeds_render_iff unit unwrap s).mp (rendered.succeeds succeeds)
      exact ⟨supported, textual, short⟩
    · intro renders
      refine TypeExpr.succeeds_render_of_rendered unwrap t fun s rendered => ?_
      obtain ⟨supported, textual, short⟩ := renders s rendered
      exact ⟨supported, textual, short⟩
  exact ⟨succeeds_iff, (succeeds_iff true).trans (succeeds_iff false).symm⟩

/-- A literal type with the least number without a numeral shows no unsupported type and lacks no
text, but has no fragment. -/
theorem TypeExpr.least_overlong_not_rendered :
    (∀ s, (literal (.int (Nat.pow 10 Numeral.maxDigits))).Rendered s →
      ¬ s.Unsupported ⟨.text "unit", [], none, none⟩ ∧ ¬ s.LacksText) ∧
    ∀ unwrap, ¬ ∃ shown, (literal (.int (Nat.pow 10 Numeral.maxDigits))).render
      ⟨.text "unit", [], none, none⟩ unwrap = .ok shown := by
  constructor
  · intro s rendered
    cases rendered.cases_head with
    | inl same =>
      subst same
      exact ⟨nofun, nofun⟩
    | inr next =>
      obtain ⟨_, displays, -⟩ := next
      cases displays
  · intro unwrap succeeds
    have tooLong : Numeral.isWritable (Nat.pow 10 Numeral.maxDigits) = false := by
      rw [Numeral.isWritable, Int.natAbs_natCast]
      -- the power is not computed here: any bound will do
      generalize Nat.pow 10 Numeral.maxDigits = bound
      exact decide_eq_false (Nat.lt_irrefl bound)
    have showable := ((succeeds_render_iff _ unwrap _).mp succeeds).1
    exact showable.short (.literal tooLong)

end DocPress
