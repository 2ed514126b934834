import DocPress.Proofs.ReferenceKinds

/-! # Wrappers that show only their payload

Some wrappers are shown as their payload: in every fragment, or in those in which wrappers of later
values are left out. Putting the payload in the place of such a wrapper changes nothing in the
fragment of a type, with one exception: an array puts a union between parentheses, but not a wrapper
around a union, although the two show the same members.

* `Reference.IsTransparent`: the wrappers that show only their payload.
* `TypeExpr.Replaces`: one type made from another by putting a payload in the place of its wrapper,
  somewhere in what the fragment shows; with it whether a union comes to stand in an array.
* `TypeExpr.render_replaced_iff`: the fragment stays the same if and only if no union comes to stand
  in an array, or there is no fragment. -/

set_option autoImplicit false

namespace DocPress

/-! ## Replacing a wrapper by its payload -/

/-- A wrapper that shows only its payload. Those of later values do where wrappers are left out. -/
def Reference.IsTransparent (unwrap : Bool) (ref : Reference) : Prop :=
  ¬ ref.IsLanguage ∧ ¬ ref.Misfits ∧
    ((∃ name ∈ ReferenceForm.passThroughNames, ref.name = .text name) ∨
      unwrap = true ∧ ref.InTable ReferenceForm.laterWrappers)

/-- A reference with other type arguments. -/
def Reference.withArguments (ref : Reference) (arguments : List TypeExpr) : Reference :=
  { ref with arguments }

/-- One type comes from another by putting the payload of a transparent wrapper in the place of the
wrapper, where the fragment of the type shows it. The truth value says whether a union comes to
stand in an array by it. -/
inductive TypeExpr.Replaces (unwrap : Bool) : Bool → TypeExpr → TypeExpr → Prop
  | wrapper {ref : Reference} {t : TypeExpr} {rest : List TypeExpr}
      (transparent : ref.IsTransparent unwrap) :
      Replaces unwrap false (.reference (ref.withArguments (t :: rest))) t
  | member {exposes : Bool} {t t' : TypeExpr} {before after : List TypeExpr}
      (step : Replaces unwrap exposes t t') :
      Replaces unwrap exposes (.union (before ++ t :: after)) (.union (before ++ t' :: after))
  | element {exposes : Bool} {t t' : TypeExpr} (step : Replaces unwrap exposes t t') :
      Replaces unwrap (exposes || (t'.isUnion && !t.isUnion)) (.array t) (.array t')
  | argument {exposes : Bool} {ref : Reference} {t t' : TypeExpr} {before after : List TypeExpr}
      (language : ref.IsLanguage) (step : Replaces unwrap exposes t t') :
      Replaces unwrap exposes (.reference (ref.withArguments (before ++ t :: after)))
        (.reference (ref.withArguments (before ++ t' :: after)))
  | payload {exposes : Bool} {ref : Reference} {t t' : TypeExpr} {rest : List TypeExpr}
      (notLanguage : ¬ ref.IsLanguage) (isWrapper : ref.IsWrapper)
      (step : Replaces unwrap exposes t t') :
      Replaces unwrap exposes (.reference (ref.withArguments (t :: rest)))
        (.reference (ref.withArguments (t' :: rest)))

/-- A union is replaced by nothing but a union. -/
theorem TypeExpr.Replaces.isUnion {unwrap exposes : Bool} {t t' : TypeExpr}
    (step : Replaces unwrap exposes t t') (union : t.isUnion = true) : t'.isUnion = true := by
  cases step with
  | member => rfl
  | wrapper | element | argument | payload => cases union

/-! ## Fragments that are kept or grow -/

/-- A text that is kept, or that gives way to a longer one. -/
def Grown (grows : Bool) (s s' : String) : Prop := if grows then s.length < s'.length else s' = s

theorem Grown.length_le {grows : Bool} {s s' : String} (grown : Grown grows s s') :
    s.length ≤ s'.length := by
  cases grows with
  | true => exact Nat.le_of_lt (by simpa [Grown] using grown)
  | false => simp [(show s' = s by simpa [Grown] using grown)]

/-- What is made of a longer text is longer. -/
def Lengthens (f : String → String) : Prop :=
  ∀ s s' : String, s.length < s'.length → (f s).length < (f s').length

theorem Grown.map {grows : Bool} {s s' : String} {f : String → String} (lengthens : Lengthens f)
    (grown : Grown grows s s') : Grown grows (f s) (f s') := by
  cases grows with
  | true => exact lengthens s s' grown
  | false => exact congrArg f grown

theorem lengthens_intercalate (sep : String) (before after : List String) :
    Lengthens fun s => sep.intercalate (before ++ s :: after) := by
  intro s s' longer
  induction before with
  | nil =>
    cases after with
    | nil => simpa using longer
    | cons t after => simpa [String.intercalate_cons_cons] using longer
  | cons t before inductionHypothesis =>
    simp only [List.cons_append]
    rw [String.intercalate_cons_of_ne_nil (by simp), String.intercalate_cons_of_ne_nil (by simp)]
    simpa using inductionHypothesis

theorem lengthens_generic (label : String) : Lengthens (Markup.generic label) := by
  intro s s' longer
  simpa [Markup.generic] using longer

theorem lengthens_transformOf : Lengthens TypeExpr.transformOf := by
  intro s s' longer
  unfold TypeExpr.transformOf
  simp only [String.length_append]
  omega

theorem length_arrayOf_lt {s s' : String} (atLeast : s.length ≤ s'.length) :
    (TypeExpr.arrayOf false s).length < (TypeExpr.arrayOf true s').length := by
  have opening : (Markup.code "symbol" "[]").length < (Markup.code "symbol" ")[]").length := by
    decide
  simp only [TypeExpr.arrayOf, Bool.false_eq_true, ↓reduceIte, String.length_append]
  omega

theorem lengthens_arrayOf (isUnion : Bool) : Lengthens (TypeExpr.arrayOf isUnion) := by
  intro s s' longer
  cases isUnion <;> simpa [TypeExpr.arrayOf] using longer

/-- Two outcomes of rendering: the same fault, or two fragments of which the first is kept or gives
way to a longer one. -/
inductive Kept (grows : Bool) : Except Fault String → Except Fault String → Prop
  | fails (fault : Fault) : Kept grows (.error fault) (.error fault)
  | shows {s s' : String} (grown : Grown grows s s') : Kept grows (.ok s) (.ok s')

theorem Kept.rfl {x : Except Fault String} : Kept false x x := by
  cases x with
  | error fault => exact .fails fault
  | ok s => exact .shows (by simp [Grown])

theorem Kept.map {grows : Bool} {x y : Except Fault String} {f : String → String}
    (lengthens : Lengthens f) (kept : Kept grows x y) : Kept grows (x.map f) (y.map f) := by
  cases kept with
  | fails fault => exact .fails fault
  | shows grown => exact .shows (grown.map lengthens)

theorem Kept.eq_iff {grows : Bool} {x y : Except Fault String} (kept : Kept grows x y) :
    y = x ↔ grows = false ∨ ∃ fault, x = .error fault := by
  cases kept with
  | fails fault => simp
  | @shows s s' grown =>
    cases grows with
    | false => simp [(show s' = s from grown)]
    | true =>
      have longer : s.length < s'.length := grown
      have different : s' ≠ s := by
        rintro rfl
        exact Nat.lt_irrefl _ longer
      simp [different]

theorem Kept.error_iff {grows : Bool} {x y : Except Fault String} (kept : Kept grows x y)
    (fault : Fault) : y = .error fault ↔ x = .error fault := by
  cases kept with
  | fails fault => rfl
  | shows grown => simp

/-! ## Rendering around the place of a replacement -/

section

variable (unit : DocUnit) (unwrap : Bool)

/-- One of several types is rendered after those before it and before those after it. -/
theorem TypeExpr.renderAll_append_cons (before : List TypeExpr) (t : TypeExpr)
    (after : List TypeExpr) : TypeExpr.renderAll unit unwrap (before ++ t :: after) = (do
      let front ← TypeExpr.renderAll unit unwrap before
      let shown ← t.render unit unwrap
      let back ← TypeExpr.renderAll unit unwrap after
      return front ++ shown :: back) := by
  induction before with
  | nil => rfl
  | cons first before inductionHypothesis =>
    rw [List.cons_append, TypeExpr.renderAll, inductionHypothesis, TypeExpr.renderAll]
    simp

theorem lookup_eq_none_of_name {table : List ((String × String) × String)} {name : String}
    (noName : ∀ row ∈ table, row.1.2 ≠ name) (package : String) :
    table.lookup (package, name) = none := by
  refine List.lookup_eq_none_iff.mpr fun row member => ?_
  have different := noName row member
  simp only [bne_iff_ne, ne_eq]
  intro same
  exact different (congrArg Prod.snd same).symm

/-- What a rule for a wrapper puts around the fragment of the payload. -/
def ReferenceForm.around : ReferenceForm → String → String
  | .transform => TypeExpr.transformOf
  | .later label => if unwrap then id else Markup.generic label
  | .input label => Markup.generic label
  | .languageGeneric | .passThrough | .fixed _ _ | .link | .misnamed _ => id

theorem ReferenceForm.lengthens_around (form : ReferenceForm) : Lengthens (form.around unwrap) := by
  cases form with
  | transform => exact lengthens_transformOf
  | later label =>
    cases unwrap with
    | false => exact lengthens_generic label
    | true => exact fun _ _ => id
  | input label => exact lengthens_generic label
  | languageGeneric | passThrough | fixed | link | misnamed => exact fun _ _ => id

variable {ref : Reference}

/-- A generic type of the language is rendered with all its type arguments. -/
theorem Reference.render_language (language : ref.IsLanguage) (before : List TypeExpr)
    (t : TypeExpr) (after : List TypeExpr) :
    (ref.withArguments (before ++ t :: after)).render unit unwrap =
      (TypeExpr.renderAll unit unwrap (before ++ t :: after)).map fun arguments =>
        Markup.generic ref.name.display (", ".intercalate arguments) := by
  simp only [Reference.withArguments]
  unfold Reference.render
  have form : ReferenceForm.of ref.package ref.name = .languageGeneric := if_pos language
  cases before <;> simp only [form] <;> rfl

/-- A wrapper is rendered as its payload, with what the rule for it puts around that. -/
theorem Reference.render_wrapper (payload : (ReferenceForm.of ref.package ref.name).ShowsPayload)
    (t : TypeExpr) (rest : List TypeExpr) :
    (ref.withArguments (t :: rest)).render unit unwrap =
      (t.render unit unwrap).map ((ReferenceForm.of ref.package ref.name).around unwrap) := by
  simp only [Reference.withArguments]
  unfold Reference.render
  cases form : ReferenceForm.of ref.package ref.name with
  | transform => rfl
  | later label => cases unwrap <;> rfl
  | input label => rfl
  | passThrough => exact (congrFun Except.map_id (t.render unit unwrap)).symm
  | languageGeneric | fixed | link | misnamed =>
    rw [form] at payload
    exact payload.elim

variable {unit unwrap}

/-- What shows only its payload puts nothing around it. -/
theorem Reference.IsTransparent.around_eq (transparent : ref.IsTransparent unwrap) :
    (ReferenceForm.of ref.package ref.name).ShowsPayload ∧
      (ReferenceForm.of ref.package ref.name).around unwrap = id := by
  obtain ⟨notLanguage, fits, ⟨name, passThrough, isNamed⟩ | ⟨rfl, isLater⟩⟩ := transparent
  · have noOther : ∀ name ∈ ReferenceForm.passThroughNames, name ≠ "Transform" ∧
        (∀ row ∈ ReferenceForm.laterWrappers, row.1.2 ≠ name) ∧
        ∀ row ∈ ReferenceForm.inputWrappers, row.1.2 ≠ name := by
      decide
    obtain ⟨notTransform, notLater, notInput⟩ := noOther name passThrough
    have form : ReferenceForm.of ref.package ref.name = .passThrough := by
      rw [Reference.of_eq_ofName notLanguage fits isNamed, ReferenceForm.ofName,
        if_neg notTransform, lookup_eq_none_of_name notLater, lookup_eq_none_of_name notInput]
      simp [passThrough]
    rw [form]
    exact ⟨trivial, rfl⟩
  · obtain ⟨package, name, label, isPackage, isNamed, member⟩ := isLater
    have notTransform : name ≠ "Transform" := by
      have noOther : ∀ row ∈ ReferenceForm.laterWrappers, row.1.2 ≠ "Transform" := by decide
      exact noOther _ member
    obtain ⟨label, isFound⟩ := Option.isSome_iff_exists.mp (isSome_lookup_iff.mpr ⟨label, member⟩)
    have form : ReferenceForm.of ref.package ref.name = .later label := by
      rw [Reference.of_eq_ofName notLanguage fits isNamed, ReferenceForm.ofName,
        if_neg notTransform, isPackage]
      simp [Data.text?, isFound]
    rw [form]
    exact ⟨trivial, rfl⟩

theorem Reference.showsPayload_of_isWrapper (notLanguage : ¬ ref.IsLanguage)
    (fits : ¬ ref.Misfits) (isWrapper : ref.IsWrapper) :
    (ReferenceForm.of ref.package ref.name).ShowsPayload := by
  rcases ref.form_cases with ⟨language, -⟩ | ⟨-, misfits, -⟩ | ⟨-, -, -, payload⟩ |
    ⟨-, -, notWrapper, -⟩ | ⟨-, -, notWrapper, -⟩
  · exact absurd language notLanguage
  · exact absurd misfits fits
  · exact payload
  · exact absurd isWrapper notWrapper
  · exact absurd isWrapper notWrapper

theorem kept_renderAll {exposes : Bool} {t t' : TypeExpr} {shows : List String → String}
    (lengthens : ∀ front back, Lengthens fun s => shows (front ++ s :: back))
    (kept : Kept exposes (t.render unit unwrap) (t'.render unit unwrap))
    (before after : List TypeExpr) :
    Kept exposes ((TypeExpr.renderAll unit unwrap (before ++ t :: after)).map shows)
      ((TypeExpr.renderAll unit unwrap (before ++ t' :: after)).map shows) := by
  rw [TypeExpr.renderAll_append_cons, TypeExpr.renderAll_append_cons]
  generalize t.render unit unwrap = outcome at kept ⊢
  generalize t'.render unit unwrap = outcome' at kept ⊢
  cases TypeExpr.renderAll unit unwrap before with
  | error fault => exact .fails fault
  | ok front =>
    -- the types after this one are rendered only if it is
    cases kept with
    | fails fault => exact .fails fault
    | shows grown =>
      cases TypeExpr.renderAll unit unwrap after with
      | error fault => exact .fails fault
      | ok back => exact .shows (grown.map (lengthens front back))

/-- An array shows a union between parentheses, and anything else without. -/
theorem kept_array {exposes : Bool} {t t' : TypeExpr}
    (isUnion : t.isUnion = true → t'.isUnion = true)
    (kept : Kept exposes (t.render unit unwrap) (t'.render unit unwrap)) :
    Kept (exposes || (t'.isUnion && !t.isUnion)) ((TypeExpr.array t).render unit unwrap)
      ((TypeExpr.array t').render unit unwrap) := by
  simp only [TypeExpr.render]
  generalize t.render unit unwrap = outcome at kept ⊢
  generalize t'.render unit unwrap = outcome' at kept ⊢
  cases kept with
  | fails fault => exact .fails fault
  | shows grown =>
    refine .shows ?_
    cases before : t.isUnion with
    | true =>
      have after := isUnion before
      simpa [after] using grown.map (lengthens_arrayOf true)
    | false =>
      cases after : t'.isUnion with
      | true =>
        -- the union that has come to stand here gets the parentheses that the wrapper had not
        simpa [Grown] using length_arrayOf_lt grown.length_le
      | false => simpa using grown.map (lengthens_arrayOf false)

/-- A step keeps the fragment, or makes it longer where a union comes to stand in an array. -/
theorem TypeExpr.Replaces.kept {exposes : Bool} {t t' : TypeExpr}
    (step : Replaces unwrap exposes t t') :
    Kept exposes (t.render unit unwrap) (t'.render unit unwrap) := by
  induction step with
  | @wrapper ref t rest transparent =>
    obtain ⟨payload, around⟩ := transparent.around_eq
    rw [TypeExpr.render, Reference.render_wrapper unit unwrap payload, around, Except.map_id]
    exact .rfl
  | @member exposes t t' before after step inductionHypothesis =>
    simp only [TypeExpr.render]
    exact kept_renderAll (lengthens_intercalate _) inductionHypothesis before after
  | element step inductionHypothesis => exact kept_array step.isUnion inductionHypothesis
  | @argument exposes ref t t' before after language step inductionHypothesis =>
    simp only [TypeExpr.render, Reference.render_language unit unwrap language]
    refine kept_renderAll (fun front back => ?_) inductionHypothesis before after
    exact fun s s' longer =>
      lengthens_generic _ _ _ (lengthens_intercalate ", " front back s s' longer)
  | @payload exposes ref t t' rest notLanguage isWrapper step inductionHypothesis =>
    by_cases misfits : ref.Misfits
    · obtain ⟨value, form⟩ := Reference.of_eq_misnamed notLanguage misfits
      have fails (arguments : List TypeExpr) : (ref.withArguments arguments).render unit unwrap =
          .error (.notText value .lookedUp) := Reference.render_of_misnamed unit unwrap form
      simp only [TypeExpr.render, fails]
      exact .fails _
    · have payload := Reference.showsPayload_of_isWrapper notLanguage misfits isWrapper
      simp only [TypeExpr.render, Reference.render_wrapper unit unwrap payload]
      exact inductionHypothesis.map (ReferenceForm.lengthens_around unwrap _)

/-- Putting the payload of a transparent wrapper in its place changes the fragment of a type if and
only if the type has a fragment and a union comes to stand in an array. A type without a fragment
stays so, for the same reason. -/
theorem TypeExpr.render_replaced_iff {exposes : Bool} {t t' : TypeExpr}
    (step : Replaces unwrap exposes t t') :
    (t'.render unit unwrap = t.render unit unwrap ↔
      exposes = false ∨ ∃ fault, t.render unit unwrap = .error fault) ∧
    ∀ fault, t'.render unit unwrap = .error fault ↔ t.render unit unwrap = .error fault :=
  ⟨step.kept.eq_iff, step.kept.error_iff⟩

end

/-- The unit on whose page the types below are shown. -/
def settingsUnit : DocUnit := ⟨.text "config", [], none, none⟩

/-- A wrapper around a text or a number. -/
def wrappedUnion : Reference where
  name := .text "Unwrap"
  package := some (.text "@sst/platform")
  qualifiedName := none
  arguments := [.union [.primitive (.text "string"), .primitive (.text "number")]]
  target := none

/-- An array of texts that arrive later is shown as an array of texts where wrappers of later values
are left out. -/
theorem TypeExpr.render_replaced_output :
    let text : TypeExpr := .primitive (.text "string")
    let later : Reference := ⟨.text "Output", some (.text "@pulumi/pulumi"), none, [text], none⟩
    Replaces true false (.array (.reference later)) (.array text) ∧
      (TypeExpr.array text).render settingsUnit true =
        (TypeExpr.array (.reference later)).render settingsUnit true := by
  intro text later
  have transparent : later.IsTransparent true :=
    ⟨by simp [Reference.IsLanguage, later], by simp [Reference.Misfits, later, Data.isKey],
      .inr ⟨rfl, _, _, "Output", rfl, rfl, by decide⟩⟩
  have step : Replaces true false (.array (.reference later)) (.array text) :=
    .element (@Replaces.wrapper true later text [] transparent)
  exact ⟨step, (TypeExpr.render_replaced_iff step).1.mpr (.inl rfl)⟩

/-- An array shows a union between parentheses, but not a wrapper around the union. -/
theorem TypeExpr.array_of_wrapped_union :
    ¬ ∀ (unit : DocUnit) (unwrap exposes : Bool) (t t' : TypeExpr),
      Replaces unwrap exposes t t' → t'.render unit unwrap = t.render unit unwrap := by
  intro same
  let members : TypeExpr := .union [.primitive (.text "string"), .primitive (.text "number")]
  have transparent : wrappedUnion.IsTransparent false :=
    ⟨by simp [Reference.IsLanguage, wrappedUnion],
      by simp [Reference.Misfits, wrappedUnion, Data.isKey], .inl ⟨"Unwrap", by decide, rfl⟩⟩
  have step : Replaces false true (.array (.reference wrappedUnion)) (.array members) :=
    .element (@Replaces.wrapper false wrappedUnion members [] transparent)
  have sameFragment := same settingsUnit false true _ _ step
  have different : ((TypeExpr.array members).render settingsUnit false).toOption ≠
      ((TypeExpr.array (.reference wrappedUnion)).render settingsUnit false).toOption := by
    decide +kernel
  exact different (congrArg Except.toOption sameFragment)

end DocPress
