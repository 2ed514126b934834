import DocPress.Proofs.RepeatedGroups

/-! # Interfaces that are appended to a unit

New declarations at the end of a unit change nothing in the sections of the interfaces before them
but their bodies. Links may lead elsewhere, as they are resolved by the interfaces of the whole
unit, while titles, levels, anchors and parents stay as they are.

* `Compile.Agree`: computations that do the same to a registry and give related results. They are
  compared step by step, so that there is one short lemma for each operation.
* `Section.caption`: what a section shows above its body.
* `Section.captions_prefix_of_extended`: the captions of the interfaces of a unit come first among
  those of the extended unit. -/

set_option autoImplicit false

namespace DocPress

namespace Compile

variable {α β γ δ : Type}

/-- Where both of two computations succeed from one registry, they leave the same registry and give
related results. -/
def Agree (R : α → β → Prop) (c : Compile α) (d : Compile β) : Prop :=
  ∀ (registry first second : Anchors Place) (a : α) (b : β), c.run registry = (.ok a, first) →
    d.run registry = (.ok b, second) → first = second ∧ R a b

theorem agree_lift {R : α → β → Prop} {x : Except Fault α} {y : Except Fault β}
    (related : ∀ a b, x = .ok a → y = .ok b → R a b) :
    Agree R (liftM x : Compile α) (liftM y : Compile β) := by
  intro registry first second a b one other
  rw [run_lift, Prod.mk.injEq] at one other
  obtain ⟨one, rfl⟩ := one
  obtain ⟨other, rfl⟩ := other
  exact ⟨rfl, related a b one other⟩

theorem agree_pure {R : α → β → Prop} {a : α} {b : β} (related : R a b) :
    Agree R (pure a) (pure b) :=
  agree_lift (x := .ok a) (y := .ok b) fun _ _ one other => by
    cases one
    cases other
    exact related

/-- Whatever succeeds agrees with itself. -/
theorem agree_self (c : Compile α) : Agree Eq c c := by
  intro registry first second a b one other
  cases one.symm.trans other
  exact ⟨rfl, rfl⟩

theorem Agree.bind {R : α → β → Prop} {S : γ → δ → Prop} {c : Compile α} {d : Compile β}
    {f : α → Compile γ} {g : β → Compile δ} (first : Agree R c d)
    (rest : ∀ a b, R a b → Agree S (f a) (g b)) : Agree S (c >>= f) (d >>= g) := by
  intro registry final final' a b one other
  obtain ⟨a', between, oneFirst, oneRest⟩ := exists_of_run_bind one
  obtain ⟨b', between', otherFirst, otherRest⟩ := exists_of_run_bind other
  obtain ⟨rfl, related⟩ := first _ _ _ _ _ oneFirst otherFirst
  exact rest a' b' related _ _ _ _ _ oneRest otherRest

theorem concat_append (f : α → Compile (List β)) (xs ys : List α) :
    concat f (xs ++ ys) = do
      let first ← concat f xs
      let rest ← concat f ys
      return first ++ rest := by
  induction xs with
  | nil => simp [concat]
  | cons x xs inductionHypothesis =>
    rw [List.cons_append, concat, concat, inductionHypothesis]
    simp only [bind_assoc, pure_bind, List.append_assoc]

/-- Passes over the same items agree if they agree on each item, and if putting together what is
related gives what is related. -/
theorem agree_concat {R : List β → List γ → Prop} {f : α → Compile (List β)}
    {g : α → Compile (List γ)} {xs : List α} (empty : R [] [])
    (append : ∀ {bs cs bs' cs'}, R bs cs → R bs' cs' → R (bs ++ bs') (cs ++ cs'))
    (each : ∀ x, Agree R (f x) (g x)) : Agree R (concat f xs) (concat g xs) := by
  induction xs with
  | nil => exact agree_pure empty
  | cons x xs inductionHypothesis =>
    exact (each x).bind fun _ _ first => inductionHypothesis.bind fun _ _ rest =>
      agree_pure (append first rest)

end Compile

namespace DocUnit

/-- A unit with further declarations after its own. -/
def extended (unit : DocUnit) (further : List Declaration) : DocUnit :=
  { unit with declarations := unit.declarations ++ further }

/-- The declarations of a unit stay at their places when it is extended. -/
theorem exists_located_extended (unit : DocUnit) (further : List Declaration) :
    ∃ rest, (unit.extended further).located = unit.located ++ rest := by
  refine ⟨(further.zipIdx unit.declarations.length).map fun d => ([.child d.2], d.1), ?_⟩
  rw [located, extended, List.zipIdx_append, List.map_append, Nat.zero_add]
  rfl

end DocUnit

namespace Section

open Compile (Agree agree_concat agree_lift agree_pure agree_self concat_append)

/-- What a section shows above its body: its title, level, anchor and parent. -/
def caption (s : Section) : String × Int × Option String × Option String :=
  (s.title, s.level, s.anchor, s.parent)

/-- Sections that differ in their bodies only. -/
def SameCaptions (sections sections' : List Section) : Prop :=
  sections.map caption = sections'.map caption

theorem SameCaptions.append {ss ss' ts ts' : List Section} (first : SameCaptions ss ts)
    (rest : SameCaptions ss' ts') : SameCaptions (ss ++ ss') (ts ++ ts') := by
  rw [SameCaptions, List.map_append, List.map_append, first, rest]

theorem SameCaptions.cons {s t : Section} {ss ts : List Section} (first : s.caption = t.caption)
    (rest : SameCaptions ss ts) : SameCaptions (s :: ss) (t :: ts) := by
  rw [SameCaptions, List.map_cons, List.map_cons, first, rest]

/-- The sections of the same item in two units. -/
abbrev AgreeOnCaptions (c d : Compile (List Section)) : Prop := Agree SameCaptions c d

/-- The same steps on the registry, whatever lines they give. -/
abbrev AgreeOnAnchors (c d : Compile (List String)) : Prop := Agree (fun _ _ => True) c d

variable {unit unit' : DocUnit}

/-! ## Nested fields -/

theorem agree_bullets (es : List FieldEntry) :
    AgreeOnAnchors (bullets unit es) (bullets unit' es) := by
  induction es with
  | nil => exact agree_pure trivial
  | cons e es inductionHypothesis =>
    -- what stands after the link depends on the unit, the anchor does not
    have first : Agree (fun _ _ => True) (bullet unit e) (bullet unit' e) :=
      (agree_lift fun _ _ _ _ => trivial).bind fun _ _ _ => (agree_self _).bind fun _ _ _ =>
        agree_pure trivial
    exact first.bind fun _ _ _ => inductionHypothesis.bind fun _ _ _ => agree_pure trivial

theorem agree_typeBlock (place : Place) (o : Documented) (name : String) :
    AgreeOnAnchors (typeBlock unit place o name) (typeBlock unit' place o name) :=
  (agree_lift fun _ _ _ _ => trivial).bind fun _ _ _ => (agree_bullets _).bind fun _ _ _ =>
    agree_pure trivial

theorem sameCaptions_ofMethod {method : Declaration} {title parametersTitle : String} {level : Int}
    {anchor parent : Option String} {ss ts : List Section}
    (one : ofMethod unit method title level anchor parent parametersTitle = .ok ss)
    (other : ofMethod unit' method title level anchor parent parametersTitle = .ok ts) :
    SameCaptions ss ts := by
  by_cases isMethod : method.kind = .methodDecl
  · obtain ⟨_, _, _, -, -, rfl⟩ := exists_of_ofMethod isMethod one
    obtain ⟨_, _, _, -, -, rfl⟩ := exists_of_ofMethod isMethod other
    rfl
  · unfold ofMethod at one other
    rw [if_pos isMethod] at one other
    cases one
    cases other
    rfl

theorem agree_ofField (e : FieldEntry) :
    AgreeOnCaptions (ofField unit e) (ofField unit' e) := by
  refine (agree_self _).bind fun anchor anchor' same => ?_
  subst same
  refine agree_lift fun ss ts one other => ?_
  obtain ⟨_, _, -, rfl⟩ := exists_of_ofEntry one
  obtain ⟨_, _, -, rfl⟩ := exists_of_ofEntry other
  rfl

theorem agree_nestedSections (place : Place) (o : Documented) (name : String) :
    AgreeOnCaptions (nestedSections unit place o name) (nestedSections unit' place o name) := by
  rw [nestedSections, nestedSections, ofFields_eq_concat, ofFields_eq_concat]
  exact agree_concat rfl .append agree_ofField

/-! ## Interfaces -/

theorem agree_ofMember (place : Place) (m : Declaration) :
    AgreeOnCaptions (ofMember unit place m) (ofMember unit' place m) := by
  unfold ofMember
  split
  · exact agree_pure rfl
  · split
    · exact (agree_typeBlock _ _ _).bind fun _ _ _ => (agree_self _).bind fun _ _ _ =>
        (agree_self _).bind fun _ _ _ => (agree_self _).bind fun _ _ _ =>
        (agree_nestedSections _ _ _).bind fun _ _ nested => agree_pure (.cons rfl nested)
    · exact agree_lift fun _ _ => sameCaptions_ofMethod
    · exact agree_pure rfl

theorem agree_ofMembers (ms : List (Place × Declaration)) :
    AgreeOnCaptions (ofMembers unit ms) (ofMembers unit' ms) := by
  rw [ofMembers_eq_concat, ofMembers_eq_concat]
  exact agree_concat rfl .append fun m => agree_ofMember m.1 m.2

theorem agree_ofInterface (place : Place) (i : Declaration) :
    AgreeOnCaptions (ofInterface unit place i) (ofInterface unit' place i) := by
  unfold ofInterface
  by_cases noMembers : i.children.isEmpty
  · rw [if_pos noMembers, if_pos noMembers]
    exact agree_lift (x := .error _) fun _ _ failed => by cases failed
  · rw [if_neg noMembers, if_neg noMembers]
    exact (agree_self _).bind fun _ _ _ => (agree_ofMembers _).bind fun _ _ members =>
      agree_pure (.cons rfl members)

theorem agree_ofObjectInterface (place : Place) (i : Declaration) :
    AgreeOnCaptions (ofObjectInterface unit place i) (ofObjectInterface unit' place i) :=
  (agree_typeBlock _ _ _).bind fun _ _ _ => (agree_nestedSections _ _ _).bind fun _ _ nested =>
    agree_pure (.cons rfl nested)

/-! ## Units that are extended -/

theorem exists_shownInterfaces_extended (unit : DocUnit) (further : List Declaration)
    (accepts : Declaration → Bool) :
    ∃ rest, shownInterfaces (unit.extended further) accepts =
      shownInterfaces unit accepts ++ rest := by
  obtain ⟨rest, located⟩ := unit.exists_located_extended further
  refine ⟨(rest.filter fun d => d.2.kind = .interfaceDecl).filter
    fun i => !i.2.isHidden && accepts i.2, ?_⟩
  unfold shownInterfaces DocUnit.locatedOfKind
  rw [located, List.filter_append, List.filter_append]

theorem agree_ofShownInterface (asObjects : Bool) (i : Place × Declaration) :
    AgreeOnCaptions (ofShownInterface unit asObjects i) (ofShownInterface unit' asObjects i) := by
  cases asObjects with
  | false => exact agree_ofInterface i.1 i.2
  | true => exact agree_ofObjectInterface i.1 i.2

/-- Where the interfaces of a unit, and those of the same unit with further declarations after its
own, can both be compiled from one registry, the titles, levels, anchors and parents of the first
come first, unchanged, among those of the second. -/
theorem captions_prefix_of_extended (unit : DocUnit) (further : List Declaration)
    (accepts : Declaration → Bool) (asObjects : Bool) (registry : Anchors Place)
    (sections sections' : List Section)
    (compiled : ((interfaceGroup unit accepts asObjects).run registry).1 = .ok sections)
    (extended : ((interfaceGroup (unit.extended further) accepts asObjects).run registry).1 =
      .ok sections') :
    sections.map caption <+: sections'.map caption := by
  obtain ⟨rest, shown⟩ := exists_shownInterfaces_extended unit further accepts
  rw [interfaceGroup_eq_concat] at compiled extended
  rw [shown, concat_append] at extended
  obtain ⟨again, between, first, extended⟩ := Compile.exists_of_run_bind (Prod.ext extended rfl)
  obtain ⟨more, final, -, extended⟩ := Compile.exists_of_run_bind extended
  cases extended
  -- the interfaces of the unit are passed over twice, in the unit and in the extended one
  have agree : AgreeOnCaptions
      (Compile.concat (ofShownInterface unit asObjects) (shownInterfaces unit accepts))
      (Compile.concat (ofShownInterface (unit.extended further) asObjects)
        (shownInterfaces unit accepts)) :=
    agree_concat rfl .append (agree_ofShownInterface asObjects)
  have same : SameCaptions sections again := (agree _ _ _ _ _ (Prod.ext compiled rfl) first).2
  rw [List.map_append, same]
  exact List.prefix_append _ _

/-- The unit `endpoint` with its interface once more. The fields of the second interface would have
the anchors of those of the first, and they get others. -/
theorem captions_prefix_of_extended_endpoint :
    ∃ sections sections',
      ((interfaceGroup endpointUnit (fun _ => true) true).run .empty).1 = .ok sections ∧
      ((interfaceGroup (endpointUnit.extended endpointUnit.declarations) (fun _ => true) true).run
        .empty).1 = .ok sections' ∧
      sections.filterMap Section.anchor = ["endpoint-resource", "endpoint-resource-url"] ∧
      sections'.filterMap Section.anchor = ["endpoint-resource", "endpoint-resource-url",
        "endpoint-resource-1", "endpoint-resource-url-1"] ∧
      sections.map caption <+: sections'.map caption := by
  have anchored : ((interfaceGroup endpointUnit (fun _ => true) true).run .empty).1.map
      (List.filterMap Section.anchor) = .ok ["endpoint-resource", "endpoint-resource-url"] := rfl
  have anchored' : (((interfaceGroup (endpointUnit.extended endpointUnit.declarations)
      (fun _ => true) true).run .empty).1.map (List.filterMap Section.anchor)).toOption =
        some ["endpoint-resource", "endpoint-resource-url", "endpoint-resource-1",
          "endpoint-resource-url-1"] := by decide +kernel
  obtain ⟨sections, compiled, anchors⟩ := exists_of_map_eq_ok anchored
  obtain ⟨sections', extended, anchors'⟩ :=
    exists_of_map_eq_ok (eq_ok_of_toOption_eq_some anchored')
  exact ⟨sections, sections', compiled, extended, anchors, anchors',
    captions_prefix_of_extended endpointUnit endpointUnit.declarations (fun _ => true) true .empty
      sections sections' compiled extended⟩

end Section

end DocPress
