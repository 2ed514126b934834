import DocPress.Proofs.SectionLists

/-! # Groups of sections that are compiled again

All groups of sections of a unit work on one registry of anchors. A group that has been compiled can
be compiled again later, whatever has been compiled in between or has failed to, and gives the same
sections: by then its fields hold their anchors, so it asks for nothing new.

* `Compile.Settles`: computations that can be repeated. They are closed under sequencing, so that
  there is one short lemma for each operation, made like the operation itself.
* `Section.Group`: the groups of sections that can be asked for.
* `Section.compile_again`: the theorem about sequences of groups. -/

set_option autoImplicit false

namespace DocPress

namespace Anchors

variable {Owner : Type} [DecidableEq Owner] {registry between later : Anchors Owner}

/-- Whoever holds an anchor in one registry holds it in the other. -/
def KeptIn (registry later : Anchors Owner) : Prop :=
  ∀ owner anchor, registry.find? owner = some anchor → later.find? owner = some anchor

theorem KeptIn.refl (registry : Anchors Owner) : registry.KeptIn registry := fun _ _ => id

theorem KeptIn.trans (first : registry.KeptIn between) (second : between.KeptIn later) :
    registry.KeptIn later := fun owner anchor held => second owner anchor (first owner anchor held)

theorem keptIn_assign (registry : Anchors Owner) (owner : Owner) (path name : String) :
    registry.KeptIn (registry.assign owner path name).2 :=
  fun _ _ held => find?_assign_of_find? held owner path name

end Anchors

namespace Compile

variable {α β : Type}

/-- A computation that takes no anchor away and that, once it has succeeded, gives the same result
from every registry with its anchors, and leaves that registry as it is. -/
structure Settles (c : Compile α) : Prop where
  kept : ∀ registry : Anchors Place, registry.KeptIn (c.run registry).2
  again : ∀ {registry final : Anchors Place} {a : α}, c.run registry = (.ok a, final) →
    ∀ {later : Anchors Place}, final.KeptIn later → c.run later = (.ok a, later)

theorem settles_lift (x : Except Fault α) : Settles (liftM x : Compile α) := by
  refine ⟨fun registry => Anchors.KeptIn.refl registry, ?_⟩
  intro registry final a succeeds later _
  rw [run_lift, Prod.mk.injEq] at succeeds
  rw [run_lift, succeeds.1]

theorem settles_pure (a : α) : Settles (pure a : Compile α) := settles_lift (.ok a)

theorem settles_anchor (place : Place) (path : String) (name : Data) :
    Settles (anchor place path name) := by
  constructor
  · intro registry
    rw [run_anchor]
    exact Anchors.keptIn_assign registry place path name.display
  · intro registry final given succeeds later kept
    rw [run_anchor, Prod.mk.injEq] at succeeds
    obtain ⟨isGiven, rfl⟩ := succeeds
    cases isGiven
    have held := kept _ _ (Anchors.find?_assign_self registry place path name.display)
    rw [run_anchor, Anchors.assign_of_find? held]

theorem Settles.bind {c : Compile α} {f : α → Compile β} (first : Settles c)
    (rest : ∀ a, Settles (f a)) : Settles (c >>= f) := by
  constructor
  · intro registry
    have atFirst := first.kept registry
    rw [run_bind]
    rcases outcome : c.run registry with ⟨fault | a, between⟩
    · rw [outcome] at atFirst
      exact atFirst
    · rw [outcome] at atFirst
      exact atFirst.trans ((rest a).kept between)
  · intro registry final b succeeds later kept
    obtain ⟨a, between, isFirst, isRest⟩ := exists_of_run_bind succeeds
    have restKept := (rest a).kept between
    rw [isRest] at restKept
    rw [run_bind, first.again isFirst (restKept.trans kept)]
    exact (rest a).again isRest kept

theorem Settles.ite {condition : Prop} [Decidable condition] {c d : Compile α} (first : Settles c)
    (second : Settles d) : Settles (if condition then c else d) := by
  split
  · exact first
  · exact second

theorem settles_concat {f : α → Compile (List β)} {xs : List α} (each : ∀ x, Settles (f x)) :
    Settles (concat f xs) := by
  induction xs with
  | nil => exact settles_pure []
  | cons x xs inductionHypothesis =>
    exact (each x).bind fun _ => inductionHypothesis.bind fun _ => settles_pure _

end Compile

namespace Section

open Compile (Settles settles_anchor settles_concat settles_lift settles_pure)

variable {unit : DocUnit}

/-! ## Nested fields -/

theorem settles_bullets (es : List FieldEntry) : Settles (bullets unit es) := by
  induction es with
  | nil => exact settles_pure []
  | cons e es inductionHypothesis =>
    have first : Settles (bullet unit e) :=
      (settles_lift _).bind fun _ => (settles_anchor _ _ _).bind fun _ => settles_pure _
    exact first.bind fun _ => inductionHypothesis.bind fun _ => settles_pure _

theorem settles_typeBlock (place : Place) (o : Documented) (name : String) :
    Settles (typeBlock unit place o name) :=
  (settles_lift _).bind fun _ => (settles_bullets _).bind fun _ => settles_pure _

theorem settles_nestedSections (place : Place) (o : Documented) (name : String) :
    Settles (nestedSections unit place o name) := by
  rw [nestedSections, ofFields_eq_concat]
  exact settles_concat fun _ => (settles_anchor _ _ _).bind fun _ => settles_lift _

/-! ## Variables and properties -/

theorem settles_ofVariable (place : Place) (v : Declaration) :
    Settles (ofVariable unit place v) := by
  unfold ofVariable
  -- an interface may stand for the variable; its fields are those at their own places
  rcases documentedVariable unit place v with ⟨place, shown⟩
  exact (settles_typeBlock _ _ _).bind fun _ => (settles_lift _).bind fun _ =>
    (settles_lift _).bind fun _ => (settles_nestedSections _ _ _).bind fun _ => settles_pure _

theorem settles_ofVariables (vs : List (Place × Declaration)) : Settles (ofVariables unit vs) := by
  rw [ofVariables_eq_concat]
  exact settles_concat fun v => settles_ofVariable v.1 v.2

theorem settles_variableGroup (title : Option String) : Settles (variableGroup unit title) :=
  .ite (settles_pure []) ((settles_ofVariables _).bind fun _ => settles_pure _)

theorem settles_ofGetter (place : Place) (g : Declaration) (s : CallSignature) :
    Settles (ofGetter unit place g s) :=
  (settles_typeBlock _ _ _).bind fun _ => (settles_lift _).bind fun _ =>
    (settles_nestedSections _ _ _).bind fun _ => settles_pure _

theorem settles_ofGetters (gs : List (Place × Declaration × CallSignature)) :
    Settles (ofGetters unit gs) := by
  rw [ofGetters_eq_concat]
  exact settles_concat fun g => settles_ofGetter g.1 g.2.1 g.2.2

theorem settles_properties : Settles (properties unit) :=
  (settles_lift _).bind fun _ =>
    .ite (settles_pure []) ((settles_ofGetters _).bind fun _ => settles_pure _)

/-! ## Interfaces -/

theorem settles_ofMember (place : Place) (m : Declaration) : Settles (ofMember unit place m) := by
  refine .ite (settles_pure []) ?_
  split
  · exact (settles_typeBlock _ _ _).bind fun _ => (settles_lift _).bind fun _ =>
      (settles_lift _).bind fun _ => (settles_lift _).bind fun _ =>
      (settles_nestedSections _ _ _).bind fun _ => settles_pure _
  · exact settles_lift _
  · exact settles_pure []

theorem settles_ofMembers (ms : List (Place × Declaration)) : Settles (ofMembers unit ms) := by
  rw [ofMembers_eq_concat]
  exact settles_concat fun m => settles_ofMember m.1 m.2

theorem settles_ofInterface (place : Place) (i : Declaration) :
    Settles (ofInterface unit place i) :=
  .ite (settles_lift (.error _)) ((settles_lift _).bind fun _ => (settles_ofMembers _).bind fun _ =>
    settles_pure _)

theorem settles_ofObjectInterface (place : Place) (i : Declaration) :
    Settles (ofObjectInterface unit place i) :=
  (settles_typeBlock _ _ _).bind fun _ => (settles_nestedSections _ _ _).bind fun _ =>
    settles_pure _

theorem settles_interfaceGroup (accepts : Declaration → Bool) (asObjects : Bool) :
    Settles (interfaceGroup unit accepts asObjects) := by
  rw [interfaceGroup_eq_concat]
  exact settles_concat fun i =>
    .ite (settles_ofObjectInterface i.1 i.2) (settles_ofInterface i.1 i.2)

/-! ## Sequences of groups -/

/-- A group of sections of a unit that can be asked for. -/
inductive Group where
  | about (comment : DocComment)
  | classConstructor
  | exportedVariables (title : Option String)
  | functions (fs : List Declaration) (title within : Option String)
  | classMethods
  | classProperties
  | links
  | bindings
  | interfaces (accepts : Declaration → Bool) (asObjects : Bool)

/-- Compiles the sections of a group. -/
def Group.compile (unit : DocUnit) (builders : BuilderMethods) : Group → Compile (List Section)
  | .about comment => (Section.about comment : Except Fault (List Section))
  | .classConstructor => (constructorSection unit : Except Fault (List Section))
  | .exportedVariables title => variableGroup unit title
  | .functions fs title within => (functionGroup unit fs title within : Except Fault (List Section))
  | .classMethods => (Section.methods unit builders : Except Fault (List Section))
  | .classProperties => Section.properties unit
  | .links => (Section.links unit : Except Fault (List Section))
  | .bindings => (Section.bindings unit : Except Fault (List Section))
  | .interfaces accepts asObjects => interfaceGroup unit accepts asObjects

/-- The registry after groups have been asked for one after another. A group that fails leaves the
anchors that it has given out before. -/
def registryAfter (unit : DocUnit) (builders : BuilderMethods) (registry : Anchors Place) :
    List Group → Anchors Place
  | [] => registry
  | g :: gs => registryAfter unit builders ((g.compile unit builders).run registry).2 gs

variable {builders : BuilderMethods}

theorem settles_compile (g : Group) : Settles (g.compile unit builders) := by
  cases g with
  | about comment => exact settles_lift _
  | classConstructor => exact settles_lift _
  | exportedVariables title => exact settles_variableGroup title
  | functions fs title within => exact settles_lift _
  | classMethods => exact settles_lift _
  | classProperties => exact settles_properties
  | links => exact settles_lift _
  | bindings => exact settles_lift _
  | interfaces accepts asObjects => exact settles_interfaceGroup accepts asObjects

theorem registryAfter_append (registry : Anchors Place) (first rest : List Group) :
    registryAfter unit builders registry (first ++ rest) =
      registryAfter unit builders (registryAfter unit builders registry first) rest := by
  induction first generalizing registry with
  | nil => rfl
  | cons g gs inductionHypothesis => exact inductionHypothesis _

theorem keptIn_registryAfter (registry : Anchors Place) (groups : List Group) :
    registry.KeptIn (registryAfter unit builders registry groups) := by
  induction groups generalizing registry with
  | nil => exact .refl registry
  | cons g gs inductionHypothesis =>
    exact ((settles_compile g).kept registry).trans (inductionHypothesis _)

/-- In every sequence of groups that are asked for, some of which may fail: where a group has been
compiled, it gives the same sections at every later point, and leaves the registry of anchors
unchanged. -/
theorem compile_again (unit : DocUnit) (builders : BuilderMethods) (registry : Anchors Place)
    (before between : List Group) (g : Group) (sections : List Section)
    (compiled : ((g.compile unit builders).run
      (registryAfter unit builders registry before)).1 = .ok sections) :
    (g.compile unit builders).run
        (registryAfter unit builders registry (before ++ g :: between)) =
      (.ok sections, registryAfter unit builders registry (before ++ g :: between)) := by
  rw [registryAfter_append]
  exact (settles_compile g).again (Prod.ext compiled rfl) (keptIn_registryAfter _ between)

/-- A unit without a class, with an interface whose member `resource` is an object with a `url`. -/
def endpointUnit : DocUnit where
  name := .text "endpoint"
  declarations :=
    [.bare "Endpoint" .interfaceDecl none
      [.bare "resource" .propertyDecl (some (.object [.url])) []]]
  sourcePath := none
  comment := none

/-- Interfaces with a section for each member are asked for, then the constructor, which fails, and
then interfaces as objects, which give out an anchor for `resource`. The first group keeps the
anchor of `url`, which as a field of the objects would have had another one. -/
theorem compile_again_endpoint :
    ∃ sections registry,
      registryAfter endpointUnit [] .empty ([] ++ .interfaces (fun _ => true) false ::
        [.classConstructor, .interfaces (fun _ => true) true]) = registry ∧
      registry.given.map Prod.snd = ["endpoint-resource", "resource-url"] ∧
      sections.filterMap Section.anchor = ["resource-url"] ∧
      ((Group.interfaces (fun _ => true) false).compile endpointUnit []).run registry =
        (.ok sections, registry) := by
  have anchored : (((Group.interfaces (fun _ => true) false).compile endpointUnit []).run
      (registryAfter endpointUnit [] .empty [])).1.map (List.filterMap Section.anchor) =
        .ok ["resource-url"] := rfl
  obtain ⟨sections, compiled, anchors⟩ := exists_of_map_eq_ok anchored
  refine ⟨sections, _, rfl, rfl, anchors, ?_⟩
  exact compile_again endpointUnit [] .empty []
    [.classConstructor, .interfaces (fun _ => true) true] (.interfaces (fun _ => true) false)
    sections compiled

end Section

end DocPress
