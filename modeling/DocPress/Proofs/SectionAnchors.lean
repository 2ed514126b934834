import DocPress.Proofs.PlainSections

/-! # The anchors of groups of sections

Each group of sections documents a list of nested fields: it makes their requests in order, and its
sections have the anchors that the fields then hold (`Section.Documents`). Groups that are put one
after another document the fields of the first and then those of the second (`Documents.append`). -/

set_option autoImplicit false

namespace DocPress

namespace Section

/-! ## What documents fields -/

/-- Sections whose anchors are those that fields hold, in order. -/
def AnchoredBy (registry : Anchors Place) (fields : List FieldEntry) (sections : List Section) :
    Prop :=
  (anchors sections).map some = fields.map fun e => registry.find? e.place

/-- A computation that, where it succeeds, makes the requests of some fields in order and gives
sections with the anchors that the fields then hold. -/
def Documents (c : Compile (List Section)) (fields : List FieldEntry) : Prop :=
  ∀ registry sections final, c.run registry = (.ok sections, final) →
    final = registry.after (fields.map FieldEntry.request) ∧ AnchoredBy final fields sections

theorem AnchoredBy.exists_find? {registry : Anchors Place} {fields : List FieldEntry}
    {sections : List Section} (anchored : AnchoredBy registry fields sections) {e : FieldEntry}
    (member : e ∈ fields) :
    ∃ anchor ∈ anchors sections, registry.find? e.place = some anchor := by
  have isAnchor : registry.find? e.place ∈ (anchors sections).map some := by
    rw [anchored]
    exact List.mem_map_of_mem member
  obtain ⟨anchor, inSections, held⟩ := List.mem_map.mp isAnchor
  exact ⟨anchor, inSections, held.symm⟩

theorem AnchoredBy.exists_of_mem {registry : Anchors Place} {fields : List FieldEntry}
    {sections : List Section} (anchored : AnchoredBy registry fields sections) {anchor : String}
    (member : anchor ∈ anchors sections) :
    ∃ e ∈ fields, registry.find? e.place = some anchor := by
  have held : some anchor ∈ fields.map fun e => registry.find? e.place := by
    rw [← anchored]
    exact List.mem_map_of_mem member
  exact List.mem_map.mp held

/-- Later requests leave the anchors of fields that hold one as they are. -/
theorem AnchoredBy.after {registry : Anchors Place} {fields : List FieldEntry}
    {sections : List Section} (anchored : AnchoredBy registry fields sections)
    (requests : List (Anchors.Request Place)) :
    AnchoredBy (registry.after requests) fields sections := by
  unfold AnchoredBy at anchored ⊢
  rw [anchored]
  refine List.map_congr_left fun e member => ?_
  obtain ⟨anchor, -, held⟩ := AnchoredBy.exists_find? anchored member
  rw [held, Anchors.find?_after_of_find? held]

theorem AnchoredBy.append {registry : Anchors Place} {first rest : List FieldEntry}
    {sections others : List Section} (ofFirst : AnchoredBy registry first sections)
    (ofRest : AnchoredBy registry rest others) :
    AnchoredBy registry (first ++ rest) (sections ++ others) := by
  unfold AnchoredBy at *
  rw [anchors_append, List.map_append, List.map_append, ofFirst, ofRest]

theorem anchoredBy_of_ofEntry {registry : Anchors Place} {unit : DocUnit} {fields : List FieldEntry}
    {sections : List Section}
    (compiled : List.Forall₂ (fun e s => ∃ anchor, registry.find? e.place = some anchor ∧
      ofEntry unit e anchor = .ok [s]) fields sections) : AnchoredBy registry fields sections := by
  induction compiled with
  | nil => rfl
  | cons ofFirst _ inductionHypothesis =>
    obtain ⟨anchor, held, compiled⟩ := ofFirst
    obtain ⟨type, body, -, only⟩ := exists_of_ofEntry compiled
    cases only
    rw [AnchoredBy, List.map_cons, held, ← inductionHypothesis]
    rfl

/-- Sections that give out no anchor and have none. -/
theorem Documents.lift {x : Except Fault (List Section)}
    (plain : ∀ sections, x = .ok sections → anchors sections = []) : Documents (liftM x) [] := by
  intro registry sections final compiled
  rw [Compile.run_lift, Prod.mk.injEq] at compiled
  obtain ⟨compiled, rfl⟩ := compiled
  refine ⟨rfl, ?_⟩
  rw [AnchoredBy, plain sections compiled]
  rfl

theorem Documents.pure {sections : List Section} (plain : anchors sections = []) :
    Documents (pure sections) [] := by
  intro registry compiledSections final compiled
  cases compiled
  exact ⟨rfl, by rw [AnchoredBy, plain]; rfl⟩

theorem Documents.append {c d : Compile (List Section)} {first rest : List FieldEntry}
    (ofFirst : Documents c first) (ofRest : Documents d rest) :
    Documents (do let sections ← c; let others ← d; return sections ++ others) (first ++ rest) := by
  intro registry sections final compiled
  obtain ⟨sections, between, left, compiled⟩ := Compile.exists_of_run_bind compiled
  obtain ⟨others, final, right, compiled⟩ := Compile.exists_of_run_bind compiled
  cases compiled
  obtain ⟨rfl, anchored⟩ := ofFirst _ _ _ left
  obtain ⟨rfl, othersAnchored⟩ := ofRest _ _ _ right
  refine ⟨?_, (anchored.after _).append othersAnchored⟩
  rw [List.map_append, Anchors.after_append]

/-! ## The two passes over nested fields -/

variable {unit : DocUnit}

theorem final_of_typeBlock {place : Place} {o : Documented} {name : String}
    {registry final : Anchors Place} {lines : List String}
    (shown : (typeBlock unit place o name).run registry = (.ok lines, final)) :
    final = registry.after ((nestedFields place o name).map FieldEntry.request) := by
  unfold typeBlock at shown
  obtain ⟨type, -, shown⟩ := Compile.exists_of_run_lift_bind shown
  obtain ⟨links, between, listed, shown⟩ := Compile.exists_of_run_bind shown
  cases shown
  exact (bullets_of_run listed).1

/-- Where a type block is compiled and then the sections of its nested fields, the fields are
documented by the two passes. -/
theorem documented_of_passes {place : Place} {o : Documented} {name : String}
    {registry between final : Anchors Place} {lines : List String} {titled : Section}
    {nested : List Section} (noAnchor : titled.anchor = none)
    (block : (typeBlock unit place o name).run registry = (.ok lines, between))
    (ofNested : (nestedSections unit place o name).run between = (.ok nested, final)) :
    final = registry.after ((nestedFields place o name).map FieldEntry.request) ∧
      AnchoredBy final (nestedFields place o name) (titled :: nested) := by
  cases final_of_typeBlock block
  obtain ⟨rfl, bySection⟩ := sections_of_run ofNested
  rw [AnchoredBy, anchors_cons_of_none noAnchor]
  -- the list has given out the anchors of all fields, so the sections ask for nothing new
  refine ⟨?_, anchoredBy_of_ofEntry bySection⟩
  exact Anchors.after_eq_self fun request member => Anchors.exists_find?_after registry member

/-! ## Interfaces -/

def memberFields (m : Place × Declaration) : List FieldEntry :=
  if m.2.isHidden then []
  else
    match m.2.kind with
    | .propertyDecl => nestedFields (.type :: m.1) m.2.documented m.2.name.display
    | _ => []

def interfaceFields (asObjects : Bool) (i : Place × Declaration) : List FieldEntry :=
  if asObjects then
    nestedFields i.1 ⟨i.2.name, none, some (.object i.2.children)⟩ i.2.name.display
  else (i.2.located i.1).flatMap memberFields

theorem documents_ofMember (m : Place × Declaration) :
    Documents (ofMember unit m.1 m.2) (memberFields m) := by
  unfold ofMember memberFields
  split
  · exact .pure rfl
  · split
    · rename_i isProperty
      rw [isProperty]
      intro registry sections final compiled
      obtain ⟨type, between, block, compiled⟩ := Compile.exists_of_run_bind compiled
      obtain ⟨default, -, compiled⟩ := Compile.exists_of_run_lift_bind compiled
      obtain ⟨description, -, compiled⟩ := Compile.exists_of_run_lift_bind compiled
      obtain ⟨examples, -, compiled⟩ := Compile.exists_of_run_lift_bind compiled
      obtain ⟨nested, last, ofNested, compiled⟩ := Compile.exists_of_run_bind compiled
      cases compiled
      exact documented_of_passes rfl block ofNested
    · rename_i isMethod
      rw [isMethod]
      exact .lift fun sections compiled => anchors_of_ofMethod compiled
    · rename_i notProperty _
      split
      · contradiction
      · exact .pure rfl

theorem documents_ofMembers (ms : List (Place × Declaration)) :
    Documents (ofMembers unit ms) (ms.flatMap memberFields) := by
  induction ms with
  | nil => exact .pure rfl
  | cons m ms inductionHypothesis => exact (documents_ofMember m).append inductionHypothesis

theorem documents_ofInterface (i : Place × Declaration) :
    Documents (ofInterface unit i.1 i.2) ((i.2.located i.1).flatMap memberFields) := by
  intro registry sections final compiled
  unfold ofInterface at compiled
  split at compiled
  · cases compiled
  · obtain ⟨intro, -, compiled⟩ := Compile.exists_of_run_lift_bind compiled
    obtain ⟨members, last, ofMembers, compiled⟩ := Compile.exists_of_run_bind compiled
    cases compiled
    obtain ⟨rfl, anchored⟩ := documents_ofMembers _ _ _ _ ofMembers
    exact ⟨rfl, anchored⟩

theorem documents_ofObjectInterface (i : Place × Declaration) :
    Documents (ofObjectInterface unit i.1 i.2)
      (nestedFields i.1 ⟨i.2.name, none, some (.object i.2.children)⟩ i.2.name.display) := by
  intro registry sections final compiled
  obtain ⟨type, between, block, compiled⟩ := Compile.exists_of_run_bind compiled
  obtain ⟨nested, last, ofNested, compiled⟩ := Compile.exists_of_run_bind compiled
  cases compiled
  exact documented_of_passes rfl block ofNested

theorem documents_ofInterfaces (asObjects : Bool) (is : List (Place × Declaration)) :
    Documents (ofInterfaces unit asObjects is) (is.flatMap (interfaceFields asObjects)) := by
  induction is with
  | nil => exact .pure rfl
  | cons i is inductionHypothesis =>
    cases asObjects with
    | false => exact (documents_ofInterface i).append inductionHypothesis
    | true => exact (documents_ofObjectInterface i).append inductionHypothesis

def interfaceGroupFields (unit : DocUnit) (accepts : Declaration → Bool) (asObjects : Bool) :
    List FieldEntry :=
  (shownInterfaces unit accepts).flatMap (interfaceFields asObjects)

theorem documents_interfaceGroup (accepts : Declaration → Bool) (asObjects : Bool) :
    Documents (interfaceGroup unit accepts asObjects)
      (interfaceGroupFields unit accepts asObjects) :=
  documents_ofInterfaces asObjects _

/-! ## Variables -/

def variableFields (unit : DocUnit) (v : Place × Declaration) : List FieldEntry :=
  nestedFields (documentedVariable unit v.1 v.2).1 (documentedVariable unit v.1 v.2).2
    v.2.name.display

theorem documents_ofVariable (v : Place × Declaration) :
    Documents (ofVariable unit v.1 v.2) (variableFields unit v) := by
  unfold ofVariable variableFields
  rcases documentedVariable unit v.1 v.2 with ⟨place, shown⟩
  intro registry sections final compiled
  obtain ⟨type, between, block, compiled⟩ := Compile.exists_of_run_bind compiled
  obtain ⟨description, -, compiled⟩ := Compile.exists_of_run_lift_bind compiled
  obtain ⟨examples, -, compiled⟩ := Compile.exists_of_run_lift_bind compiled
  obtain ⟨nested, last, ofNested, compiled⟩ := Compile.exists_of_run_bind compiled
  cases compiled
  exact documented_of_passes rfl block ofNested

theorem documents_ofVariables (vs : List (Place × Declaration)) :
    Documents (ofVariables unit vs) (vs.flatMap (variableFields unit)) := by
  induction vs with
  | nil => exact .pure rfl
  | cons v vs inductionHypothesis => exact (documents_ofVariable v).append inductionHypothesis

def variableGroupFields (unit : DocUnit) : List FieldEntry :=
  (shownVariables unit).flatMap (variableFields unit)

theorem documents_variableGroup (title : Option String) :
    Documents (variableGroup unit title) (variableGroupFields unit) := by
  unfold variableGroup
  split
  · rename_i isEmpty
    rw [variableGroupFields, List.isEmpty_iff.mp isEmpty]
    exact .pure rfl
  · intro registry sections final compiled
    obtain ⟨shown, last, ofVariables, compiled⟩ := Compile.exists_of_run_bind compiled
    cases compiled
    obtain ⟨rfl, anchored⟩ := documents_ofVariables _ _ _ _ ofVariables
    refine ⟨rfl, ?_⟩
    rw [AnchoredBy, anchors_append, anchors_groupHeading]
    exact anchored

/-! ## Properties -/

def getterFields (g : Place × Declaration × CallSignature) : List FieldEntry :=
  nestedFields (.getter :: g.1) g.2.2.documented g.2.1.name.display

theorem documents_ofGetter (g : Place × Declaration × CallSignature) :
    Documents (ofGetter unit g.1 g.2.1 g.2.2) (getterFields g) := by
  intro registry sections final compiled
  obtain ⟨type, between, block, compiled⟩ := Compile.exists_of_run_bind compiled
  obtain ⟨description, -, compiled⟩ := Compile.exists_of_run_lift_bind compiled
  obtain ⟨nested, last, ofNested, compiled⟩ := Compile.exists_of_run_bind compiled
  cases compiled
  exact documented_of_passes rfl block ofNested

theorem documents_ofGetters (gs : List (Place × Declaration × CallSignature)) :
    Documents (ofGetters unit gs) (gs.flatMap getterFields) := by
  induction gs with
  | nil => exact .pure rfl
  | cons g gs inductionHypothesis => exact (documents_ofGetter g).append inductionHypothesis

def propertyFields (unit : DocUnit) : List FieldEntry :=
  match classGetters unit with
  | .ok getters => (shownGetters getters).flatMap getterFields
  | .error _ => []

theorem documents_properties : Documents (properties unit) (propertyFields unit) := by
  intro registry sections final compiled
  unfold properties at compiled
  obtain ⟨getters, found, compiled⟩ := Compile.exists_of_run_lift_bind compiled
  simp only [propertyFields, found]
  dsimp only at compiled
  split at compiled
  · rename_i isEmpty
    cases compiled
    rw [List.isEmpty_iff.mp isEmpty]
    exact ⟨rfl, rfl⟩
  · obtain ⟨shown, last, ofGetters, compiled⟩ := Compile.exists_of_run_bind compiled
    cases compiled
    obtain ⟨rfl, anchored⟩ := documents_ofGetters _ _ _ _ ofGetters
    exact ⟨rfl, anchored⟩

end Section

end DocPress
