import DocPress.Page.OfUnit
import DocPress.Proofs.FieldPlaces
import DocPress.Proofs.SectionAnchors

/-! # The anchors of pages

The registry of a page gives the same anchor again for a field that is documented twice, so its
anchors differ only because the page documents each field once.

* `Page.nodup_ownFields`: the fields that the page of a component documents stand at different
  places, since the interfaces and the class do.
* `Section.AnchoredBy.nodup`: fields at different places have different anchors.
* `Page.exists_of_partsOf`: the page of a component documents its own fields in one registry. -/

set_option autoImplicit false

namespace DocPress

/-! ## The places of declarations -/

theorem nodup_numbered (place : Place) (ds : List Declaration) :
    ((ds.zipIdx.map fun d => (Step.child d.2 :: place, d.1)).map Prod.fst).Nodup := by
  have numbers : (ds.zipIdx.map fun d => (Step.child d.2 :: place, d.1)).map Prod.fst =
      (List.range' 0 ds.length).map fun k => Step.child k :: place := by
    rw [← List.zipIdx_map_snd 0 ds, List.map_map, List.map_map]
    rfl
  rw [numbers]
  refine List.Nodup.map (fun i j equal => ?_) List.nodup_range'
  exact Step.child_injective (List.cons.inj equal).1

theorem map_snd_numbered (place : Place) (ds : List Declaration) :
    (ds.zipIdx.map fun d => (Step.child d.2 :: place, d.1)).map Prod.snd = ds := by
  rw [List.map_map]
  exact List.zipIdx_map_fst 0 ds

theorem exists_step_of_mem_numbered {place : Place} {ds : List Declaration}
    {m : Place × Declaration}
    (member : m ∈ ds.zipIdx.map fun d => (Step.child d.2 :: place, d.1)) :
    ∃ step, m.1 = step :: place := by
  obtain ⟨d, -, rfl⟩ := List.mem_map.mp member
  exact ⟨_, rfl⟩

theorem DocUnit.mem_of_locatedClass {unit : DocUnit} {c : Place × Declaration}
    (found : unit.locatedClass = .ok c) : c ∈ unit.locatedOfKind .classDecl := by
  unfold DocUnit.locatedClass at found
  split at found
  · rename_i first isFirst
    cases found
    exact List.mem_of_mem_head? isFirst
  · cases found

theorem DocUnit.mem_locatedOfKind {unit : DocUnit} {kind : DeclKind} {d : Place × Declaration} :
    d ∈ unit.locatedOfKind kind ↔ d ∈ unit.located ∧ d.2.kind = kind := by
  simp only [locatedOfKind, List.mem_filter, decide_eq_true_eq]

/-- Declarations of different kinds stand at different places. -/
theorem DocUnit.kind_eq_of_place_eq {unit : DocUnit} {kind kind' : DeclKind}
    {d d' : Place × Declaration} (first : d ∈ unit.locatedOfKind kind)
    (second : d' ∈ unit.locatedOfKind kind') (samePlace : d.1 = d'.1) : kind = kind' := by
  obtain ⟨isLocated, rfl⟩ := mem_locatedOfKind.mp first
  obtain ⟨isLocated', rfl⟩ := mem_locatedOfKind.mp second
  have same : d = d' :=
    List.inj_on_of_nodup_map (nodup_numbered [] unit.declarations) isLocated isLocated' samePlace
  rw [same]

/-- A declaration of a unit is one step away from it. -/
theorem DocUnit.exists_step_of_mem {unit : DocUnit} {kind : DeclKind} {d : Place × Declaration}
    (member : d ∈ unit.locatedOfKind kind) : ∃ step, d.1 = [step] :=
  exists_step_of_mem_numbered (mem_locatedOfKind.mp member).1

namespace Section

variable {unit : DocUnit}

/-! ## The places of the fields of a group -/

theorem spread_nestedFields (place : Place) (o : Documented) (name : String) :
    Spread place (nestedFields place o name) := TypeExpr.spread_fieldsOfOptional o.type place name 0

theorem spread_memberFields (m : Place × Declaration) : Spread m.1 (memberFields m) := by
  unfold memberFields
  split
  · exact .nil
  · split
    · exact (spread_nestedFields _ _ _).of_cons
    · exact .nil

theorem spread_interfaceFields (asObjects : Bool) (i : Place × Declaration) :
    Spread i.1 (interfaceFields asObjects i) := by
  cases asObjects with
  | true => exact spread_nestedFields _ _ _
  | false =>
    exact .flatMap (nodup_numbered _ _) (fun m member => exists_step_of_mem_numbered member)
      fun m _ => spread_memberFields m

theorem spread_getterFields (g : Place × Declaration × CallSignature) :
    Spread g.1 (getterFields g) := (spread_nestedFields _ _ _).of_cons

/-- A getter that is shown is that of an accessor, and its comment does not hide it. -/
theorem of_mem_shownGetters {getters : List (Place × Declaration)}
    {g : Place × Declaration × CallSignature} (member : g ∈ shownGetters getters) :
    (g.1, g.2.1) ∈ getters ∧ g.2.1.getter = some g.2.2 ∧
      g.2.2.comment.any DocComment.hides = false := by
  obtain ⟨located, isGetter, shown⟩ := List.mem_filterMap.mp member
  dsimp only at shown
  split at shown
  · rename_i s isSignature
    split at shown
    · cases shown
    · rename_i notHidden
      cases shown
      exact ⟨isGetter, isSignature, by simpa using notHidden⟩
  · cases shown

theorem sublist_shownGetters (getters : List (Place × Declaration)) :
    ((shownGetters getters).map Prod.fst).Sublist (getters.map Prod.fst) := by
  induction getters with
  | nil => exact .slnil
  | cons g getters inductionHypothesis =>
    obtain ⟨place, g⟩ := g
    rw [shownGetters, List.filterMap_cons]
    split
    · exact inductionHypothesis.cons _
    · rename_i shown isShown
      have samePlace : shown.1 = place := by
        dsimp only at isShown
        split at isShown
        · split at isShown
          · cases isShown
          · cases isShown
            rfl
        · cases isShown
      rw [List.map_cons, List.map_cons, samePlace]
      exact inductionHypothesis.cons_cons _

/-- The fields of properties are spread below the place of the class. -/
theorem spread_propertyFields {c : Place × Declaration} (found : unit.locatedClass = .ok c) :
    Spread c.1 (propertyFields unit) := by
  have getters : classGetters unit = .ok ((c.2.located c.1).filter fun m =>
      m.2.kind = .accessorDecl && m.2.modifiers.isPublic) := by
    unfold classGetters
    rw [found]
    rfl
  rw [propertyFields, getters]
  have roots := (sublist_shownGetters ((c.2.located c.1).filter fun m =>
    m.2.kind = .accessorDecl && m.2.modifiers.isPublic)).trans (List.filter_sublist.map Prod.fst)
  refine .flatMap ((nodup_numbered _ _).sublist roots) (fun g member => ?_)
    fun g _ => spread_getterFields g
  obtain ⟨m, isMember, samePlace⟩ := List.mem_map.mp (roots.subset (List.mem_map_of_mem member))
  rw [← samePlace]
  exact exists_step_of_mem_numbered isMember

/-- The accepted interfaces and the others are all interfaces. -/
theorem perm_interfaceGroupFields (unit : DocUnit) (accepts : Declaration → Bool)
    (asObjects : Bool) :
    (interfaceGroupFields unit accepts asObjects ++
      interfaceGroupFields unit (fun i => !accepts i) asObjects).Perm
      (interfaceGroupFields unit (fun _ => true) asObjects) := by
  have filtered : ∀ shows : Declaration → Bool, shownInterfaces unit shows =
      (shownInterfaces unit fun _ => true).filter fun i => shows i.2 := by
    intro shows
    simp [shownInterfaces, List.filter_filter, Bool.and_comm]
  rw [interfaceGroupFields, interfaceGroupFields, ← List.flatMap_append, filtered accepts,
    filtered fun i => !accepts i]
  exact (List.filter_append_perm _ _).flatMap_right _

/-- The places of the accepted interfaces are those of declarations of the unit. -/
theorem sublist_shownInterfaces (accepts : Declaration → Bool) :
    (shownInterfaces unit accepts).Sublist unit.located :=
  List.filter_sublist.trans List.filter_sublist

theorem spread_interfaceGroupFields (accepts : Declaration → Bool) (asObjects : Bool) :
    Spread [] (interfaceGroupFields unit accepts asObjects) :=
  .flatMap ((nodup_numbered [] _).sublist ((sublist_shownInterfaces accepts).map Prod.fst))
    (fun _ member => exists_step_of_mem_numbered ((sublist_shownInterfaces accepts).subset member))
    fun i _ => spread_interfaceFields asObjects i

end Section

theorem Compile.exists_run_of_fresh {α : Type} {c : Compile α} {a : α} (built : c.fresh = .ok a) :
    ∃ final, c.run Anchors.empty = (.ok a, final) := ⟨_, Prod.ext built rfl⟩

namespace Section

/-! ## Anchors of fields at different places -/

theorem AnchoredBy.nodup {registry : Anchors Place} {fields : List FieldEntry}
    {sections : List Section} (anchored : AnchoredBy registry fields sections)
    (lawful : registry.Lawful) (places_nodup : (fields.map FieldEntry.place).Nodup) :
    (anchors sections).Nodup := by
  refine .of_map some ?_
  rw [anchored]
  refine List.pairwise_map.mpr ((List.pairwise_map.mp places_nodup).imp_of_mem ?_)
  intro e e' isFirst _ differ same
  obtain ⟨anchor, -, held⟩ := anchored.exists_find? isFirst
  exact differ (lawful.owner_unique held (same ▸ held))

/-- What documents fields on a page of its own. -/
theorem Documents.anchoredBy_of_fresh {c : Compile (List Section)} {fields : List FieldEntry}
    {sections : List Section} (documents : Documents c fields) (built : c.fresh = .ok sections) :
    AnchoredBy (Anchors.empty.after (fields.map FieldEntry.request)) fields sections := by
  obtain ⟨final, compiled⟩ := Compile.exists_run_of_fresh built
  obtain ⟨rfl, anchored⟩ := documents _ _ _ compiled
  exact anchored

end Section

namespace Page

open Section (anchors)

/-! ## Pages with interfaces -/

variable {config : SiteConfig} {sdk : List DocUnit} {unit : DocUnit}

theorem documents_interfacesInOrder (accepts : Declaration → Bool) :
    Section.Documents (interfacesInOrder unit accepts)
      (Section.interfaceGroupFields unit accepts false ++
        Section.interfaceGroupFields unit (fun i => !accepts i) false) :=
  (Section.documents_interfaceGroup accepts false).append
    (Section.documents_interfaceGroup (fun i => !accepts i) false)

/-- The nested fields that the page of a configuration documents. -/
def configFields (unit : DocUnit) : List FieldEntry :=
  let isConfig : Declaration → Bool := fun i => i.name = .text "Config"
  Section.interfaceGroupFields unit isConfig false ++
    Section.interfaceGroupFields unit (fun i => !isConfig i) false

theorem nodup_configFields (unit : DocUnit) :
    ((configFields unit).map FieldEntry.place).Nodup :=
  ((Section.perm_interfaceGroupFields _ _ false).map _).nodup_iff.mpr
    (Section.spread_interfaceGroupFields _ false).nodup

theorem anchoredBy_of_ofConfig {page : Page} (built : ofConfig unit = .ok page) :
    Section.AnchoredBy (Anchors.empty.after ((configFields unit).map FieldEntry.request))
      (configFields unit) page.sections := by
  obtain ⟨comment, -, built⟩ := exists_of_bind_eq_ok built
  obtain ⟨about, introduced, built⟩ := exists_of_bind_eq_ok built
  obtain ⟨interfaces, ofInterfaces, built⟩ := exists_of_bind_eq_ok built
  obtain ⟨source, -, built⟩ := exists_of_bind_eq_ok built
  cases built
  rw [Section.AnchoredBy, Section.anchors_append, Section.anchors_about introduced]
  exact (documents_interfacesInOrder _).anchoredBy_of_fresh ofInterfaces

theorem anchors_nodup_of_ofConfig {page : Page} (built : ofConfig unit = .ok page) :
    (anchors page.sections).Nodup :=
  (anchoredBy_of_ofConfig built).nodup (Anchors.Lawful.empty.after _) (nodup_configFields unit)

def helperFields (unit : DocUnit) : List FieldEntry :=
  Section.interfaceGroupFields unit (fun _ => true) false

theorem anchoredBy_of_helperSections {sections : List Section}
    (built : helperSections unit = .ok sections) :
    Section.AnchoredBy (Anchors.empty.after ((helperFields unit).map FieldEntry.request))
      (helperFields unit) sections := by
  obtain ⟨comment, -, built⟩ := exists_of_bind_eq_ok built
  obtain ⟨about, introduced, built⟩ := exists_of_bind_eq_ok built
  obtain ⟨functions, ofFunctions, built⟩ := exists_of_bind_eq_ok built
  obtain ⟨interfaces, ofInterfaces, built⟩ := exists_of_bind_eq_ok built
  cases built
  rw [Section.AnchoredBy, Section.anchors_append, Section.anchors_append,
    Section.anchors_about introduced, Section.anchors_functionGroup ofFunctions]
  exact (Section.documents_interfaceGroup _ false).anchoredBy_of_fresh ofInterfaces

theorem anchors_nodup_of_helperSections {sections : List Section}
    (built : helperSections unit = .ok sections) : (anchors sections).Nodup :=
  (anchoredBy_of_helperSections built).nodup (Anchors.Lawful.empty.after _)
    (Section.spread_interfaceGroupFields _ false).nodup

theorem helperSections_of_ofDns {page : Page} (built : ofDns config unit = .ok page) :
    helperSections unit = .ok page.sections := by
  obtain ⟨segments, -, built⟩ := exists_of_bind_eq_ok built
  split at built
  · obtain ⟨sections, helper, built⟩ := exists_of_bind_eq_ok built
    obtain ⟨source, -, built⟩ := exists_of_bind_eq_ok built
    cases built
    exact helper
  · cases built

theorem helperSections_of_ofLinkable {page : Page} (built : ofLinkable config unit = .ok page) :
    helperSections unit = .ok page.sections := by
  obtain ⟨source, -, built⟩ := exists_of_bind_eq_ok built
  split at built
  · cases built
  · obtain ⟨sections, helper, built⟩ := exists_of_bind_eq_ok built
    obtain ⟨path, -, built⟩ := exists_of_bind_eq_ok built
    cases built
    exact helper

/-! ## Pages of components -/

/-- The sections of the page of a component that are not in the group on its runtime use. -/
def ComponentParts.own (p : ComponentParts) : List Section :=
  p.about ++ p.constructor ++ p.arguments ++ p.properties ++ p.methods ++ p.interfaces

/-- The nested fields that the page of a component documents outside the group on its runtime
use. -/
def ownFields (unit : DocUnit) : List FieldEntry :=
  match unit.requiredClass with
  | .ok cls =>
    let argsName := cls.name.display ++ "Args"
    Section.interfaceGroupFields unit (fun i => i.name = .text argsName) false ++
      Section.propertyFields unit ++
      Section.interfaceGroupFields unit (fun i => i.name ≠ .text argsName) false
  | .error _ => []

theorem anchors_map_withVersion (className version : String) (sections : List Section) :
    anchors (sections.map (withVersion className version)) = anchors sections := by
  rw [anchors, anchors, List.filterMap_map]
  rfl

/-- No field of a property is one of an interface. -/
theorem disjoint_propertyFields {c : Place × Declaration} (found : unit.locatedClass = .ok c)
    (accepts : Declaration → Bool) (asObjects : Bool) :
    List.Disjoint ((Section.interfaceGroupFields unit accepts asObjects).map FieldEntry.place)
      ((Section.propertyFields unit).map FieldEntry.place) := by
  intro shared inInterfaces inProperties
  obtain ⟨e, ofInterfaces, rfl⟩ := List.mem_map.mp inInterfaces
  obtain ⟨e', ofProperties, samePlace⟩ := List.mem_map.mp inProperties
  obtain ⟨i, isShown, ofInterface⟩ := List.mem_flatMap.mp ofInterfaces
  have isInterface := List.mem_of_mem_filter isShown
  have isClass := DocUnit.mem_of_locatedClass found
  have belowInterface := (Section.spread_interfaceFields asObjects i).below e ofInterface
  have belowClass := (Section.spread_propertyFields found).below e' ofProperties
  rw [samePlace] at belowClass
  obtain ⟨step, interfacePlace⟩ := DocUnit.exists_step_of_mem isInterface
  obtain ⟨step', classPlace⟩ := DocUnit.exists_step_of_mem isClass
  have sameRoot : i.1 = c.1 := eq_of_below belowInterface belowClass
    (by rw [interfacePlace, classPlace, List.length_singleton, List.length_singleton])
  cases DocUnit.kind_eq_of_place_eq isInterface isClass sameRoot

theorem nodup_ownFields (unit : DocUnit) : ((ownFields unit).map FieldEntry.place).Nodup := by
  unfold ownFields
  split
  · rename_i cls isClass
    obtain ⟨c, found, -⟩ := exists_of_bind_eq_ok isClass
    simp only [decide_not]
    refine List.Perm.nodup_iff ?_ |>.mpr
      ((Section.spread_interfaceGroupFields (fun _ => true) false).nodup.append
        (Section.spread_propertyFields found).nodup (disjoint_propertyFields found _ _))
    rw [← List.map_append]
    have interfacesOnce := Section.perm_interfaceGroupFields unit
      (fun i => i.name = .text (cls.name.display ++ "Args")) false
    refine .map _ (.trans ?_ (interfacesOnce.append_right _))
    rw [List.append_assoc, List.append_assoc]
    exact List.perm_append_comm.append_left _
  · exact .nil

/-- The parts of a page of a component: what is outside the group on the runtime use documents the
fields of the unit in a registry of the page, and the group is built on its own. -/
theorem exists_of_partsOf {parts : ComponentParts} (built : partsOf config sdk unit = .ok parts) :
    Section.AnchoredBy (Anchors.empty.after ((ownFields unit).map FieldEntry.request))
      (ownFields unit) parts.own ∧
    ∃ module?, sdkOf? sdk unit = .ok module? ∧
      sdkSections config.sdkRules unit module? = .ok parts.runtime := by
  obtain ⟨cls, isClass, built⟩ := exists_of_bind_eq_ok built
  obtain ⟨version, -, built⟩ := exists_of_bind_eq_ok built
  obtain ⟨comment, -, built⟩ := exists_of_bind_eq_ok built
  obtain ⟨constructor, ofConstructor, built⟩ := exists_of_bind_eq_ok built
  obtain ⟨final, built⟩ := Compile.exists_run_of_fresh built
  obtain ⟨about, introduced, built⟩ := Compile.exists_of_run_lift_bind built
  obtain ⟨arguments, afterArguments, ofArguments, built⟩ := Compile.exists_of_run_bind built
  obtain ⟨properties, afterProperties, ofProperties, built⟩ := Compile.exists_of_run_bind built
  obtain ⟨module?, named, built⟩ := Compile.exists_of_run_lift_bind built
  obtain ⟨runtime, ofRuntime, built⟩ := Compile.exists_of_run_lift_bind built
  obtain ⟨methods, ofMethods, built⟩ := Compile.exists_of_run_lift_bind built
  obtain ⟨interfaces, afterInterfaces, ofInterfaces, built⟩ := Compile.exists_of_run_bind built
  cases built
  refine ⟨?_, module?, named, ofRuntime⟩
  obtain ⟨rfl, argumentsAnchored⟩ := Section.documents_interfaceGroup _ _ _ _ _ ofArguments
  obtain ⟨rfl, propertiesAnchored⟩ := Section.documents_properties _ _ _ ofProperties
  obtain ⟨rfl, interfacesAnchored⟩ := Section.documents_interfaceGroup _ _ _ _ _ ofInterfaces
  -- what was given out first is still held at the end of the page
  have anchored := ((argumentsAnchored.after _).append propertiesAnchored).after _
    |>.append interfacesAnchored
  have sameAnchors : anchors (about ++ constructor.map (withVersion cls.name.display version) ++
      arguments ++ properties ++ methods ++ interfaces) =
        anchors (arguments ++ properties ++ interfaces) := by
    simp only [Section.anchors_append, Section.anchors_about introduced, anchors_map_withVersion,
      Section.anchors_constructorSection ofConstructor, Section.anchors_methods ofMethods,
      List.nil_append, List.append_nil]
  rw [ownFields, isClass]
  simp only [List.map_append, Anchors.after_append]
  rw [Section.AnchoredBy, ComponentParts.own, sameAnchors]
  exact anchored

theorem exists_of_ofComponent {page : Page} (built : ofComponent config sdk unit = .ok page) :
    ∃ parts, partsOf config sdk unit = .ok parts ∧ page.sections = parts.sections := by
  obtain ⟨parts, ofParts, built⟩ := exists_of_bind_eq_ok built
  obtain ⟨cls, -, built⟩ := exists_of_bind_eq_ok built
  obtain ⟨version, -, built⟩ := exists_of_bind_eq_ok built
  obtain ⟨fullName, -, built⟩ := exists_of_bind_eq_ok built
  obtain ⟨source, -, built⟩ := exists_of_bind_eq_ok built
  obtain ⟨path, -, built⟩ := exists_of_bind_eq_ok built
  cases built
  exact ⟨parts, ofParts, rfl⟩

theorem own_anchors_nodup_of_partsOf {parts : ComponentParts}
    (built : partsOf config sdk unit = .ok parts) : (anchors parts.own).Nodup := by
  obtain ⟨anchored, -⟩ := exists_of_partsOf built
  exact anchored.nodup (Anchors.Lawful.empty.after _) (nodup_ownFields unit)

/-- The anchors of the nested fields of a unit differ on its page: on all of the page of a
configuration, of a DNS adapter and of a linkable helper, and outside the group on the runtime use
on the page of a component. -/
theorem nodup_anchors (config : SiteConfig) (sdk : List DocUnit) (unit : DocUnit) :
    (∀ page, ofConfig unit = .ok page → (anchors page.sections).Nodup) ∧
    (∀ page, ofDns config unit = .ok page → (anchors page.sections).Nodup) ∧
    (∀ page, ofLinkable config unit = .ok page → (anchors page.sections).Nodup) ∧
    (∀ page, ofComponent config sdk unit = .ok page →
      ∃ parts, partsOf config sdk unit = .ok parts ∧ page.sections = parts.sections ∧
        (anchors parts.own).Nodup) := by
  refine ⟨fun page built => ?_, fun page built => ?_, fun page built => ?_, fun page built => ?_⟩
  · exact anchors_nodup_of_ofConfig built
  · exact anchors_nodup_of_helperSections (helperSections_of_ofDns built)
  · exact anchors_nodup_of_helperSections (helperSections_of_ofLinkable built)
  · obtain ⟨parts, ofParts, sameSections⟩ := exists_of_ofComponent built
    exact ⟨parts, ofParts, sameSections, own_anchors_nodup_of_partsOf ofParts⟩

/-- A component whose argument `resource` is one of two objects, each with a `url`. -/
def resourceUnit : DocUnit where
  name := .text "components/aws/foo"
  declarations :=
    [{ Declaration.bare "Foo" .classDecl none
        [{ Declaration.bare "constructor" .constructorDecl none [] with
            signatures := [⟨.text "new Foo", [], none, none⟩] }] with
        comment := some ⟨[], [], TagSet.empty⟩
        sourcePath := some (.text "platform/src/components/aws/foo.ts") },
      .bare "FooArgs" .interfaceDecl none
        [.bare "resource" .propertyDecl (some (.union [.object [.url], .object [.url]])) []]]
  sourcePath := some (.text "platform/src/components/aws/foo.ts")
  comment := none

/-- The field of one of the objects. -/
def argumentUrl (object : Nat) : FieldEntry :=
  ⟨0, "resource", [.child 0, .part object, .type, .child 0, .child 1], .url⟩

theorem ownFields_resourceUnit : ownFields resourceUnit = [argumentUrl 0, argumentUrl 1] := rfl

theorem resource_page_alone_titled :
    (ofComponent .standard [] resourceUnit).map Page.title = .ok "Foo" := rfl

/-- The page of the component is built, and the two fields of one slug have different anchors. -/
theorem nodup_anchors_resource :
    ∃ page parts, ofComponent .standard [] resourceUnit = .ok page ∧
      partsOf .standard [] resourceUnit = .ok parts ∧ page.sections = parts.sections ∧
      (anchors parts.own).length = 2 ∧ (anchors parts.own).Nodup := by
  obtain ⟨page, built, -⟩ := exists_of_map_eq_ok resource_page_alone_titled
  obtain ⟨-, -, -, ofPage⟩ := nodup_anchors .standard [] resourceUnit
  obtain ⟨parts, ofParts, sameSections, nodup⟩ := ofPage page built
  obtain ⟨anchored, -⟩ := exists_of_partsOf ofParts
  have count := congrArg List.length anchored
  rw [List.length_map, List.length_map, ownFields_resourceUnit] at count
  exact ⟨page, parts, built, ofParts, sameSections, count, nodup⟩

end Page

end DocPress
