import DocPress.Proofs.ComponentBlocks
import DocPress.Proofs.HiddenDeclarations
import DocPress.Proofs.SamePageLinks

/-! # Where links to interfaces of the same page lead

A reference by the name of an interface of the unit becomes a link to a heading of the same page,
whether or not the interface is shown. The page has headings for the interfaces that are not hidden,
each of them once, and for no others. So a link leads nowhere if all interfaces of its name are
hidden, and only then.

* `Page.introduced`: the interfaces that a page has headings for.
* `Page.perm_introduced_subjectsOf`: they are the visible interfaces of the unit.
* `Page.HasInterface`: a page with a heading that a link can lead to.
* `Page.samePage_link_has_interface_iff`: which links have one. -/

set_option autoImplicit false

namespace DocPress

def Subject.introduced? : Subject → Option Declaration
  | interface i => some i
  | _ => none

namespace Page

variable {config : SiteConfig} {sdk units : List DocUnit} {unit : DocUnit}

def introduced (subjects : List Subject) : List Declaration :=
  subjects.filterMap Subject.introduced?

@[simp] theorem introduced_text_cons (title : String) (level : Int) (subjects : List Subject) :
    introduced (.text title level :: subjects) = introduced subjects := rfl

@[simp] theorem introduced_append (first rest : List Subject) :
    introduced (first ++ rest) = introduced first ++ introduced rest :=
  List.filterMap_append

theorem mem_introduced_iff {subjects : List Subject} {i : Declaration} :
    i ∈ introduced subjects ↔ Subject.interface i ∈ subjects := by
  rw [introduced, List.mem_filterMap]
  constructor
  · rintro ⟨subject, member, isHeading⟩
    cases subject <;> cases isHeading
    exact member
  · intro member
    exact ⟨_, member, rfl⟩

/-! ## Groups without headings of interfaces -/

theorem introduced_eq_nil {subjects : List Subject}
    (none : ∀ subject ∈ subjects, subject.introduced? = none) : introduced subjects = [] :=
  List.filterMap_eq_nil_iff.mpr none

@[simp] theorem introduced_map_field (entries : List FieldEntry) :
    introduced (entries.map .field) = [] := by
  refine introduced_eq_nil fun subject member => ?_
  obtain ⟨e, -, rfl⟩ := List.mem_map.mp member
  rfl

theorem introduced_flatMap {α : Type} {subjects : α → List Subject} {xs : List α}
    (each : ∀ x, introduced (subjects x) = []) : introduced (xs.flatMap subjects) = [] := by
  induction xs with
  | nil => rfl
  | cons x xs inductionHypothesis =>
    rw [List.flatMap_cons, introduced_append, each, inductionHypothesis]
    rfl

@[simp] theorem introduced_memberSubjects (m : Place × Declaration) :
    introduced (Section.memberSubjects m) = [] := by
  unfold Section.memberSubjects
  split
  · rfl
  · split
    · exact introduced_map_field _
    · rfl
    · rfl

@[simp] theorem introduced_headingSubjects (title : Option String) :
    introduced (Section.headingSubjects title) = [] := by
  unfold Section.headingSubjects
  split
  · rfl
  · split <;> rfl

@[simp] theorem introduced_functionGroupSubjects (fs : List Declaration) (title : Option String) :
    introduced (Section.functionGroupSubjects fs title) = [] := by
  have functions : introduced (fs.map Subject.function) = [] := by
    refine introduced_eq_nil fun subject member => ?_
    obtain ⟨f, -, rfl⟩ := List.mem_map.mp member
    rfl
  unfold Section.functionGroupSubjects
  split
  · rfl
  · simp [functions]

@[simp] theorem introduced_variableGroupSubjects (title : Option String) :
    introduced (Section.variableGroupSubjects unit title) = [] := by
  unfold Section.variableGroupSubjects
  split
  · rfl
  · rw [introduced_append, introduced_headingSubjects]
    exact introduced_flatMap fun _ => introduced_map_field _

@[simp] theorem introduced_propertySubjects : introduced (Section.propertySubjects unit) = [] := by
  unfold Section.propertySubjects
  split
  · split
    · rfl
    · exact introduced_flatMap fun g => introduced_map_field _
  · rfl

@[simp] theorem introduced_methodSubjects (builders : Section.BuilderMethods) :
    introduced (Section.methodSubjects unit builders) = [] := by
  unfold Section.methodSubjects
  split
  · split
    · rfl
    · refine introduced_eq_nil fun subject member => ?_
      rcases List.mem_cons.mp member with rfl | member
      · rfl
      · obtain ⟨m, -, rfl⟩ := List.mem_map.mp member
        rfl
  · rfl

@[simp] theorem introduced_optionalSubjects (title : String) (x : Except Fault (List Section)) :
    introduced (Section.optionalSubjects title x) = [] := by
  unfold Section.optionalSubjects
  split <;> rfl

/-! ## Groups of interfaces -/

@[simp] theorem introduced_interfaceSubjects (i : Place × Declaration) :
    introduced (Section.interfaceSubjects false i) = [i.2] := by
  have members : introduced ((i.2.located i.1).flatMap Section.memberSubjects) = [] :=
    introduced_flatMap introduced_memberSubjects
  show i.2 :: introduced _ = _
  rw [members]

@[simp] theorem introduced_interfaceGroupSubjects (accepts : Declaration → Bool) :
    introduced (Section.interfaceGroupSubjects unit accepts false) =
      unit.visibleInterfaces.filter accepts := by
  rw [Section.interfaceGroupSubjects, ← Section.map_snd_shownInterfaces]
  induction Section.shownInterfaces unit accepts with
  | nil => rfl
  | cons i is inductionHypothesis =>
    rw [List.flatMap_cons, introduced_append, introduced_interfaceSubjects, inductionHypothesis]
    rfl

/-- An interface of a runtime module is shown as one object, and has no heading. -/
@[simp] theorem introduced_objectSubjects (accepts : Declaration → Bool) :
    introduced (Section.interfaceGroupSubjects unit accepts true) = [] :=
  introduced_flatMap fun _ => introduced_map_field _

/-! ## Pages -/

@[simp] theorem introduced_moduleSubjects (rules : SdkRules) (s : DocUnit) :
    introduced (moduleSubjects rules s) = [] := by
  unfold moduleSubjects
  split <;> simp

@[simp] theorem introduced_runtimeSubjects (rules : SdkRules) (module? : Option DocUnit) :
    introduced (runtimeSubjects rules module?) = [] := by
  cases module? with
  | none => rfl
  | some s =>
    rw [runtimeSubjects]
    split <;> simp

@[simp] theorem introduced_sdkSubjects (rules : SdkRules) (module? : Option DocUnit) :
    introduced (sdkSubjects rules unit module?) = [] := by
  unfold sdkSubjects
  dsimp only
  split
  · rfl
  · simp [Section.linkSubjects, Section.bindingSubjects]

theorem introduced_configSubjects : introduced (configSubjects unit) =
    unit.visibleInterfaces.filter (fun i => i.name = .text "Config") ++
      unit.visibleInterfaces.filter fun i => !decide (i.name = .text "Config") := by
  simp [configSubjects, interfacesInOrderSubjects]

theorem introduced_helperSubjects : introduced (helperSubjects unit) = unit.visibleInterfaces := by
  simp [helperSubjects]

theorem introduced_componentSubjects {cls : Declaration} {module? : Option DocUnit}
    (isClass : unit.requiredClass = .ok cls) (isModule : sdkOf? sdk unit = .ok module?) :
    introduced (componentSubjects config sdk unit) =
      unit.visibleInterfaces.filter (fun i => i.name = .text (cls.name.display ++ "Args")) ++
        unit.visibleInterfaces.filter fun i => !decide (i.name = .text (cls.name.display ++ "Args"))
    := by
  simp [componentSubjects, isClass, isModule]

/-- The headings of a page, except for the global one, are those of the visible interfaces. -/
theorem perm_introduced_subjectsOf {page : Page}
    (built : ofUnit? config sdk units unit = .ok (some page))
    (notGlobal : ¬ unit.RoutedTo config .global) :
    (introduced (subjectsOf config sdk units unit)).Perm unit.visibleInterfaces := by
  obtain ⟨family, routed, builtBy⟩ := exists_builtBy_of_ofUnit? built
  have ⟨source, isSource, isFamily⟩ := routed
  rw [subjectsOf, isSource]
  dsimp only
  rw [isFamily]
  cases builtBy with
  | global => exact absurd routed notGlobal
  -- the configuration, like a component below, puts its own interface first and loses none by that
  | config =>
    rw [introduced_configSubjects]
    exact List.filter_append_perm _ _
  | dns | linkable =>
    rw [introduced_helperSubjects]
  | component ofComponent =>
    obtain ⟨parts, ofParts, -⟩ := exists_of_ofComponent ofComponent
    obtain ⟨cls, isClass, -⟩ := exists_of_bind_eq_ok ofParts
    obtain ⟨c, found, -⟩ := exists_of_bind_eq_ok isClass
    obtain ⟨module?, isModule, -⟩ := (documents_of_partsOf found ofParts).runtime
    rw [introduced_componentSubjects isClass isModule]
    exact List.filter_append_perm _ _

/-! ## Destinations of links -/

/-- A page that has a section with the name of an interface as its heading, to which a link with an
anchor leads. -/
def HasInterface (subjects : List Subject) (page : Page) (anchor : String) : Prop :=
  ∃ i s, (Subject.interface i, s) ∈ subjects.zip page.sections ∧
    s.level = 2 ∧ s.title = i.name.display ∧ Text.lower i.name.display = anchor

theorem hasInterface_iff {subjects : List Subject} {page : Page} {anchor : String}
    (described : List.Forall₂ Subject.Describes subjects page.sections) :
    HasInterface subjects page anchor ↔
      ∃ i ∈ introduced subjects, Text.lower i.name.display = anchor := by
  obtain ⟨sameLength, describes⟩ := List.forall₂_iff_zip.mp described
  constructor
  · rintro ⟨i, s, member, -, -, isAnchor⟩
    exact ⟨i, mem_introduced_iff.mpr (List.of_mem_zip member).1, isAnchor⟩
  · rintro ⟨i, isHeaded, isAnchor⟩
    have member := mem_introduced_iff.mp isHeaded
    have inPairs : Subject.interface i ∈ (subjects.zip page.sections).map Prod.fst := by
      rw [List.map_fst_zip (Nat.le_of_eq sameLength)]
      exact member
    obtain ⟨⟨subject, s⟩, paired, rfl⟩ := List.mem_map.mp inPairs
    have isHeading := describes paired
    exact ⟨i, s, paired, isHeading.level_eq, isHeading.title_eq, isAnchor⟩

theorem hasInterface_iff_visible {page : Page} {anchor : String}
    (built : ofUnit? config sdk units unit = .ok (some page))
    (notGlobal : ¬ unit.RoutedTo config .global) :
    HasInterface (subjectsOf config sdk units unit) page anchor ↔
      ∃ i ∈ unit.visibleInterfaces, Text.lower i.name.display = anchor := by
  rw [hasInterface_iff (describes_ofUnit? built)]
  have same := fun i => (perm_introduced_subjectsOf built notGlobal).mem_iff (a := i)
  simp only [same]

/-- Each page of a run but the global one has a destination for a link to an interface of the same
page if and only if an interface of that name is not hidden. -/
theorem samePage_link_has_interface_iff {only : Option String} {pages : List Page} {page : Page}
    (built : buildAll config sdk units only = .ok pages) (member : page ∈ pages) :
    ∃ unit ∈ units, ofUnit? config sdk units unit = .ok (some page) ∧
      List.Forall₂ Subject.Describes (subjectsOf config sdk units unit) page.sections ∧
      (¬ unit.RoutedTo config .global → ∀ ref anchor label,
        Link.resolve unit ref = .ok (.samePage (some anchor) label) →
          (∃ i ∈ unit.interfaces, i.name = ref.name ∧ Text.lower i.name.display = anchor) ∧
          (HasInterface (subjectsOf config sdk units unit) page anchor ↔
            ∃ i ∈ unit.visibleInterfaces, Text.lower i.name.display = anchor)) := by
  obtain ⟨unit, isUnit, ofUnit⟩ := exists_of_mem_buildAll built member
  refine ⟨unit, isUnit, ofUnit, describes_ofUnit? ofUnit, ?_⟩
  intro notGlobal ref anchor label leads
  refine ⟨?_, hasInterface_iff_visible ofUnit notGlobal⟩
  obtain ⟨-, named, -⟩ := (Link.resolve_eq_samePage_iff unit ref (some anchor) label).mp leads
  cases named with
  | ofInterface _ named isText =>
    obtain ⟨i, found⟩ := Option.isSome_iff_exists.mp named
    have sameName : i.name = ref.name := by simpa using List.find?_some found
    refine ⟨i, List.mem_of_find?_eq_some found, sameName, ?_⟩
    rw [sameName, isText]
    rfl

/-! ## A link that leads nowhere -/

/-- A reference to an interface that is declared with a linkable helper. -/
def helperReference (name : String) : Reference where
  name := .text name
  package := none
  qualifiedName := none
  arguments := []
  target := some ⟨some (.text "platform/src/components/aws/permission.ts")⟩

/-- A linkable helper with an interface that is shown and one that is internal. The property `rule`
of the first one is of the type of the second. -/
def helperUnit : DocUnit where
  name := .text "components/aws/permission"
  declarations :=
    [.bare "PermissionArgs" .interfaceDecl none
      [.bare "rule" .propertyDecl (some (.reference (helperReference "Filter"))) []],
     { Declaration.bare "Filter" .interfaceDecl none [.url] with
       comment := some ⟨[], [], TagSet.ofList ["@internal"]⟩ }]
  sourcePath := some (.text "platform/src/components/aws/permission.ts")
  comment := some ⟨[], [], TagSet.empty⟩

theorem routedTo_helperUnit : helperUnit.RoutedTo .standard .linkable := ⟨_, rfl, by decide⟩

theorem resolve_helperReference :
    Link.resolve helperUnit (helperReference "PermissionArgs") =
        .ok (.samePage (some "permissionargs") none) ∧
      Link.resolve helperUnit (helperReference "Filter") = .ok (.samePage (some "filter") none) :=
  ⟨rfl, rfl⟩

theorem helper_page_sections :
    (buildAll .standard [] [helperUnit] none).map
        (List.map fun p => p.sections.map fun s => (s.title, s.body)) =
      .ok [[("", ["", "<Section type=\"about\">", "", "</Section>", "", "---"]),
        ("PermissionArgs", []),
        ("rule", ["<Segment>", "<Section type=\"parameters\">", "<InlineSection>",
          "**Type** [<code class=\"type\">Filter</code>](#filter)", "</InlineSection>",
          "</Section>", "", "</Segment>"])]] :=
  eq_ok_of_toOption_eq_some (by decide +kernel)

theorem exists_helper_page : ∃ page s, buildAll .standard [] [helperUnit] none = .ok [page] ∧
    s ∈ page.sections ∧ "**Type** [<code class=\"type\">Filter</code>](#filter)" ∈ s.body := by
  obtain ⟨pages, built, isPages⟩ := exists_of_map_eq_ok helper_page_sections
  obtain ⟨page, rfl, isPage⟩ := List.map_eq_singleton_iff.mp isPages
  obtain ⟨first, others, isAbout, -, isOthers⟩ := List.map_eq_cons_iff.mp isPage
  obtain ⟨heading, rest, rfl, -, isRest⟩ := List.map_eq_cons_iff.mp isOthers
  obtain ⟨s, rfl, isRule⟩ := List.map_eq_singleton_iff.mp isRest
  refine ⟨page, s, built, by simp [isAbout], ?_⟩
  rw [(Prod.mk.inj isRule).2]
  decide

theorem notGlobal_helperUnit : ¬ helperUnit.RoutedTo .standard .global := by
  intro isGlobal
  cases routedTo_helperUnit.unique isGlobal

theorem ofUnit?_of_helper_page {page : Page}
    (built : buildAll .standard [] [helperUnit] none = .ok [page]) :
    ofUnit? .standard [] [helperUnit] helperUnit = .ok (some page) := by
  obtain ⟨unit, isUnit, ofUnit⟩ := exists_of_mem_buildAll built List.mem_cons_self
  cases List.mem_singleton.mp isUnit
  exact ofUnit

/-- On the page of the helper the link to the first interface has a destination. -/
theorem samePage_link_has_interface_iff_helper : ∃ page,
    buildAll .standard [] [helperUnit] none = .ok [page] ∧
    Link.resolve helperUnit (helperReference "PermissionArgs") =
      .ok (.samePage (some "permissionargs") none) ∧
    HasInterface (subjectsOf .standard [] [helperUnit] helperUnit) page "permissionargs" := by
  obtain ⟨page, -, built, -⟩ := exists_helper_page
  obtain ⟨unit, isUnit, -, -, links⟩ := samePage_link_has_interface_iff built List.mem_cons_self
  cases List.mem_singleton.mp isUnit
  obtain ⟨-, destination⟩ := links notGlobal_helperUnit _ _ _ resolve_helperReference.1
  refine ⟨page, built, resolve_helperReference.1, destination.mpr ?_⟩
  exact ⟨_, List.mem_cons_self, by decide⟩

/-- The page of the helper shows the link to the second interface, and has no section for it. -/
theorem hidden_interface_link_leads_nowhere : ∃ page s,
    buildAll .standard [] [helperUnit] none = .ok [page] ∧ helperUnit.RoutedTo .standard .linkable ∧
    s ∈ page.sections ∧ "**Type** [<code class=\"type\">Filter</code>](#filter)" ∈ s.body ∧
    Link.resolve helperUnit (helperReference "Filter") = .ok (.samePage (some "filter") none) ∧
    ¬ HasInterface (subjectsOf .standard [] [helperUnit] helperUnit) page "filter" := by
  obtain ⟨page, s, built, isSection, isLine⟩ := exists_helper_page
  refine ⟨page, s, built, routedTo_helperUnit, isSection, isLine, resolve_helperReference.2, ?_⟩
  rw [hasInterface_iff_visible (ofUnit?_of_helper_page built) notGlobal_helperUnit]
  rintro ⟨i, visible, isAnchor⟩
  cases List.mem_singleton.mp visible
  exact absurd isAnchor (by decide)

end Page

end DocPress
