import DocPress.Proofs.PageAnchors
import DocPress.Proofs.SectionLists
import DocPress.Proofs.Subjects

/-! # What pages are about

The sections of the page of a unit are about declarations that can be told from the unit, the
configuration and the runtime modules, before the page is compiled.

* `Page.subjectsOf`: what the sections of the page of a unit are about, by the family of the page.
* `Page.describes_ofUnit?`: there is one section on each subject, in order. -/

set_option autoImplicit false

namespace DocPress

open Section (Outlines)

/-- A unit whose page is of some family. -/
def DocUnit.RoutedTo (config : SiteConfig) (family : PageFamily) (u : DocUnit) : Prop :=
  ∃ source, u.requiredSource = .ok source ∧ config.routing.familyOf source = family

theorem DocUnit.RoutedTo.unique {config : SiteConfig} {family family' : PageFamily} {u : DocUnit}
    (first : u.RoutedTo config family) (second : u.RoutedTo config family') :
    family = family' := by
  obtain ⟨source, isSource, rfl⟩ := first
  obtain ⟨source', isSource', rfl⟩ := second
  cases isSource.symm.trans isSource'
  rfl

theorem Section.Outlines.describes {c : Compile (List Section)} {subjects : List Subject}
    {sections : List Section} (outlines : Outlines c subjects) (gives : c.CanGive sections) :
    List.Forall₂ Subject.Describes subjects sections := by
  obtain ⟨registry, final, compiled⟩ := gives
  exact outlines registry sections final compiled

namespace Page

variable {config : SiteConfig} {sdk units : List DocUnit} {unit : DocUnit}

/-- How the page of a unit is built by the family that the unit is routed to. -/
inductive BuiltBy (config : SiteConfig) (sdk units : List DocUnit) (unit : DocUnit) :
    PageFamily → Page → Prop
  | global {page : Page} (ofGlobal : Page.ofGlobal config units unit = .ok page) :
      BuiltBy config sdk units unit .global page
  | config {page : Page} (ofConfig : Page.ofConfig unit = .ok page) :
      BuiltBy config sdk units unit .config page
  | dns {page : Page} (ofDns : Page.ofDns config unit = .ok page) :
      BuiltBy config sdk units unit .dns page
  | linkable {page : Page} (ofLinkable : Page.ofLinkable config unit = .ok page) :
      BuiltBy config sdk units unit .linkable page
  | component {page : Page} (ofComponent : Page.ofComponent config sdk unit = .ok page) :
      BuiltBy config sdk units unit .component page

theorem exists_builtBy_of_ofUnit? {page : Page}
    (built : ofUnit? config sdk units unit = .ok (some page)) :
    ∃ family, unit.RoutedTo config family ∧ BuiltBy config sdk units unit family page := by
  obtain ⟨source, isSource, built⟩ := exists_of_bind_eq_ok built
  refine ⟨_, ⟨source, isSource, rfl⟩, ?_⟩
  generalize config.routing.familyOf source = family at built ⊢
  cases family with
  | skip => cases built
  | global =>
    obtain ⟨page, ofGlobal, built⟩ := exists_of_bind_eq_ok built
    cases built
    exact .global ofGlobal
  | config =>
    obtain ⟨page, ofConfig, built⟩ := exists_of_bind_eq_ok built
    cases built
    exact .config ofConfig
  | dns =>
    obtain ⟨page, ofDns, built⟩ := exists_of_bind_eq_ok built
    cases built
    exact .dns ofDns
  | linkable =>
    obtain ⟨page, ofLinkable, built⟩ := exists_of_bind_eq_ok built
    cases built
    exact .linkable ofLinkable
  | component =>
    obtain ⟨page, ofComponent, built⟩ := exists_of_bind_eq_ok built
    cases built
    exact .component ofComponent

theorem describes_of_fresh {c : Compile (List Section)} {subjects : List Subject}
    {sections : List Section} (outlines : Outlines c subjects) (built : c.fresh = .ok sections) :
    List.Forall₂ Subject.Describes subjects sections :=
  outlines Anchors.empty sections (c.run Anchors.empty).2 (Prod.ext built rfl)

/-! ## Pages without a class -/

/-- What the further functions of the global page are about, taken from other units. -/
def extraSubjects (units : List DocUnit) : List (String × String) → List Subject
  | [] => []
  | (title, ending) :: es =>
    match units.find? fun u =>
        Routing.hasEnding (u.sourcePath.getD (.text "")).display ending with
    | none => []
    | some u => Section.functionGroupSubjects u.functions (some title) ++ extraSubjects units es

theorem describes_extraFunctions {es : List (String × String)} {sections : List Section}
    (built : extraFunctions unit units es = .ok sections) :
    List.Forall₂ Subject.Describes (extraSubjects units es) sections := by
  induction es generalizing sections with
  | nil =>
    cases built
    exact .nil
  | cons e es inductionHypothesis =>
    obtain ⟨title, ending⟩ := e
    unfold extraFunctions at built
    split at built
    · cases built
    · rename_i u found
      obtain ⟨first, ofFirst, built⟩ := exists_of_bind_eq_ok built
      obtain ⟨rest, ofRest, built⟩ := exists_of_bind_eq_ok built
      cases built
      simp only [extraSubjects, found]
      exact List.rel_append (Section.describes_functionGroup ofFirst) (inductionHypothesis ofRest)

def globalSubjects (config : SiteConfig) (units : List DocUnit) (unit : DocUnit) : List Subject :=
  .text "" 0 :: Section.variableGroupSubjects unit (some "Variables") ++
    Section.functionGroupSubjects unit.functions (some "Functions") ++
    extraSubjects units config.routing.extraFunctions

theorem describes_ofGlobal {page : Page} (built : ofGlobal config units unit = .ok page) :
    List.Forall₂ Subject.Describes (globalSubjects config units unit) page.sections := by
  obtain ⟨comment, -, built⟩ := exists_of_bind_eq_ok built
  obtain ⟨about, introduced, built⟩ := exists_of_bind_eq_ok built
  obtain ⟨vars, ofVars, built⟩ := exists_of_bind_eq_ok built
  obtain ⟨functions, ofFunctions, built⟩ := exists_of_bind_eq_ok built
  obtain ⟨extra, ofExtra, built⟩ := exists_of_bind_eq_ok built
  obtain ⟨source, -, built⟩ := exists_of_bind_eq_ok built
  cases built
  refine List.rel_append (List.rel_append (List.rel_append (Section.describes_about introduced) ?_)
    ?_) (describes_extraFunctions ofExtra)
  · exact describes_of_fresh (Section.outlines_variableGroup _) ofVars
  · exact Section.describes_functionGroup ofFunctions

def interfacesInOrderSubjects (unit : DocUnit) (accepts : Declaration → Bool) : List Subject :=
  Section.interfaceGroupSubjects unit accepts false ++
    Section.interfaceGroupSubjects unit (fun i => !accepts i) false

theorem outlines_interfacesInOrder (accepts : Declaration → Bool) :
    Outlines (interfacesInOrder unit accepts) (interfacesInOrderSubjects unit accepts) :=
  (Section.outlines_interfaceGroup accepts false).append
    (Section.outlines_interfaceGroup (fun i => !accepts i) false)

def configSubjects (unit : DocUnit) : List Subject :=
  .text "" 0 :: interfacesInOrderSubjects unit fun i => i.name = .text "Config"

theorem describes_ofConfig {page : Page} (built : ofConfig unit = .ok page) :
    List.Forall₂ Subject.Describes (configSubjects unit) page.sections := by
  obtain ⟨comment, -, built⟩ := exists_of_bind_eq_ok built
  obtain ⟨about, introduced, built⟩ := exists_of_bind_eq_ok built
  obtain ⟨interfaces, ofInterfaces, built⟩ := exists_of_bind_eq_ok built
  obtain ⟨source, -, built⟩ := exists_of_bind_eq_ok built
  cases built
  exact List.rel_append (Section.describes_about introduced)
    (describes_of_fresh (outlines_interfacesInOrder _) ofInterfaces)

def helperSubjects (unit : DocUnit) : List Subject :=
  .text "" 0 :: Section.functionGroupSubjects unit.functions (some "Functions") ++
    Section.interfaceGroupSubjects unit (fun _ => true) false

theorem describes_helperSections {sections : List Section}
    (built : helperSections unit = .ok sections) :
    List.Forall₂ Subject.Describes (helperSubjects unit) sections := by
  obtain ⟨comment, -, built⟩ := exists_of_bind_eq_ok built
  obtain ⟨about, introduced, built⟩ := exists_of_bind_eq_ok built
  obtain ⟨functions, ofFunctions, built⟩ := exists_of_bind_eq_ok built
  obtain ⟨interfaces, ofInterfaces, built⟩ := exists_of_bind_eq_ok built
  cases built
  exact List.rel_append (List.rel_append (Section.describes_about introduced)
    (Section.describes_functionGroup ofFunctions))
    (describes_of_fresh (Section.outlines_interfaceGroup _ _) ofInterfaces)

/-! ## Pages of components -/

def moduleSubjects (rules : SdkRules) (s : DocUnit) : List Subject :=
  (if s.name.isIn rules.withVariables then Section.variableGroupSubjects s none else []) ++
    Section.functionGroupSubjects s.functions none ++
    Section.interfaceGroupSubjects s (fun _ => true) true

theorem outlines_moduleVariables (rules : SdkRules) (s : DocUnit) :
    Outlines (moduleVariables rules s)
      (if s.name.isIn rules.withVariables then Section.variableGroupSubjects s none else []) := by
  unfold moduleVariables
  split
  · exact Section.outlines_variableGroup none
  · exact .nil

theorem outlines_moduleGroups (rules : SdkRules) (s : DocUnit) :
    Outlines (moduleGroups rules s) (moduleSubjects rules s) := by
  intro registry sections final compiled
  obtain ⟨vars, afterVars, ofVars, compiled⟩ := Compile.exists_of_run_bind compiled
  obtain ⟨functions, ofFunctions, compiled⟩ := Compile.exists_of_run_lift_bind compiled
  obtain ⟨interfaces, last, ofInterfaces, compiled⟩ := Compile.exists_of_run_bind compiled
  cases compiled
  exact List.rel_append (List.rel_append (outlines_moduleVariables rules s _ _ _ ofVars)
    (Section.describes_functionGroup ofFunctions))
    (Section.outlines_interfaceGroup _ _ _ _ _ ofInterfaces)

def runtimeSubjects (rules : SdkRules) : Option DocUnit → List Subject
  | none => []
  | some s =>
    (if s.name.isIn rules.introduced then [.text "" 0] else []) ++ moduleSubjects rules s

theorem describes_runtimeSections {rules : SdkRules} {module? : Option DocUnit}
    {sections : List Section} (built : runtimeSections rules module? = .ok sections) :
    List.Forall₂ Subject.Describes (runtimeSubjects rules module?) sections := by
  cases module? with
  | none =>
    cases built
    exact .nil
  | some s =>
    obtain ⟨intro, introduced, built⟩ := exists_of_bind_eq_ok built
    obtain ⟨groups, ofGroups, built⟩ := exists_of_bind_eq_ok built
    cases built
    refine List.rel_append ?_ (describes_of_fresh (outlines_moduleGroups rules s) ofGroups)
    unfold moduleIntro at introduced
    split at introduced
    · rename_i isIntroduced
      obtain ⟨comment, -, introduced⟩ := exists_of_bind_eq_ok introduced
      rw [if_pos isIntroduced]
      exact Section.describes_about introduced
    · rename_i notIntroduced
      cases introduced
      rw [if_neg notIntroduced]
      exact .nil

/-- What the group on the runtime use of a component is about: nothing, or what follows its
heading. -/
def sdkSubjects (rules : SdkRules) (unit : DocUnit) (module? : Option DocUnit) : List Subject :=
  let subjects :=
    Section.linkSubjects unit ++ Section.bindingSubjects unit ++ runtimeSubjects rules module?
  if subjects.isEmpty then [] else .text "SDK" 2 :: subjects

theorem describes_sdkSections {rules : SdkRules} {module? : Option DocUnit}
    {sections : List Section} (built : sdkSections rules unit module? = .ok sections) :
    List.Forall₂ Subject.Describes (sdkSubjects rules unit module?) sections := by
  obtain ⟨links, ofLinks, built⟩ := exists_of_bind_eq_ok built
  obtain ⟨bindings, ofBindings, built⟩ := exists_of_bind_eq_ok built
  obtain ⟨runtime, ofRuntime, built⟩ := exists_of_bind_eq_ok built
  have described : List.Forall₂ Subject.Describes
      (Section.linkSubjects unit ++ Section.bindingSubjects unit ++ runtimeSubjects rules module?)
      (links ++ bindings ++ runtime) :=
    List.rel_append (List.rel_append (Section.describes_links ofLinks)
      (Section.describes_bindings ofBindings)) (describes_runtimeSections ofRuntime)
  unfold sdkSubjects
  dsimp only at built ⊢
  -- the group has a heading where it has sections, which is where it is about something
  generalize links ++ bindings ++ runtime = grouped at built described
  generalize Section.linkSubjects unit ++ Section.bindingSubjects unit ++
    runtimeSubjects rules module? = subjects at described ⊢
  cases described with
  | nil =>
    cases built
    exact .nil
  | cons first rest =>
    cases built
    exact .cons (Section.describes_text rfl rfl) (.cons first rest)

/-- What the parts of the page of a component whose class is `cls` are compiled from. -/
structure ComponentParts.Compiled (config : SiteConfig) (sdk : List DocUnit) (unit : DocUnit)
    (cls : Declaration) (p : ComponentParts) : Prop where
  about : ∃ comment, unit.requiredClassComment = .ok comment ∧ Section.about comment = .ok p.about
  constructor : ∃ mark own, unit.versionMark = .ok mark ∧
    Section.constructorSection unit = .ok own ∧
    p.constructor = own.map (withVersion cls.name.display mark)
  arguments : (Section.interfaceGroup unit
    (fun i => i.name = .text (cls.name.display ++ "Args")) false).CanGive p.arguments
  properties : (Section.properties unit).CanGive p.properties
  runtime : ∃ module?, sdkOf? sdk unit = .ok module? ∧
    sdkSections config.sdkRules unit module? = .ok p.runtime
  methods : Section.methods unit config.builderMethods = .ok p.methods
  interfaces : (Section.interfaceGroup unit
    (fun i => i.name ≠ .text (cls.name.display ++ "Args")) false).CanGive p.interfaces

theorem exists_compiled_of_partsOf {parts : ComponentParts}
    (built : partsOf config sdk unit = .ok parts) :
    ∃ cls, unit.requiredClass = .ok cls ∧ parts.Compiled config sdk unit cls := by
  obtain ⟨cls, isClass, built⟩ := exists_of_bind_eq_ok built
  obtain ⟨mark, isMark, built⟩ := exists_of_bind_eq_ok built
  obtain ⟨comment, isComment, built⟩ := exists_of_bind_eq_ok built
  obtain ⟨constructor, ofConstructor, built⟩ := exists_of_bind_eq_ok built
  have gives := Compile.CanGive.of_fresh built
  obtain ⟨about, introduced, gives⟩ := gives.exists_of_lift_bind
  obtain ⟨arguments, ofArguments, gives⟩ := gives.exists_of_bind
  obtain ⟨properties, ofProperties, gives⟩ := gives.exists_of_bind
  obtain ⟨module?, named, gives⟩ := gives.exists_of_lift_bind
  obtain ⟨runtime, ofRuntime, gives⟩ := gives.exists_of_lift_bind
  obtain ⟨methods, ofMethods, gives⟩ := gives.exists_of_lift_bind
  obtain ⟨interfaces, ofInterfaces, gives⟩ := gives.exists_of_bind
  cases Compile.canGive_pure_iff.mp gives
  exact ⟨cls, isClass, ⟨comment, isComment, introduced⟩, ⟨mark, _, isMark, ofConstructor, rfl⟩,
    ofArguments, ofProperties, ⟨module?, named, ofRuntime⟩, ofMethods, ofInterfaces⟩

def componentSubjects (config : SiteConfig) (sdk : List DocUnit) (unit : DocUnit) : List Subject :=
  match unit.requiredClass, sdkOf? sdk unit with
  | .ok cls, .ok module? =>
    let argsName := cls.name.display ++ "Args"
    [.text "" 0] ++ [.text "Constructor" 2] ++
      Section.interfaceGroupSubjects unit (fun i => i.name = .text argsName) false ++
      Section.propertySubjects unit ++ sdkSubjects config.sdkRules unit module? ++
      Section.methodSubjects unit config.builderMethods ++
      Section.interfaceGroupSubjects unit (fun i => i.name ≠ .text argsName) false
  | _, _ => []

theorem describes_map_withVersion {className version title : String} {level : Int}
    {sections : List Section}
    (described : List.Forall₂ Subject.Describes [.text title level] sections) :
    List.Forall₂ Subject.Describes [.text title level]
      (sections.map (withVersion className version)) := by
  obtain ⟨s, rest, first, none, rfl⟩ := List.forall₂_cons_left_iff.mp described
  cases none
  exact .cons (Section.describes_text first.title_eq first.level_eq) .nil

theorem describes_partsOf {parts : ComponentParts} (built : partsOf config sdk unit = .ok parts) :
    List.Forall₂ Subject.Describes (componentSubjects config sdk unit) parts.sections := by
  obtain ⟨cls, isClass, compiled⟩ := exists_compiled_of_partsOf built
  obtain ⟨comment, -, introduced⟩ := compiled.about
  obtain ⟨mark, own, -, ofConstructor, isConstructor⟩ := compiled.constructor
  obtain ⟨module?, named, ofRuntime⟩ := compiled.runtime
  rw [componentSubjects, isClass, named, ComponentParts.sections, isConstructor]
  refine List.rel_append (List.rel_append (List.rel_append (List.rel_append (List.rel_append
    (List.rel_append ?_ ?_) ?_) ?_) ?_) ?_) ?_
  · exact Section.describes_about introduced
  · exact describes_map_withVersion (Section.describes_constructorSection ofConstructor)
  · exact (Section.outlines_interfaceGroup _ _).describes compiled.arguments
  · exact Section.outlines_properties.describes compiled.properties
  · exact describes_sdkSections ofRuntime
  · exact Section.describes_methods compiled.methods
  · exact (Section.outlines_interfaceGroup _ _).describes compiled.interfaces

/-! ## All pages -/

/-- What the page of a unit is about, by its family. -/
def subjectsOf (config : SiteConfig) (sdk units : List DocUnit) (unit : DocUnit) : List Subject :=
  match unit.requiredSource with
  | .error _ => []
  | .ok source =>
    match config.routing.familyOf source with
    | .skip => []
    | .global => globalSubjects config units unit
    | .config => configSubjects unit
    | .dns | .linkable => helperSubjects unit
    | .component => componentSubjects config sdk unit

/-- The page of a unit has one section on each of its subjects, in order. -/
theorem describes_ofUnit? {page : Page} (built : ofUnit? config sdk units unit = .ok (some page)) :
    List.Forall₂ Subject.Describes (subjectsOf config sdk units unit) page.sections := by
  obtain ⟨family, ⟨source, isSource, isFamily⟩, builtBy⟩ := exists_builtBy_of_ofUnit? built
  rw [subjectsOf, isSource]
  dsimp only
  rw [isFamily]
  cases builtBy with
  | global ofGlobal => exact describes_ofGlobal ofGlobal
  | config ofConfig => exact describes_ofConfig ofConfig
  | dns ofDns => exact describes_helperSections (helperSections_of_ofDns ofDns)
  | linkable ofLinkable => exact describes_helperSections (helperSections_of_ofLinkable ofLinkable)
  | component ofComponent =>
    obtain ⟨parts, ofParts, sameSections⟩ := exists_of_ofComponent ofComponent
    rw [sameSections]
    exact describes_partsOf ofParts

theorem exists_of_mem_buildFrom {us : List DocUnit} {pages : List Page}
    (built : buildFrom config sdk units us = .ok pages) {page : Page} (member : page ∈ pages) :
    ∃ unit ∈ us, ofUnit? config sdk units unit = .ok (some page) := by
  induction us generalizing pages with
  | nil =>
    cases built
    contradiction
  | cons u us inductionHypothesis =>
    obtain ⟨first, ofFirst, built⟩ := exists_of_bind_eq_ok built
    obtain ⟨rest, ofRest, built⟩ := exists_of_bind_eq_ok built
    cases built
    rcases List.mem_append.mp member with isFirst | isOther
    · cases first with
      | none => contradiction
      | some page' =>
        cases List.mem_singleton.mp isFirst
        exact ⟨u, List.mem_cons_self, ofFirst⟩
    · obtain ⟨unit, isUnit, ofUnit⟩ := inductionHypothesis ofRest isOther
      exact ⟨unit, List.mem_cons_of_mem u isUnit, ofUnit⟩

/-- Each page of a run is the page of one of the units. -/
theorem exists_of_mem_buildAll {only : Option String} {pages : List Page}
    (built : buildAll config sdk units only = .ok pages) {page : Page} (member : page ∈ pages) :
    ∃ unit ∈ units, ofUnit? config sdk units unit = .ok (some page) := by
  obtain ⟨unit, isUnit, ofUnit⟩ := exists_of_mem_buildFrom built member
  cases only with
  | none => exact ⟨unit, isUnit, ofUnit⟩
  | some name => exact ⟨unit, List.mem_of_mem_filter isUnit, ofUnit⟩

end Page

end DocPress
