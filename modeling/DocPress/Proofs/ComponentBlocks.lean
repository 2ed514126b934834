import DocPress.Proofs.PageSubjects
import DocPress.Proofs.SectionLists

/-! # The blocks of the page of a component

The page of a component falls into blocks, each a section on one declaration and the deeper sections
below it. There is one block for each property and each method of the class that others may use, and
one for each interface that is not hidden, and there are no others.

* `Section.InBlocks`, `Section.IsGroup`: sections that fall into blocks, one for each of some
  declarations, without a heading and with one.
* `Page.ComponentParts.Documents`: the blocks of each part of the page of a component.
* `Page.component_blocks`: every page of a component has them. -/

set_option autoImplicit false

namespace DocPress

/-! ## What is documented of a class -/

namespace Declaration

/-- Whether a member of a class is a public accessor with a getter that its comment does not
hide. -/
def isPublicProperty (d : Declaration) : Bool :=
  d.kind = .accessorDecl && d.modifiers.isPublic
    && d.getter.any fun s => !s.comment.any DocComment.hides

/-- Whether a member of a class is a method that is neither external, private nor protected, with a
first signature that its comment does not hide. -/
def isOpenMethod (d : Declaration) : Bool :=
  d.kind = .methodDecl && !d.modifiers.isExternal && !d.modifiers.isPrivate
    && !d.modifiers.isProtected && d.signatures.head?.any fun s => !s.comment.any DocComment.hides

/-- The names of the methods of a class that come before all others. -/
def builderNames (cls : Declaration) (builders : Section.BuilderMethods) : List String :=
  (cls.name.text?.bind fun name => builders.lookup name).getD []

/-- The open methods of a class in the order in which they are shown: those of the names that come
first, then the others. -/
def methodsInOrder (cls : Declaration) (builders : Section.BuilderMethods) : List Declaration :=
  let methods := cls.children.filter isOpenMethod
  methods.filter (fun m => m.name.isIn (cls.builderNames builders))
    ++ methods.filter fun m => !m.name.isIn (cls.builderNames builders)

/-- Whether an interface is that of the arguments of a class, by its name. -/
def isArgumentsOf (cls i : Declaration) : Bool := i.name = .text (cls.name.display ++ "Args")

end Declaration

def DocUnit.visibleInterfaces (u : DocUnit) : List Declaration :=
  u.interfaces.filter fun i => !i.isHidden

namespace Section

variable {α : Type} {unit : DocUnit}

/-! ## Blocks -/

/-- A section of a title and a level, and below it only deeper sections. -/
inductive IsBlock (title : String) (level : Int) : List Section → Prop
  | intro {head : Section} {below : List Section} (title_eq : head.title = title)
      (level_eq : head.level = level) (deeper : ∀ s ∈ below, level < s.level) :
      IsBlock title level (head :: below)

/-- Sections that fall into blocks, one for each of some items, in order. -/
def InBlocks (items : List α) (isBlockOf : α → List Section → Prop) (sections : List Section) :
    Prop := ∃ blocks, sections = blocks.flatten ∧ List.Forall₂ isBlockOf items blocks

/-- The blocks of some items under a heading, or nothing if there are no items. -/
def IsGroup (title : String) (items : List α) (isBlockOf : α → List Section → Prop)
    (sections : List Section) : Prop :=
  (items = [] ∧ sections = []) ∨
    (items ≠ [] ∧ ∃ blocks, sections = headingOnly title 2 :: blocks ∧
      InBlocks items isBlockOf blocks)

/-- The block of a property: its section and those of the fields nested in the type of its
getter. -/
def IsPropertyBlock (unit : DocUnit) (g : Declaration) (block : List Section) : Prop :=
  IsBlock g.displayName 3 block ∧
    ∃ place s, g.getter = some s ∧ (ofGetter unit place g s).CanGive block

/-- The block of a method, which is a single section. -/
def IsMethodBlock (unit : DocUnit) (m : Declaration) (block : List Section) : Prop :=
  (∃ s, block = [s] ∧ s.title = methodTitle m ∧ s.level = 3) ∧
    ofMethod unit m (methodTitle m) 3 none none "#### Parameters" = .ok block

/-- The block of an interface: its section and those of its members. -/
def IsInterfaceBlock (unit : DocUnit) (i : Declaration) (block : List Section) : Prop :=
  IsBlock i.name.display 2 block ∧ ∃ place, (ofInterface unit place i).CanGive block

theorem isBlock_of_describes {subject : Subject} {below : List Subject} {block : List Section}
    (described : List.Forall₂ Subject.Describes (subject :: below) block)
    (deeper : ∀ other ∈ below, subject.level < other.level) :
    IsBlock subject.title subject.level block := by
  cases described with
  | cons first others =>
    refine .intro first.title_eq first.level_eq fun s member => ?_
    have isLevel := List.mem_map_of_mem (f := Section.level) member
    rw [Subject.map_level_of_describes others] at isLevel
    obtain ⟨other, isOther, level_eq⟩ := List.mem_map.mp isLevel
    rw [← level_eq]
    exact deeper other isOther

/-- Nested fields are deeper than what they are nested in. -/
theorem lt_level_of_mem_fields {fields : List FieldEntry} {subject : Subject}
    (member : subject ∈ fields.map Subject.field) : 3 < subject.level := by
  obtain ⟨e, -, rfl⟩ := List.mem_map.mp member
  show 3 < nestedLevel e.depth
  unfold nestedLevel
  split <;> decide

theorem lt_level_of_mem_memberSubjects {m : Place × Declaration} {subject : Subject}
    (member : subject ∈ memberSubjects m) : 2 < subject.level := by
  have atThree : (2 : Int) < 3 := by decide
  unfold memberSubjects at member
  split at member
  · contradiction
  · split at member
    · rcases List.mem_cons.mp member with rfl | isField
      · exact atThree
      · exact Int.lt_trans atThree (lt_level_of_mem_fields isField)
    · cases List.mem_singleton.mp member
      exact atThree
    · contradiction

/-! ## Interfaces -/

theorem isInterfaceBlock_of_ofInterface {i : Place × Declaration} {block : List Section}
    (gives : (ofInterface unit i.1 i.2).CanGive block) : IsInterfaceBlock unit i.2 block := by
  refine ⟨isBlock_of_describes ((outlines_ofInterface i).describes gives) ?_, i.1, gives⟩
  intro subject member
  obtain ⟨m, -, isMember⟩ := List.mem_flatMap.mp member
  exact lt_level_of_mem_memberSubjects isMember

theorem map_snd_shownInterfaces (accepts : Declaration → Bool) :
    (shownInterfaces unit accepts).map Prod.snd = unit.visibleInterfaces.filter accepts := by
  have declarations : unit.located.map Prod.snd = unit.declarations := map_snd_numbered [] _
  rw [DocUnit.visibleInterfaces, DocUnit.interfaces, DocUnit.ofKind, ← declarations,
    List.filter_map, List.filter_map, List.filter_map]
  simp only [shownInterfaces, DocUnit.locatedOfKind, List.filter_filter, Function.comp_def]
  refine congrArg _ (List.filter_congr fun i _ => ?_)
  rw [Bool.and_comm (!i.2.isHidden), Bool.and_assoc]

/-- The accepted interfaces have one block each. -/
theorem inBlocks_interfaceGroup {accepts : Declaration → Bool} {sections : List Section}
    (gives : (interfaceGroup unit accepts false).CanGive sections) :
    InBlocks (unit.visibleInterfaces.filter accepts) (IsInterfaceBlock unit) sections := by
  rw [interfaceGroup_eq_concat] at gives
  obtain ⟨blocks, rfl, compiled⟩ := Compile.exists_blocks_of_concat gives
  refine ⟨blocks, rfl, ?_⟩
  rw [← map_snd_shownInterfaces, List.forall₂_map_left_iff]
  exact compiled.imp fun i block => isInterfaceBlock_of_ofInterface

/-! ## Properties -/

theorem isBlock_of_ofGetter {g : Place × Declaration × CallSignature} {block : List Section}
    (gives : (ofGetter unit g.1 g.2.1 g.2.2).CanGive block) : IsBlock g.2.1.displayName 3 block :=
  isBlock_of_describes ((outlines_ofGetter g).describes gives) fun _ => lt_level_of_mem_fields

/-- The getters that are shown are those of the public properties, in order. -/
theorem map_shownGetters (members : List (Place × Declaration)) :
    (shownGetters (members.filter fun m =>
      m.2.kind = .accessorDecl && m.2.modifiers.isPublic)).map (fun g => g.2.1) =
      (members.map Prod.snd).filter Declaration.isPublicProperty := by
  induction members with
  | nil => rfl
  | cons m members inductionHypothesis =>
    rw [List.map_cons, List.filter_cons, List.filter_cons, ← inductionHypothesis]
    by_cases isAccessor : m.2.kind = .accessorDecl && m.2.modifiers.isPublic
    · rw [if_pos isAccessor, shownGetters, List.filterMap_cons, Declaration.isPublicProperty,
        isAccessor]
      cases signature : m.2.getter with
      | none => simp [signature, shownGetters]
      | some s => cases hidden : s.comment.any DocComment.hides <;>
          simp [signature, hidden, shownGetters]
    · simp [Declaration.isPublicProperty, isAccessor]

theorem isGroup_properties {c : Place × Declaration} (found : unit.locatedClass = .ok c)
    {sections : List Section} (gives : (properties unit).CanGive sections) :
    IsGroup "Properties" (c.2.children.filter Declaration.isPublicProperty) (IsPropertyBlock unit)
      sections := by
  obtain ⟨getters, ofClass, gives⟩ := gives.exists_of_lift_bind
  rw [classGetters, found] at ofClass
  cases ofClass
  have shown := map_shownGetters (c.2.located c.1)
  rw [Declaration.located, map_snd_numbered] at shown
  rw [← shown]
  dsimp only at gives
  split at gives
  · rename_i isEmpty
    cases Compile.canGive_pure_iff.mp gives
    exact .inl ⟨by rw [Declaration.located] at isEmpty; simpa using isEmpty, rfl⟩
  · rename_i nonempty
    obtain ⟨blocks, ofBlocks, gives⟩ := gives.exists_of_bind
    cases Compile.canGive_pure_iff.mp gives
    rw [ofGetters_eq_concat] at ofBlocks
    obtain ⟨blocks, rfl, compiled⟩ := Compile.exists_blocks_of_concat ofBlocks
    refine .inr ⟨by rw [Declaration.located] at nonempty; simpa using nonempty, _, rfl, blocks, rfl,
      ?_⟩
    rw [List.forall₂_map_left_iff]
    -- that a getter is the signature of its declaration is known of the shown ones only
    have signed := (List.forall₂_and_left _ _).mpr
      ⟨fun g member => (of_mem_shownGetters member).2.1, compiled⟩
    exact signed.imp fun g block ⟨isGetter, ofGetter⟩ =>
      ⟨isBlock_of_ofGetter ofGetter, g.1, g.2.2, isGetter, ofGetter⟩

/-! ## Methods -/

theorem isOpenMethod_eq (m : Declaration) :
    m.isOpenMethod = (isShownMethod m && decide (m.kind = .methodDecl)) := by
  unfold Declaration.isOpenMethod isShownMethod
  cases m.signatures <;> simp [Bool.and_comm, Bool.and_assoc, Bool.and_left_comm]

theorem classMethods_eq {builders : BuilderMethods} {cls : Declaration}
    (found : unit.requiredClass = .ok cls) :
    classMethods unit builders = .ok (cls.methodsInOrder builders) := by
  have openMethods : (cls.childrenOfKind .methodDecl).filter isShownMethod =
      cls.children.filter Declaration.isOpenMethod := by
    rw [Declaration.childrenOfKind, List.filter_filter]
    exact List.filter_congr fun m _ => (isOpenMethod_eq m).symm
  rw [classMethods, found]
  refine congrArg Except.ok ?_
  rw [openMethods, buildersFirst, Declaration.methodsInOrder]
  -- among methods, a builder is told by its name alone
  have byName : ∀ m ∈ cls.children.filter Declaration.isOpenMethod,
      (decide (m.kind = .methodDecl) && m.name.isIn (cls.builderNames builders)) =
        m.name.isIn (cls.builderNames builders) := by
    intro m member
    have isOpen := (List.mem_filter.mp member).2
    rw [isOpenMethod_eq, Bool.and_eq_true] at isOpen
    rw [isOpen.2, Bool.true_and]
  exact congrArg₂ _ (List.filter_congr byName)
    (List.filter_congr fun m member => congrArg _ (byName m member))

theorem isGroup_methods {builders : BuilderMethods} {cls : Declaration}
    (found : unit.requiredClass = .ok cls) {sections : List Section}
    (compiled : methods unit builders = .ok sections) :
    IsGroup "Methods" (cls.methodsInOrder builders) (IsMethodBlock unit) sections := by
  obtain ⟨ms, inOrder, compiled⟩ := exists_of_bind_eq_ok compiled
  have areMethods := fun m (member : m ∈ ms) => (kind_of_mem_classMethods inOrder member).1
  rw [classMethods_eq found] at inOrder
  cases inOrder
  split at compiled
  · rename_i isEmpty
    cases compiled
    exact .inl ⟨List.isEmpty_iff.mp isEmpty, rfl⟩
  · rename_i nonempty
    obtain ⟨blocks, mapped, compiled⟩ := exists_of_bind_eq_ok compiled
    cases compiled
    refine .inr ⟨mt List.isEmpty_iff.mpr nonempty, _, rfl, blocks, rfl, ?_⟩
    have related := (List.forall₂_and_left _ _).mpr ⟨areMethods, forall₂_of_mapM_eq_ok mapped⟩
    refine related.imp fun m block ⟨isMethod, ofMethod⟩ => ⟨?_, ofMethod⟩
    obtain ⟨s, type, body, -, -, rfl⟩ := exists_of_ofMethod isMethod ofMethod
    exact ⟨_, rfl, rfl, rfl⟩

/-! ## Introductions -/

theorem eq_plain_of_about {comment : DocComment} {sections : List Section}
    (compiled : about comment = .ok sections) : ∃ body, sections = [plain body] := by
  obtain ⟨summary, -, compiled⟩ := exists_of_bind_eq_ok compiled
  obtain ⟨examples, -, compiled⟩ := exists_of_bind_eq_ok compiled
  cases compiled
  exact ⟨_, rfl⟩

theorem eq_of_constructorSection {sections : List Section}
    (compiled : constructorSection unit = .ok sections) :
    ∃ body, sections = [{ title := "Constructor", level := 2, body }] := by
  obtain ⟨cls, -, compiled⟩ := exists_of_bind_eq_ok compiled
  split at compiled
  · cases compiled
  · obtain ⟨signature, -, compiled⟩ := exists_of_bind_eq_ok compiled
    obtain ⟨shown, -, compiled⟩ := exists_of_bind_eq_ok compiled
    obtain ⟨parameters, -, compiled⟩ := exists_of_bind_eq_ok compiled
    cases compiled
    exact ⟨_, rfl⟩

end Section

namespace Page

open Section (InBlocks IsGroup IsInterfaceBlock IsMethodBlock IsPropertyBlock)

variable {config : SiteConfig} {sdk : List DocUnit} {unit : DocUnit}

/-- The parts of the page of a component whose class is `cls`: an introduction and a constructor,
and then blocks for all that is documented of the class and of the interfaces, each once. -/
structure ComponentParts.Documents (config : SiteConfig) (sdk : List DocUnit) (unit : DocUnit)
    (cls : Declaration) (p : ComponentParts) : Prop where
  about : ∃ body, p.about = [Section.plain body]
  constructor : ∃ body, p.constructor = [{ title := "Constructor", level := 2, body }]
  arguments : InBlocks (unit.visibleInterfaces.filter cls.isArgumentsOf) (IsInterfaceBlock unit)
    p.arguments
  properties : IsGroup "Properties" (cls.children.filter Declaration.isPublicProperty)
    (IsPropertyBlock unit) p.properties
  runtime : ∃ module?, sdkOf? sdk unit = .ok module? ∧
    sdkSections config.sdkRules unit module? = .ok p.runtime
  methods : IsGroup "Methods" (cls.methodsInOrder config.builderMethods) (IsMethodBlock unit)
    p.methods
  interfaces : InBlocks (unit.visibleInterfaces.filter fun i => !cls.isArgumentsOf i)
    (IsInterfaceBlock unit) p.interfaces

theorem documents_of_partsOf {c : Place × Declaration} (found : unit.locatedClass = .ok c)
    {parts : ComponentParts} (built : partsOf config sdk unit = .ok parts) :
    parts.Documents config sdk unit c.2 := by
  have required : unit.requiredClass = .ok c.2 := by rw [DocUnit.requiredClass, found]; rfl
  obtain ⟨cls, isClass, compiled⟩ := exists_compiled_of_partsOf built
  rw [required] at isClass
  cases isClass
  constructor
  · obtain ⟨comment, -, introduced⟩ := compiled.about
    exact Section.eq_plain_of_about introduced
  · obtain ⟨mark, own, -, ofConstructor, isConstructor⟩ := compiled.constructor
    obtain ⟨body, rfl⟩ := Section.eq_of_constructorSection ofConstructor
    exact ⟨_, isConstructor⟩
  · exact Section.inBlocks_interfaceGroup compiled.arguments
  · exact Section.isGroup_properties found compiled.properties
  · exact compiled.runtime
  · exact Section.isGroup_methods required compiled.methods
  · have complement :
        (fun i : Declaration => decide (i.name ≠ .text (c.2.name.display ++ "Args"))) =
          fun i => !c.2.isArgumentsOf i := funext fun i => decide_not
    have ofInterfaces := compiled.interfaces
    rw [complement] at ofInterfaces
    exact Section.inBlocks_interfaceGroup ofInterfaces

/-- The page of a component is made of an introduction, the constructor, the group on the runtime
use, and blocks: one for each interface that is not hidden, that of the arguments of the class
before the properties and all others after the methods; one for each public property of the class;
and one for each open method of the class, the builders first. A group without blocks has no
heading, and all blocks stand in the order of their declarations. -/
theorem component_blocks (config : SiteConfig) (sdk : List DocUnit) (unit : DocUnit) (page : Page)
    (built : ofComponent config sdk unit = .ok page) :
    ∃ (place : Place) (cls : Declaration) (parts : ComponentParts),
      unit.locatedClass = .ok (place, cls) ∧ page.sections = parts.sections ∧
      parts.Documents config sdk unit cls := by
  obtain ⟨parts, ofParts, sameSections⟩ := exists_of_ofComponent built
  obtain ⟨cls, isClass, -⟩ := exists_of_bind_eq_ok ofParts
  obtain ⟨c, found, -⟩ := exists_of_bind_eq_ok isClass
  exact ⟨c.1, c.2, parts, found, sameSections, documents_of_partsOf found ofParts⟩

/-- A class with a constructor, an accessor and two methods that others may use, a method that they
may not, the interface of its arguments and one more. The method `task` is a builder of the class,
although it is declared after `create`. -/
def machineUnit : DocUnit where
  name := .text "components/aws/step-functions"
  declarations :=
    [{ Declaration.bare "StepFunctions" .classDecl none
        [{ Declaration.bare "constructor" .constructorDecl none [] with
            signatures := [⟨.text "new StepFunctions", [], none, none⟩] },
          { Declaration.bare "arn" .accessorDecl none [] with
            modifiers := { isPublic := true }
            getter := some ⟨.text "arn", [], some (.object [resource]), none⟩ },
          method "create" { }, method "task" { }, method "remove" { isPrivate := true }] with
        comment := some ⟨[], [], TagSet.empty⟩
        sourcePath := some (.text "platform/src/components/aws/step-functions.ts") },
      .bare "TaskArgs" .interfaceDecl none [.url],
      .bare "StepFunctionsArgs" .interfaceDecl none [.url]]
  sourcePath := some (.text "platform/src/components/aws/step-functions.ts")
  comment := none
where
  resource : Declaration := .bare "resource" .propertyDecl (some (.object [.url])) []
  method (name : String) (modifiers : Modifiers) : Declaration :=
    { Declaration.bare name .methodDecl none [] with
      modifiers
      signatures := [⟨.text name, [], some (.primitive (.text "string")), none⟩] }

/-- The levels and titles of the sections of the page of the class. -/
def machineTitles : List (Int × String) :=
  [(0, ""), (2, "Constructor"), (2, "StepFunctionsArgs"), (3, "url"), (2, "Properties"),
    (3, "arn"), (4, "resource"), (5, "url"), (2, "Methods"), (3, "task"), (3, "create"),
    (2, "TaskArgs"), (3, "url")]

theorem machine_page_titled :
    (ofComponent .standard [] machineUnit).map
      (fun page => page.sections.map fun s => (s.level, s.title)) = .ok machineTitles := rfl

/-- The page of the class is built. Its blocks are on the arguments, on the property, on the two
methods with the builder first, and on the other interface. -/
theorem component_blocks_machine :
    ∃ page place cls parts, ofComponent .standard [] machineUnit = .ok page ∧
      page.sections.map (fun s => (s.level, s.title)) = machineTitles ∧
      (cls.children.filter Declaration.isPublicProperty).map Declaration.displayName = ["arn"] ∧
      (cls.methodsInOrder SiteConfig.standard.builderMethods).map Declaration.displayName =
        ["task", "create"] ∧
      machineUnit.locatedClass = .ok (place, cls) ∧ page.sections = parts.sections ∧
      ComponentParts.Documents .standard [] machineUnit cls parts := by
  obtain ⟨page, built, titles⟩ := exists_of_map_eq_ok machine_page_titled
  obtain ⟨place, cls, parts, found, sameSections, documents⟩ :=
    component_blocks .standard [] machineUnit page built
  have isClass := found
  cases found
  exact ⟨page, _, _, parts, built, titles, rfl, rfl, isClass, sameSections, documents⟩

end Page

end DocPress
