import DocPress.Proofs.ComponentBlocks
import DocPress.Proofs.FieldTree
import DocPress.Proofs.HiddenCommands
import Mathlib.Data.List.Chain
import Mathlib.Data.List.Induction

/-! # The levels of headings

On each page the first heading has level two, and no heading skips a level below the one before it.
So a nested field always stands below a heading of level three.

* `Headed`: items with headings of one level and, below each of them, headings one level deeper.
* `Section.Outlined`: what readers of a page may take for granted about its headings.
* `Page.outlined_pages`: the pages of units and of command lines are outlined.

A group of sections is headed at one level whatever stands before it, so that groups are simply put
one after another. That no level is skipped is a fact about headed items (`Headed.isChain`). -/

set_option autoImplicit false

namespace DocPress

/-- Items with headings of level `top`, each followed by what stands below it, with headings one
level deeper. An item of level zero is a text, which may stand anywhere. -/
inductive Headed {α : Type} (level : α → Int) : Int → List α → Prop
  | nil {top : Int} : Headed level top []
  | text {top : Int} {x : α} (isText : level x = 0) : Headed level top [x]
  | heading {top : Int} {x : α} {below : List α} (level_eq : level x = top)
      (deeper : Headed level (top + 1) below) : Headed level top (x :: below)
  | append {top : Int} {xs ys : List α} (first : Headed level top xs)
      (rest : Headed level top ys) : Headed level top (xs ++ ys)

def headingLevels {α : Type} (level : α → Int) (xs : List α) : List Int :=
  (xs.map level).filter (· ≠ 0)

theorem headingLevels_append {α : Type} (level : α → Int) (xs ys : List α) :
    headingLevels level (xs ++ ys) = headingLevels level xs ++ headingLevels level ys := by
  rw [headingLevels, List.map_append, List.filter_append]
  rfl

namespace Headed

variable {α β : Type} {level : α → Int} {top : Int} {xs : List α}

theorem cons_text {x : α} (isText : level x = 0) (rest : Headed level top xs) :
    Headed level top (x :: xs) := .append (.text isText) rest

/-- Headings with nothing below them. -/
theorem of_forall (alike : ∀ x ∈ xs, level x = top) : Headed level top xs := by
  induction xs with
  | nil => exact .nil
  | cons x xs inductionHypothesis =>
    rw [List.forall_mem_cons] at alike
    exact .append (.heading alike.1 .nil) (inductionHypothesis alike.2)

theorem map {f : β → α} {ys : List β} (headed : Headed (fun y => level (f y)) top ys) :
    Headed level top (ys.map f) := by
  induction headed with
  | nil => exact .nil
  | text isText => exact .text isText
  | heading level_eq _ inductionHypothesis => exact .heading level_eq inductionHypothesis
  | append _ _ ofFirst ofRest =>
    rw [List.map_append]
    exact .append ofFirst ofRest

theorem flatMap {f : β → List α} (each : ∀ y, Headed level top (f y)) (ys : List β) :
    Headed level top (ys.flatMap f) := by
  induction ys with
  | nil => exact .nil
  | cons y ys inductionHypothesis => exact .append (each y) inductionHypothesis

theorem le_of_mem (headed : Headed level top xs) (positive : 0 < top) :
    ∀ l ∈ headingLevels level xs, top ≤ l := by
  induction headed with
  | nil => simp [headingLevels]
  | text isText => simp [headingLevels, isText]
  | @heading top x below level_eq _ inductionHypothesis =>
    intro l member
    rw [← List.singleton_append, headingLevels_append] at member
    rcases List.mem_append.mp member with isFirst | isBelow
    · have here : l = level x := by simp [headingLevels] at isFirst; exact isFirst.1
      omega
    · have deeper := inductionHypothesis (by omega) l isBelow
      omega
  | append _ _ ofFirst ofRest =>
    intro l member
    rw [headingLevels_append] at member
    rcases List.mem_append.mp member with isFirst | isOther
    · exact ofFirst positive l isFirst
    · exact ofRest positive l isOther

/-- Below a heading one level up, no level is skipped. -/
theorem isChain (headed : Headed level top xs) (positive : 0 < top) :
    ((top - 1) :: headingLevels level xs).IsChain fun above next => next ≤ above + 1 := by
  induction headed with
  | nil => exact .singleton _
  | text isText =>
    simp [headingLevels, isText]
  | @heading top x below level_eq _ inductionHypothesis =>
    have isHeading : headingLevels level (x :: below) = top :: headingLevels level below := by
      have nonzero : top ≠ 0 := by omega
      simp [headingLevels, level_eq, nonzero]
    have deeper := inductionHypothesis (by omega)
    rw [Int.add_sub_cancel] at deeper
    rw [isHeading]
    exact .cons_cons (by omega) deeper
  | @append top xs ys first _ ofFirst ofRest =>
    have followed := ofRest positive
    rw [List.isChain_cons] at followed
    rw [headingLevels_append, ← List.cons_append, List.isChain_append]
    refine ⟨ofFirst positive, followed.2, fun last isLast next isNext => ?_⟩
    -- whatever comes last is not above the level that all of them stand below
    have notAbove : top - 1 ≤ last := by
      rcases List.mem_cons.mp (List.mem_of_getLast? isLast) with rfl | member
      · exact Int.le_refl _
      · have := first.le_of_mem positive last member
        omega
    have := followed.1 next isNext
    omega

end Headed

/-! ## Headings of sections -/

namespace Section

def headings (sections : List Section) : List Section := sections.filter fun s => s.level ≠ 0

/-- Sections whose headings start at level two and skip no level on the way down. -/
structure Outlined (sections : List Section) : Prop where
  first : ∀ s ∈ (headings sections).head?, s.level = 2
  next : (headings sections).IsChain fun above s => s.level ≤ above.level + 1
  /-- A nested heading stands below one of level three. -/
  below : ∀ before s after, headings sections = before ++ s :: after → 4 ≤ s.level →
    ∃ above parent between, before = above ++ parent :: between ∧ parent.level = 3 ∧
      ∀ other ∈ between, 4 ≤ other.level
  /-- A heading of level five does not follow one of level two or three. -/
  deepest : ∀ before above s after, headings sections = before ++ above :: s :: after →
    s.level = 5 → above.level ≠ 2 ∧ above.level ≠ 3

/-- Going up from a heading below some level, one meets a heading of that level. -/
theorem exists_parent_of_isChain {limit : Int} {hs before after : List Section} {s : Section}
    (next : hs.IsChain fun above s => s.level ≤ above.level + 1)
    (first : ∀ s ∈ hs.head?, s.level ≤ limit) (split : hs = before ++ s :: after)
    (deep : limit < s.level) :
    ∃ above parent between, before = above ++ parent :: between ∧ parent.level = limit ∧
      ∀ other ∈ between, limit < other.level := by
  induction before using List.reverseRecOn generalizing s after with
  | nil =>
    have := first s (by simp [split])
    omega
  | append_singleton before up inductionHypothesis =>
    rw [List.append_assoc, List.singleton_append] at split
    by_cases isDeep : limit < up.level
    · obtain ⟨above, parent, between, rfl, level_eq, deeper⟩ := inductionHypothesis split isDeep
      refine ⟨above, parent, between ++ [up], by simp, level_eq, fun other member => ?_⟩
      rcases List.mem_append.mp member with isBetween | isUp
      · exact deeper other isBetween
      · cases List.mem_singleton.mp isUp
        exact isDeep
    · -- the heading right above is the parent, as no level is skipped
      rw [split, List.isChain_append_cons_cons] at next
      have step := next.2.1
      exact ⟨before, up, [], rfl, by omega, by simp⟩

/-- Sections are outlined if they have the levels of headed items. -/
theorem outlined_of_headed {α : Type} {level : α → Int} {items : List α} {sections : List Section}
    (headed : Headed level 2 items) (sameLevels : sections.map Section.level = items.map level) :
    Outlined sections := by
  have levels : headingLevels level items = (headings sections).map Section.level := by
    rw [headingLevels, ← sameLevels, List.filter_map]
    rfl
  have chain := headed.isChain (by decide)
  rw [levels, List.isChain_cons, List.isChain_map] at chain
  have next := chain.2
  have first : ∀ s ∈ (headings sections).head?, s.level = 2 := by
    intro s isFirst
    have lower := headed.le_of_mem (by decide) s.level
      (by rw [levels]; exact List.mem_map_of_mem (List.mem_of_head? isFirst))
    have upper := chain.1 s.level (by rw [List.head?_map, isFirst]; rfl)
    omega
  refine ⟨first, next, fun before s after split deep => ?_,
    fun before above s after split deepest => ?_⟩
  · exact exists_parent_of_isChain next (fun s isFirst => by rw [first s isFirst]; decide) split
      (by omega)
  · rw [split, List.isChain_append_cons_cons] at next
    have step := next.2.1
    omega

/-! ## Groups of sections -/

variable {unit : DocUnit}

/-- The sections of nested fields are headed whatever the depth of the fields: the first level has a
heading level of its own, and all deeper ones share the next. -/
theorem headed_of_outline {path : String} {depth : Nat} {entries : List FieldEntry}
    (outline : Outline path depth entries) :
    Headed (fun e => (Subject.field e).level) (nestedLevel depth) entries := by
  induction outline with
  | nil => exact .nil
  | append _ _ _ ofFirst ofOthers => exact .append ofFirst ofOthers
  | items _ inductionHypothesis => exact inductionHypothesis
  | @field path depth place d nested _ _ _ inductionHypothesis =>
    have deeper : nestedLevel (depth + 1) = 5 := rfl
    rw [deeper] at inductionHypothesis
    cases depth with
    | zero => exact .heading rfl inductionHypothesis
    | succ depth =>
      have single : Headed (fun e => (Subject.field e).level) 5 [⟨depth + 1, path, place, d⟩] :=
        .heading rfl .nil
      exact .append single inductionHypothesis

theorem headed_fields (place : Place) (o : Documented) (name : String) :
    Headed Subject.level 4 ((nestedFields place o name).map Subject.field) :=
  .map (headed_of_outline (TypeExpr.outline_fieldsOfOptional o.type place name 0))

theorem headed_functions (fs : List Declaration) :
    Headed Subject.level 3 (fs.map Subject.function) :=
  .of_forall fun _ member => by
    obtain ⟨f, -, rfl⟩ := List.mem_map.mp member
    rfl

theorem headed_optional (title : String) (x : Except Fault (List Section)) :
    Headed Subject.level 3 (optionalSubjects title x) := by
  unfold optionalSubjects
  split
  · exact .heading rfl .nil
  · exact .nil
  · exact .nil

theorem headed_memberSubjects (m : Place × Declaration) :
    Headed Subject.level 3 (memberSubjects m) := by
  cases hidden : m.2.isHidden with
  | true =>
    rw [memberSubjects, if_pos hidden]
    exact .nil
  | false =>
    by_cases isProperty : m.2.kind = .propertyDecl
    · rw [memberSubjects_of_property hidden isProperty]
      exact .heading rfl (headed_fields _ _ _)
    · by_cases isMethod : m.2.kind = .methodDecl
      · rw [memberSubjects_of_method hidden isMethod]
        exact .heading rfl .nil
      · rw [memberSubjects_of_other isProperty isMethod]
        exact .nil

theorem headed_interfaceGroup (unit : DocUnit) (accepts : Declaration → Bool) :
    Headed Subject.level 2 (interfaceGroupSubjects unit accepts false) := by
  refine .flatMap (fun i => ?_) _
  exact .heading rfl (.flatMap headed_memberSubjects _)

theorem headed_objectGroup (unit : DocUnit) (accepts : Declaration → Bool) :
    Headed Subject.level 3 (interfaceGroupSubjects unit accepts true) := by
  refine .flatMap (fun i => ?_) _
  exact .heading rfl (headed_fields _ _ _)

theorem headed_variables (unit : DocUnit) (vs : List (Place × Declaration)) :
    Headed Subject.level 3 (vs.flatMap (variableSubjects unit)) := by
  refine .flatMap (fun v => ?_) _
  exact .heading rfl (headed_fields _ _ _)

theorem headed_getters (gs : List (Place × Declaration × CallSignature)) :
    Headed Subject.level 3 (gs.flatMap getterSubjects) := by
  refine .flatMap (fun g => ?_) _
  exact .heading rfl (headed_fields _ _ _)

/-- What stands below the title of a group. -/
theorem headed_titled {title : String} {below : List Subject} (nonempty : title ≠ "")
    (deeper : Headed Subject.level 3 below) :
    Headed Subject.level 2 (headingSubjects (some title) ++ below) := by
  rw [headingSubjects, if_neg nonempty]
  exact .heading rfl deeper

theorem headed_functionGroup (fs : List Declaration) {title : String} (nonempty : title ≠ "") :
    Headed Subject.level 2 (functionGroupSubjects fs (some title)) := by
  unfold functionGroupSubjects
  split
  · exact .nil
  · exact headed_titled nonempty (headed_functions fs)

theorem headed_functionGroup_untitled (fs : List Declaration) :
    Headed Subject.level 3 (functionGroupSubjects fs none) := by
  unfold functionGroupSubjects
  split
  · exact .nil
  · exact headed_functions fs

theorem headed_variableGroup (unit : DocUnit) {title : String} (nonempty : title ≠ "") :
    Headed Subject.level 2 (variableGroupSubjects unit (some title)) := by
  unfold variableGroupSubjects
  split
  · exact .nil
  · exact headed_titled nonempty (headed_variables unit _)

theorem headed_variableGroup_untitled (unit : DocUnit) :
    Headed Subject.level 3 (variableGroupSubjects unit none) := by
  unfold variableGroupSubjects
  split
  · exact .nil
  · exact headed_variables unit _

theorem headed_propertySubjects (unit : DocUnit) :
    Headed Subject.level 2 (propertySubjects unit) := by
  unfold propertySubjects
  split
  · split
    · exact .nil
    · exact .heading rfl (headed_getters _)
  · exact .nil

theorem headed_methodSubjects (unit : DocUnit) (builders : BuilderMethods) :
    Headed Subject.level 2 (methodSubjects unit builders) := by
  unfold methodSubjects
  split
  · split
    · exact .nil
    · refine .heading rfl (.of_forall fun _ member => ?_)
      obtain ⟨m, -, rfl⟩ := List.mem_map.mp member
      rfl
  · exact .nil

end Section

/-! ## Pages of units -/

namespace Page

open Section

variable {config : SiteConfig}

theorem headed_extraSubjects (units : List DocUnit) {es : List (String × String)}
    (titled : ∀ e ∈ es, e.1 ≠ "") : Headed Subject.level 2 (extraSubjects units es) := by
  induction es with
  | nil => exact .nil
  | cons e es inductionHypothesis =>
    rw [List.forall_mem_cons] at titled
    unfold extraSubjects
    split
    · exact .nil
    · exact .append (headed_functionGroup _ titled.1) (inductionHypothesis titled.2)

theorem headed_globalSubjects (units : List DocUnit) (unit : DocUnit)
    (titled : ∀ e ∈ config.routing.extraFunctions, e.1 ≠ "") :
    Headed Subject.level 2 (globalSubjects config units unit) :=
  .append (.append (.cons_text rfl (headed_variableGroup unit (by decide)))
    (headed_functionGroup _ (by decide))) (headed_extraSubjects units titled)

theorem headed_configSubjects (unit : DocUnit) : Headed Subject.level 2 (configSubjects unit) :=
  .cons_text rfl (.append (headed_interfaceGroup unit _) (headed_interfaceGroup unit _))

theorem headed_helperSubjects (unit : DocUnit) : Headed Subject.level 2 (helperSubjects unit) :=
  .append (.cons_text rfl (headed_functionGroup _ (by decide))) (headed_interfaceGroup unit _)

theorem headed_moduleSubjects (rules : SdkRules) (s : DocUnit) :
    Headed Subject.level 3 (moduleSubjects rules s) := by
  refine .append (.append ?_ (headed_functionGroup_untitled _)) (headed_objectGroup s _)
  split
  · exact headed_variableGroup_untitled s
  · exact .nil

theorem headed_runtimeSubjects (rules : SdkRules) (module? : Option DocUnit) :
    Headed Subject.level 3 (runtimeSubjects rules module?) := by
  cases module? with
  | none => exact .nil
  | some s =>
    refine .append ?_ (headed_moduleSubjects rules s)
    split
    · exact .text rfl
    · exact .nil

/-- The group on the runtime use, where it is shown, stands below its heading. -/
theorem headed_sdkSubjects (rules : SdkRules) (unit : DocUnit) (module? : Option DocUnit) :
    Headed Subject.level 2 (sdkSubjects rules unit module?) := by
  unfold sdkSubjects
  dsimp only
  split
  · exact .nil
  · exact .heading rfl (.append (.append (headed_optional _ _) (headed_optional _ _))
      (headed_runtimeSubjects rules module?))

theorem headed_componentSubjects (sdk : List DocUnit) (unit : DocUnit) :
    Headed Subject.level 2 (componentSubjects config sdk unit) := by
  unfold componentSubjects
  split
  · have ofArguments := headed_interfaceGroup unit
    have front : Headed Subject.level 2 [.text "" 0, .text "Constructor" 2] :=
      .cons_text rfl (.heading rfl .nil)
    exact .append (.append (.append (.append (.append front (ofArguments _))
      (headed_propertySubjects unit)) (headed_sdkSubjects _ unit _))
      (headed_methodSubjects unit _)) (ofArguments _)
  · exact .nil

theorem headed_subjectsOf (sdk units : List DocUnit) (unit : DocUnit)
    (titled : ∀ e ∈ config.routing.extraFunctions, e.1 ≠ "") :
    Headed Subject.level 2 (subjectsOf config sdk units unit) := by
  unfold subjectsOf
  split
  · exact .nil
  · split
    · exact .nil
    · exact headed_globalSubjects units unit titled
    · exact headed_configSubjects unit
    · exact headed_helperSubjects unit
    · exact headed_helperSubjects unit
    · exact headed_componentSubjects sdk unit

end Page

/-! ## Pages of command lines -/

namespace Command

theorem headed_commandSections (c : Command) : Headed Section.level 3 c.commandSections :=
  .heading rfl (.of_forall fun _ member => by
    obtain ⟨s, -, rfl⟩ := List.mem_map.mp member
    rfl)

theorem headed_front (root : Command) : Headed Section.level 2 root.front := by
  have flags : Headed Section.level 3 (root.flags.map globalFlag) := .of_forall fun _ member => by
    obtain ⟨f, -, rfl⟩ := List.mem_map.mp member
    rfl
  unfold front
  split
  · rename_i noFlags
    rw [List.isEmpty_iff.mp noFlags]
    exact .text rfl
  · exact .cons_text rfl (.heading rfl flags)

theorem headed_commands (root : Command) :
    Headed Section.level 2 (root.heading ++ root.visibleChildren.flatMap commandSections) := by
  unfold heading
  split
  · rename_i noChildren
    rw [visibleChildren, List.isEmpty_iff.mp noChildren]
    exact .nil
  · exact .heading rfl (.flatMap headed_commandSections _)

end Command

namespace Page

open Section

/-- The headings of the pages of units, and of the page of a command line, start at level two and
skip no level on the way down: a nested heading stands below one of level three. The titles that
are configured for further functions have to be nonempty, as a group without a title has no
heading. -/
theorem outlined_pages :
    (∀ (config : SiteConfig) (sdk units : List DocUnit) (only : Option String) (pages : List Page),
      (∀ e ∈ config.routing.extraFunctions, e.1 ≠ "") →
      buildAll config sdk units only = .ok pages → ∀ page ∈ pages, Outlined page.sections) ∧
    ∀ root : Command, Outlined (ofCommands root).sections := by
  constructor
  · intro config sdk units only pages titled built page member
    obtain ⟨unit, -, ofUnit⟩ := exists_of_mem_buildAll built member
    exact outlined_of_headed (headed_subjectsOf sdk units unit titled)
      (Subject.map_level_of_describes (describes_ofUnit? ofUnit))
  · intro root
    rw [sections_ofCommands]
    exact outlined_of_headed (.append root.headed_front root.headed_commands) rfl

theorem machine_pages_titled :
    (buildAll .standard [] [machineUnit] none).map
      (List.map fun page => page.sections.map fun s => (s.level, s.title)) =
        .ok [machineTitles] := rfl

/-- The page of a class with a property that has nested fields of two depths. -/
theorem outlined_pages_machine :
    ∃ pages, buildAll .standard [] [machineUnit] none = .ok pages ∧
      pages.map (fun page => page.sections.map fun s => (s.level, s.title)) = [machineTitles] ∧
      ∀ page ∈ pages, Outlined page.sections := by
  obtain ⟨pages, built, titles⟩ := exists_of_map_eq_ok machine_pages_titled
  exact ⟨pages, built, titles, outlined_pages.1 _ _ _ _ _ (by decide) built⟩

end Page

end DocPress
