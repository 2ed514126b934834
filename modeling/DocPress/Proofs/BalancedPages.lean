import DocPress.Proofs.BalancedSections
import DocPress.Proofs.HiddenCommands
import DocPress.Proofs.PageSubjects
import Mathlib.Data.List.TakeWhile

/-! # The tags of pages

On each page, the tags in the body of every section are balanced, if no comment of the units and no
description of a command has a line that is a tag.

* `Page.closed_ofUnit?`, `Command.closed_sections`: all sections of a page close what they open.
* `Page.balanced_pages`: for the pages of units and for that of a command line.

The section of a constructor is rewritten after it is compiled, so that it shows the version of the
class. This makes no tag
(`Inserted.tag?_eq_none`), since no tag has the word `new` in it. -/

set_option autoImplicit false

namespace DocPress

/-! ## Untagged units -/

namespace DocUnit.Untagged

variable {unit : DocUnit}

theorem functions (untagged : unit.Untagged) : ∀ f ∈ unit.functions, f.Untagged := fun _ member =>
  untagged.declaration (List.mem_of_mem_filter (List.mem_of_mem_filter member))

theorem requiredComment (untagged : unit.Untagged) {c : DocComment}
    (found : unit.requiredComment = .ok c) : c.Untagged := by
  unfold DocUnit.requiredComment at found
  split at found
  · cases found
    exact untagged.comment ‹_›
  · cases found

theorem requiredClassComment (untagged : unit.Untagged) {c : DocComment}
    (found : unit.requiredClassComment = .ok c) : c.Untagged := by
  obtain ⟨cls, isClass, found⟩ := exists_of_bind_eq_ok found
  split at found
  · cases found
    exact (untagged.requiredClass isClass).comment ‹_›
  · cases found

theorem innermost (untagged : unit.Untagged) : unit.innermost.Untagged := by
  unfold DocUnit.innermost
  split
  · exact untagged
  · rename_i n isFirst
    have ofUnit := untagged.declaration (List.mem_of_mem_filter (List.mem_of_mem_head? isFirst))
    intro c member
    rcases List.mem_append.mp member with isOwn | inChild
    · exact ofUnit.comment (Option.mem_toList.mp isOwn)
    · obtain ⟨m, isChild, inChild⟩ := List.mem_flatMap.mp inChild
      exact ofUnit.child isChild c inChild

end DocUnit.Untagged

/-! ## Names with versions -/

namespace DocUnit

/-- A name that ends with a version, up to a final line feed: with a hyphen, the letter `v` and
digits. -/
def HasVersion (name version : String) : Prop :=
  ∃ front digits : List Char, Text.dropFinalLineFeed name.toList = front ++ '-' :: 'v' :: digits ∧
    version.toList = 'v' :: digits ∧ digits ≠ [] ∧ ∀ d ∈ digits, Text.isDigit d

theorem versionIn?_eq_some_iff {name version : String} :
    versionIn? name = some version ↔ HasVersion name version := by
  constructor
  · intro found
    -- a version is read from the end of the name on: its digits, the letter and the hyphen
    have parts := List.takeWhile_append_dropWhile (p := Text.isDigit)
      (l := (Text.dropFinalLineFeed name.toList).reverse)
    unfold versionIn? at found
    dsimp only at found
    split at found
    · cases found
    · rename_i back front isRest nonempty
      cases found
      rw [isRest, ← List.reverse_eq_iff] at parts
      refine ⟨front.reverse, _, ?_, String.toList_ofList, mt List.reverse_eq_nil_iff.mp nonempty,
        fun d member => List.mem_takeWhile_imp (List.mem_reverse.mp member)⟩
      exact parts.symm.trans (by simp)
    · cases found
  · rintro ⟨front, digits, isName, isVersion, nonempty, areDigits⟩
    have back : (Text.dropFinalLineFeed name.toList).reverse =
        digits.reverse ++ 'v' :: '-' :: front.reverse := by
      simp [isName]
    have allDigits : ∀ d ∈ digits.reverse, Text.isDigit d = true := by simpa using areDigits
    have notDigit : ¬ Text.isDigit 'v' = true := by decide
    rw [versionIn?, back, List.takeWhile_append_of_pos allDigits,
      List.dropWhile_append_of_pos allDigits, List.takeWhile_cons_of_neg notDigit,
      List.dropWhile_cons_of_neg notDigit, List.append_nil]
    cases inverse : digits.reverse with
    | nil => exact absurd (List.reverse_eq_nil_iff.mp inverse) nonempty
    | cons d ds =>
      change some (String.ofList ('v' :: (d :: ds).reverse)) = some version
      rw [← inverse, List.reverse_reverse, ← isVersion, String.ofList_toList]

/-- What follows the name of the class of a unit is its version, if the name of the unit ends with
one. -/
theorem exists_of_versionMark {unit : DocUnit} {mark : String}
    (marked : unit.versionMark = .ok mark) :
    ∃ name, unit.name.required .searched = .ok name ∧
      ((mark = "" ∧ ∀ version, ¬ HasVersion name version) ∨
        ∃ version, HasVersion name version ∧ mark = "." ++ version) := by
  obtain ⟨version?, isVersion, marked⟩ := exists_of_bind_eq_ok marked
  obtain ⟨name, isName, isVersion⟩ := exists_of_bind_eq_ok isVersion
  cases isVersion
  refine ⟨name, isName, ?_⟩
  split at marked
  · rename_i version found
    cases marked
    exact .inr ⟨version, versionIn?_eq_some_iff.mp found, rfl⟩
  · rename_i notFound
    cases marked
    refine .inl ⟨rfl, fun version hasVersion => ?_⟩
    rw [versionIn?_eq_some_iff.mpr hasVersion] at notFound
    cases notFound

end DocUnit

namespace Page

open Section

variable {config : SiteConfig} {sdk units : List DocUnit} {unit : DocUnit} {page : Page}
  {sections : List Section}

/-! ## Pages without a class -/

theorem closed_extraFunctions (untagged : ∀ u ∈ units, u.Untagged) {es : List (String × String)}
    (built : extraFunctions unit units es = .ok sections) : Closed sections := by
  induction es generalizing sections with
  | nil =>
    cases built
    exact closed_nil
  | cons e es inductionHypothesis =>
    obtain ⟨title, ending⟩ := e
    unfold extraFunctions at built
    split at built
    · cases built
    · rename_i u found
      obtain ⟨first, ofFirst, built⟩ := exists_of_bind_eq_ok built
      obtain ⟨rest, ofRest, built⟩ := exists_of_bind_eq_ok built
      cases built
      have ofUnit := untagged u (List.mem_of_find?_eq_some found)
      exact (closed_functionGroup ofUnit.functions ofFirst).append (inductionHypothesis ofRest)

theorem closed_ofGlobal (untagged : unit.Untagged) (allUntagged : ∀ u ∈ units, u.Untagged)
    (built : ofGlobal config units unit = .ok page) : Closed page.sections := by
  obtain ⟨comment, isComment, built⟩ := exists_of_bind_eq_ok built
  obtain ⟨about, introduced, built⟩ := exists_of_bind_eq_ok built
  obtain ⟨vars, ofVars, built⟩ := exists_of_bind_eq_ok built
  obtain ⟨functions, ofFunctions, built⟩ := exists_of_bind_eq_ok built
  obtain ⟨extra, ofExtra, built⟩ := exists_of_bind_eq_ok built
  obtain ⟨source, -, built⟩ := exists_of_bind_eq_ok built
  cases built
  refine (((closed_about (untagged.requiredComment isComment) introduced).append ?_).append
    ?_).append (closed_extraFunctions allUntagged ofExtra)
  · exact closed_variableGroup untagged (.of_fresh ofVars)
  · exact closed_functionGroup untagged.functions ofFunctions

theorem closed_ofConfig (untagged : unit.Untagged) (built : ofConfig unit = .ok page) :
    Closed page.sections := by
  obtain ⟨comment, isComment, built⟩ := exists_of_bind_eq_ok built
  obtain ⟨about, introduced, built⟩ := exists_of_bind_eq_ok built
  obtain ⟨interfaces, ofInterfaces, built⟩ := exists_of_bind_eq_ok built
  obtain ⟨source, -, built⟩ := exists_of_bind_eq_ok built
  cases built
  refine (closed_about (untagged.requiredComment isComment) introduced).append ?_
  have gives := Compile.CanGive.of_fresh ofInterfaces
  obtain ⟨first, ofFirst, gives⟩ := gives.exists_of_bind
  obtain ⟨rest, ofRest, gives⟩ := gives.exists_of_bind
  cases Compile.canGive_pure_iff.mp gives
  exact (closed_interfaceGroup untagged ofFirst).append (closed_interfaceGroup untagged ofRest)

theorem closed_helperSections (untagged : unit.Untagged)
    (built : helperSections unit = .ok sections) : Closed sections := by
  obtain ⟨comment, isComment, built⟩ := exists_of_bind_eq_ok built
  obtain ⟨about, introduced, built⟩ := exists_of_bind_eq_ok built
  obtain ⟨functions, ofFunctions, built⟩ := exists_of_bind_eq_ok built
  obtain ⟨interfaces, ofInterfaces, built⟩ := exists_of_bind_eq_ok built
  cases built
  exact ((closed_about (untagged.requiredComment isComment) introduced).append
    (closed_functionGroup untagged.functions ofFunctions)).append
    (closed_interfaceGroup untagged (.of_fresh ofInterfaces))

/-! ## Pages of components -/

theorem closed_moduleGroups {rules : SdkRules} {s : DocUnit} (untagged : s.Untagged)
    (gives : (moduleGroups rules s).CanGive sections) : Closed sections := by
  obtain ⟨vars, ofVars, gives⟩ := gives.exists_of_bind
  obtain ⟨functions, ofFunctions, gives⟩ := gives.exists_of_lift_bind
  obtain ⟨interfaces, ofInterfaces, gives⟩ := gives.exists_of_bind
  cases Compile.canGive_pure_iff.mp gives
  refine (Closed.append ?_ (closed_functionGroup untagged.functions ofFunctions)).append
    (closed_interfaceGroup untagged ofInterfaces)
  unfold moduleVariables at ofVars
  split at ofVars
  · exact closed_variableGroup untagged ofVars
  · cases Compile.canGive_pure_iff.mp ofVars
    exact closed_nil

theorem closed_runtimeSections {rules : SdkRules} {module? : Option DocUnit}
    (untagged : ∀ s, module? = some s → s.Untagged)
    (built : runtimeSections rules module? = .ok sections) : Closed sections := by
  cases module? with
  | none =>
    cases built
    exact closed_nil
  | some s =>
    obtain ⟨intro, introduced, built⟩ := exists_of_bind_eq_ok built
    obtain ⟨groups, ofGroups, built⟩ := exists_of_bind_eq_ok built
    cases built
    have ofModule := untagged s rfl
    refine Closed.append ?_ (closed_moduleGroups ofModule (.of_fresh ofGroups))
    unfold moduleIntro at introduced
    split at introduced
    · obtain ⟨comment, isComment, introduced⟩ := exists_of_bind_eq_ok introduced
      exact closed_about (ofModule.requiredComment isComment) introduced
    · cases introduced
      exact closed_nil

theorem closed_sdkSections {rules : SdkRules} {module? : Option DocUnit}
    (untagged : unit.Untagged) (moduleUntagged : ∀ s, module? = some s → s.Untagged)
    (built : sdkSections rules unit module? = .ok sections) : Closed sections := by
  obtain ⟨links, ofLinks, built⟩ := exists_of_bind_eq_ok built
  obtain ⟨bindings, ofBindings, built⟩ := exists_of_bind_eq_ok built
  obtain ⟨runtime, ofRuntime, built⟩ := exists_of_bind_eq_ok built
  have closed := ((closed_links ofLinks).append (closed_bindings untagged ofBindings)).append
    (closed_runtimeSections moduleUntagged ofRuntime)
  dsimp only at built
  split at built
  · cases built
    exact closed_nil
  · cases built
    exact .cons (.of_plain (by decide +kernel)) closed

theorem untagged_of_sdkOf? (untagged : ∀ u ∈ sdk, u.Untagged) {module? : Option DocUnit}
    (named : sdkOf? sdk unit = .ok module?) : ∀ s, module? = some s → s.Untagged := by
  rintro s rfl
  obtain ⟨segments, -, named⟩ := exists_of_bind_eq_ok named
  split at named
  · obtain ⟨u, found, rfl⟩ := Option.map_eq_some_iff.mp (Except.ok.inj named)
    exact (untagged u (List.mem_of_find?_eq_some found)).innermost
  · cases named

theorem not_mem_of_versionMark {mark : String} (marked : unit.versionMark = .ok mark) :
    '>' ∉ mark.toList := by
  obtain ⟨name, -, ⟨rfl, -⟩ | ⟨version, hasVersion, rfl⟩⟩ := DocUnit.exists_of_versionMark marked
  · simp
  · obtain ⟨front, digits, -, isVersion, -, areDigits⟩ := hasVersion
    rw [String.toList_append, isVersion, List.mem_append, List.mem_cons]
    rintro (isMark | isLetter | isDigit)
    · exact absurd isMark (by decide)
    · exact absurd isLetter (by decide)
    · exact absurd (areDigits _ isDigit) (by decide)

/-- A line in which each call of the constructor of a class shows a version. -/
def versionedLine (className version line : String) : String :=
  String.ofList (Text.replaceAll ("new " ++ className).toList
    (("new " ++ className).toList ++ version.toList) line.toList)

theorem newStart_isPrefix (className : String) : newStart <+: ("new " ++ className).toList := by
  rw [String.toList_append]
  exact ⟨' ' :: className.toList, rfl⟩

theorem inserted_versionedLine (className version line : String) :
    Inserted ("new " ++ className).toList version.toList line.toList
      (versionedLine className version line).toList := by
  rw [versionedLine, String.toList_ofList]
  exact inserted_replaceAll (by simp) _ _

/-- The tags of the section of a constructor stay as they are. -/
theorem versionedLine_of_tag (className version : String) {line : String}
    (isTag : line ∈ constructorTags) : versionedLine className version line = line := by
  have differ : ∀ tag ∈ constructorTags, ∀ rest ∈ tag.toList.tails, rest ≠ [] →
      ¬ rest <+: newStart ∧ ¬ newStart <+: rest := by decide +kernel
  have apart := Inserted.apart_of_tails (newStart_isPrefix className) (differ line isTag)
  exact String.toList_inj.mp
    ((inserted_versionedLine className version line).eq_of_apart apart (by simp))

theorem closed_withVersion {className version : String} (free : '>' ∉ version.toList)
    (closed : ∀ s ∈ sections, SelfClosed s.body ∧ HasConstructorTags s.body) :
    Closed (sections.map (withVersion className version)) := by
  intro s member
  obtain ⟨s, isSection, rfl⟩ := List.mem_map.mp member
  obtain ⟨selfClosed, hasTags⟩ := closed s isSection
  have kept : ∀ line ∈ s.body, tag? (versionedLine className version line) = tag? line := by
    intro line inBody
    -- a version makes no tag of another line, and none of the tags has a call in it
    rcases hasTags line inBody with plain | isTag
    · rw [plain]
      exact (inserted_versionedLine className version line).tag?_eq_none
        (newStart_isPrefix className) free plain
    · rw [versionedLine_of_tag className version isTag]
  exact selfClosed.map kept

theorem closed_partsOf (untagged : unit.Untagged) (sdkUntagged : ∀ u ∈ sdk, u.Untagged)
    {parts : ComponentParts} (built : partsOf config sdk unit = .ok parts) :
    Closed parts.sections := by
  obtain ⟨cls, isClass, compiled⟩ := exists_compiled_of_partsOf built
  obtain ⟨comment, isComment, introduced⟩ := compiled.about
  obtain ⟨mark, own, isMark, ofConstructor, isConstructor⟩ := compiled.constructor
  obtain ⟨module?, named, ofRuntime⟩ := compiled.runtime
  rw [ComponentParts.sections, isConstructor]
  refine (((((Closed.append ?_ ?_).append ?_).append ?_).append ?_).append ?_).append ?_
  · exact closed_about (untagged.requiredClassComment isComment) introduced
  · exact closed_withVersion (not_mem_of_versionMark isMark)
      (closed_constructorSection untagged ofConstructor)
  · exact closed_interfaceGroup untagged compiled.arguments
  · exact closed_properties untagged compiled.properties
  · exact closed_sdkSections untagged (untagged_of_sdkOf? sdkUntagged named) ofRuntime
  · exact closed_methods untagged compiled.methods
  · exact closed_interfaceGroup untagged compiled.interfaces

/-! ## All pages of units -/

theorem closed_ofUnit? (untagged : unit.Untagged) (allUntagged : ∀ u ∈ units, u.Untagged)
    (sdkUntagged : ∀ u ∈ sdk, u.Untagged)
    (built : ofUnit? config sdk units unit = .ok (some page)) : Closed page.sections := by
  obtain ⟨family, -, builtBy⟩ := exists_builtBy_of_ofUnit? built
  cases builtBy with
  | global ofGlobal => exact closed_ofGlobal untagged allUntagged ofGlobal
  | config ofConfig => exact closed_ofConfig untagged ofConfig
  | dns ofDns => exact closed_helperSections untagged (helperSections_of_ofDns ofDns)
  | linkable ofLinkable =>
    exact closed_helperSections untagged (helperSections_of_ofLinkable ofLinkable)
  | component ofComponent =>
    obtain ⟨parts, ofParts, sameSections⟩ := exists_of_ofComponent ofComponent
    rw [sameSections]
    exact closed_partsOf untagged sdkUntagged ofParts

end Page

/-! ## Pages of command lines -/

namespace Command

mutual
def descriptions : Command → List String
  | ⟨_, description, arguments, flags, children, _⟩ =>
    description :: arguments.map Argument.description ++ flags.map Flag.description
      ++ descriptionsOfAll children

def descriptionsOfAll : List Command → List String
  | [] => []
  | c :: cs => c.descriptions ++ descriptionsOfAll cs
end

theorem descriptionsOfAll_eq (cs : List Command) :
    descriptionsOfAll cs = cs.flatMap descriptions := by
  induction cs with
  | nil => rfl
  | cons c cs inductionHypothesis => exact congrArg _ inductionHypothesis

/-- A command below which no description is a tag. -/
def Untagged (c : Command) : Prop := ∀ text ∈ c.descriptions, tag? text = none
deriving Decidable

namespace Untagged

variable {c : Command}

theorem description (untagged : c.Untagged) : tag? c.description = none := by
  cases c
  exact untagged _ (by simp [descriptions])

theorem flag (untagged : c.Untagged) {f : Flag} (member : f ∈ c.flags) :
    tag? f.description = none := by
  cases c
  refine untagged _ ?_
  simp only [descriptions, List.mem_append]
  exact .inl (.inr (List.mem_map_of_mem member))

theorem visibleChild (untagged : c.Untagged) {s : Command} (member : s ∈ c.visibleChildren) :
    s.Untagged := by
  cases c
  refine fun text inChild => untagged text ?_
  simp only [descriptions, descriptionsOfAll_eq, List.mem_append, List.mem_flatMap]
  exact .inr ⟨s, List.mem_of_mem_filter member, inChild⟩

end Untagged

open Section (Closed closed_nil leads_segment leads_endSegment)

theorem selfClosed_usageBlock (usage : String) : SelfClosed (usageBlock usage) := fun _ =>
  .opens rfl (.plain rfl (.plain (tag?_append_eq_none (by decide) _)
    (.plain rfl (.closes rfl .nil))))

theorem selfClosed_parameterBlock {title : String} {lines : List String}
    (titlePlain : tag? title = none) (plain : ∀ line ∈ lines, tag? line = none) :
    SelfClosed (parameterBlock title lines) := by
  unfold parameterBlock
  split
  · exact .nil
  · intro elements
    have opens : Leads elements ["<Section type=\"parameters\">", title] (.block :: elements) :=
      .opens rfl (.plain titlePlain .nil)
    exact opens.followedBy (.of_plain plain) |>.append (.closes rfl .nil)

theorem selfClosed_spaced {block : List String} (closed : SelfClosed block) :
    SelfClosed (spaced block) := by
  unfold spaced
  split
  · exact .nil
  · exact .cons rfl closed

/-- An item of a list of arguments or flags, with its description. -/
theorem tag?_of_mem_itemLines (shown description : String) :
    ∀ line ∈ itemLines shown description, tag? line = none := by
  simp only [itemLines, String.append_assoc, List.forall_mem_cons]
  exact ⟨tag?_append_eq_none (by decide) _,
    tag?_append_eq_none (by decide) _, nofun⟩

theorem tag?_of_mem_items {α : Type} (shown description : α → String) (xs : List α) :
    ∀ line ∈ xs.flatMap fun x => itemLines (shown x) (description x), tag? line = none := by
  intro line member
  obtain ⟨x, -, isLine⟩ := List.mem_flatMap.mp member
  exact tag?_of_mem_itemLines _ _ line isLine

theorem selfClosed_subcommandBlock (c : Command) : SelfClosed c.subcommandBlock := by
  unfold subcommandBlock
  split
  · exact .nil
  · intro elements
    have plain : ∀ line ∈ c.visibleChildren.map (fun s =>
        "- <p>[" ++ Markup.code "key" s.name ++ "](#" ++ c.anchorOf s ++ ")</p>"),
        tag? line = none := by
      intro line member
      obtain ⟨s, -, rfl⟩ := List.mem_map.mp member
      simp only [String.append_assoc]
      exact tag?_append_eq_none (by decide) _
    have opens : Leads elements ["", "<Section type=\"parameters\">", "#### Subcommands"]
        (.block :: elements) := .plain rfl (.opens rfl (.plain rfl .nil))
    exact opens.followedBy (.of_plain plain) |>.append (.closes rfl .nil)

theorem selfClosed_body {c : Command} (untagged : c.Untagged) : SelfClosed c.body := by
  intro elements
  have usage : SelfClosed (if c.children.isEmpty then usageBlock c.usage else []) := by
    split
    · exact selfClosed_usageBlock c.usage
    · exact .nil
  exact leads_segment elements
    |>.followedBy usage
    |>.followedBy (selfClosed_spaced (selfClosed_parameterBlock rfl (tag?_of_mem_items _ _ _)))
    |>.followedBy (selfClosed_spaced (selfClosed_parameterBlock rfl (tag?_of_mem_items _ _ _)))
    |>.followedBy c.selfClosed_subcommandBlock
    |>.append (.plain untagged.description (.closes rfl .nil))

theorem selfClosed_subcommandSection (c : Command) {s : Command} (untagged : s.Untagged) :
    SelfClosed (c.subcommandSection s).body := fun elements =>
  leads_segment elements
    |>.followedBy (selfClosed_usageBlock _)
    |>.followedBy (selfClosed_parameterBlock rfl (tag?_of_mem_items _ _ _))
    |>.followedBy (selfClosed_parameterBlock rfl (tag?_of_mem_items _ _ _))
    |>.append (.plain untagged.description (.closes rfl .nil))

theorem selfClosed_globalFlag {f : Flag} (plain : tag? f.description = none) :
    SelfClosed (globalFlag f).body := fun _ =>
  .opens rfl (.opens rfl (.opens rfl (.plain (tag?_append_eq_none (by decide) _)
    (.closes rfl (.closes rfl (.plain plain (.closes rfl .nil)))))))

theorem closed_commandSections {c : Command} (untagged : c.Untagged) :
    Closed c.commandSections := by
  refine .cons (selfClosed_body untagged) fun section_ member => ?_
  obtain ⟨s, visible, rfl⟩ := List.mem_map.mp member
  exact selfClosed_subcommandSection c (untagged.visibleChild visible)

theorem closed_sections {root : Command} (untagged : root.Untagged) : Closed root.sections := by
  have about : SelfClosed
      ["", "<Section type=\"about\">", root.description, "</Section>", "", "---"] := fun _ =>
    .plain rfl (.opens rfl (.plain untagged.description (.closes rfl
      (.plain rfl (.plain rfl .nil)))))
  have ofHeading : ∀ (isEmpty : Bool) (title : String),
      Closed (if isEmpty then [] else [Section.headingOnly title 2]) := by
    intro isEmpty title
    cases isEmpty with
    | true => exact closed_nil
    | false => exact .cons .nil closed_nil
  refine ((((Closed.cons about closed_nil).append (ofHeading _ _)).append ?_).append
    (ofHeading _ _)).append ?_
  · intro s member
    obtain ⟨f, isFlag, rfl⟩ := List.mem_map.mp member
    exact selfClosed_globalFlag (untagged.flag isFlag)
  · intro s member
    obtain ⟨c, visible, inCommand⟩ := List.mem_flatMap.mp member
    exact closed_commandSections (untagged.visibleChild visible) s inCommand

end Command

namespace Page

/-- The tags in the bodies of the sections of a page are balanced, for the pages of units whose
comments have no line that is a tag, and for the page of a command line whose descriptions are no
tags. -/
theorem balanced_pages :
    (∀ (config : SiteConfig) (sdk units : List DocUnit) (only : Option String) (pages : List Page),
      (∀ u ∈ sdk ++ units, u.Untagged) → buildAll config sdk units only = .ok pages →
      ∀ page ∈ pages, ∀ s ∈ page.sections, Balanced s.body) ∧
    ∀ root : Command, root.Untagged → ∀ s ∈ (ofCommands root).sections, Balanced s.body := by
  constructor
  · intro config sdk units only pages untagged built page member s isSection
    rw [List.forall_mem_append] at untagged
    obtain ⟨unit, isUnit, ofUnit⟩ := exists_of_mem_buildAll built member
    exact (closed_ofUnit? (untagged.2 unit isUnit) untagged.2 untagged.1 ofUnit s
      isSection).balanced
  · intro root untagged s isSection
    exact (Command.closed_sections untagged s isSection).balanced

/-- A comment that names a tag in its summary, with a default value and an example. -/
def remark : DocComment where
  summary := [⟨.text "text", .text "Set in a `<Segment>`."⟩]
  blockTags :=
    [⟨.text "@default", [⟨.text "code", .text "`app`"⟩]⟩,
      ⟨.text "@example", [⟨.text "code", .text "```ts\nname\n```"⟩]⟩]
  modifierTags := TagSet.empty

def remarkUnit : DocUnit where
  name := .text "config"
  declarations :=
    [.bare "Config" .interfaceDecl none
      [{ Declaration.url with comment := some remark }]]
  sourcePath := some (.text "platform/src/config.ts")
  comment := some remark

theorem untagged_remarkUnit : remarkUnit.Untagged := by
  have comments : remarkUnit.comments = [remark, remark] := rfl
  have untagged : remark.Untagged := .of_texts (by decide +kernel)
  intro c member
  rw [comments] at member
  simp only [List.mem_cons, List.not_mem_nil, or_false, or_self] at member
  rw [member]
  exact untagged

theorem remark_pages_titled :
    (buildAll .standard [] [remarkUnit] none).map
      (List.map fun page => page.sections.map Section.title) = .ok [["", "Config", "url"]] := rfl

/-- The page of the configuration, and that of a command line with one command. -/
theorem balanced_pages_remark :
    ∃ pages, buildAll .standard [] [remarkUnit] none = .ok pages ∧
      pages.map (fun page => page.sections.map Section.title) = [["", "Config", "url"]] ∧
      (∀ page ∈ pages, ∀ s ∈ page.sections, Balanced s.body) ∧
      ∀ s ∈ (ofCommands secretRoot).sections, Balanced s.body := by
  obtain ⟨pages, built, titles⟩ := exists_of_map_eq_ok remark_pages_titled
  have untagged : ∀ u ∈ [] ++ [remarkUnit], u.Untagged :=
    List.forall_mem_singleton.mpr untagged_remarkUnit
  have described : secretRoot.Untagged := by decide +kernel
  exact ⟨pages, built, titles, balanced_pages.1 _ _ _ _ _ untagged built,
    balanced_pages.2 _ described⟩

end Page

end DocPress
