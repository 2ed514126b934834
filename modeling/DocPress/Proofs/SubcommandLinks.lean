import DocPress.Proofs.BalancedPages
import DocPress.Proofs.SubcommandAnchors

/-! # The links to subcommands

The section of a command lists links to its subcommands, and a section for each of these follows.
Lists and sections are made apart from each other, so they are compared here as they stand on the
page: the lines of a list, and the sections of level 4 below a section of level 3.

* `Section.listUnder`: the lines of the list under a title in a body.
* `Section.withFollowers`: the sections of level 3 with the sections of level 4 that follow each.
* `Command.Documents`: what a section of level 3 and the sections that follow it show of a command.
* `Command.links_reach_sections`: how the links and the sections of a page correspond. -/

set_option autoImplicit false

namespace DocPress

namespace Section

/-! ## Lists in a body -/

/-- The line that a list of parameters starts with. -/
def listStart : String := "<Section type=\"parameters\">"

def listEnd : String := "</Section>"

/-- The lines of the first list under a title. -/
def listUnder (title : String) : List String → List String
  | start :: next :: lines =>
    if start = listStart ∧ next = title then lines.takeWhile fun line => line ≠ listEnd
    else listUnder title (next :: lines)
  | _ => []

/-- No list under a title starts in some lines, whatever follows them. -/
def PassedOver (title : String) (lines : List String) : Prop :=
  ∀ rest, listUnder title (lines ++ rest) = listUnder title rest

variable {title : String}

theorem listUnder_cons_of_ne {line : String} (notStart : line ≠ listStart) (lines : List String) :
    listUnder title (line :: lines) = listUnder title lines := by
  cases lines with
  | nil => rfl
  | cons next lines => rw [listUnder, if_neg fun starts => notStart starts.1]

theorem listUnder_start (lines rest : List String) (noEnd : ∀ line ∈ lines, line ≠ listEnd) :
    listUnder title (listStart :: title :: (lines ++ listEnd :: rest)) = lines := by
  rw [listUnder, if_pos ⟨rfl, rfl⟩,
    List.takeWhile_append_of_pos fun line member => decide_eq_true (noEnd line member),
    List.takeWhile_cons_of_neg (by simp), List.append_nil]

namespace PassedOver

theorem nil : PassedOver title [] := fun _ => rfl

theorem append {first second : List String} (ofFirst : PassedOver title first)
    (ofSecond : PassedOver title second) : PassedOver title (first ++ second) := fun rest => by
  rw [List.append_assoc, ofFirst, ofSecond]

theorem cons {line : String} {lines : List String} (notStart : line ≠ listStart)
    (others : PassedOver title lines) : PassedOver title (line :: lines) := fun rest => by
  rw [List.cons_append, listUnder_cons_of_ne notStart, others]

theorem of_plain {lines : List String} (plain : ∀ line ∈ lines, tag? line = none) :
    PassedOver title lines := by
  induction lines with
  | nil => exact nil
  | cons line lines inductionHypothesis =>
    obtain ⟨first, others⟩ := List.forall_mem_cons.mp plain
    refine cons (fun isStart => ?_) (inductionHypothesis others)
    rw [isStart] at first
    exact absurd first (by decide)

/-- A list under another title. -/
theorem start {other : String} {lines : List String} (different : other ≠ title)
    (others : PassedOver title (other :: lines)) :
    PassedOver title (listStart :: other :: lines) := fun rest => by
  rw [List.cons_append, List.cons_append, listUnder, if_neg fun starts => different starts.2]
  exact others rest

end PassedOver

/-! ## Sections that follow a section -/

/-- The sections of level 3, each with the sections of level 4 that directly follow it. -/
def withFollowers : List Section → List (Section × List Section)
  | [] => []
  | s :: rest =>
    if s.level = 3 then (s, rest.takeWhile fun t => t.level = 4) :: withFollowers rest
    else withFollowers rest

theorem withFollowers_append_of_ne {sections : List Section}
    (notThree : ∀ s ∈ sections, s.level ≠ 3) (rest : List Section) :
    withFollowers (sections ++ rest) = withFollowers rest := by
  induction sections with
  | nil => rfl
  | cons s sections inductionHypothesis =>
    obtain ⟨first, others⟩ := List.forall_mem_cons.mp notThree
    rw [List.cons_append, withFollowers, if_neg first, inductionHypothesis others]

/-- A line is a link to the anchor of a section, and shows the title of the section. -/
def LinksTo (line : String) (s : Section) : Prop :=
  ∃ anchor, s.anchor = some anchor ∧
    line = "- <p>[" ++ Markup.code "key" s.title ++ "](#" ++ anchor ++ ")</p>"

end Section

namespace Command

open Section (listStart listEnd listUnder PassedOver withFollowers LinksTo)

def listTitle : String := "#### Subcommands"

def linkTo (c s : Command) : String :=
  "- <p>[" ++ Markup.code "key" s.name ++ "](#" ++ c.anchorOf s ++ ")</p>"

theorem linksTo_linkTo (c s : Command) : LinksTo (c.linkTo s) (c.subcommandSection s) :=
  ⟨c.anchorOf s, rfl, rfl⟩

/-! ## The list in the section of a command -/

theorem passedOver_usageBlock (usage : String) : PassedOver listTitle (usageBlock usage) := by
  have call : ∀ line ∈ ["sst " ++ usage], tag? line = none :=
    List.forall_mem_singleton.mpr (tag?_append_eq_none (by decide) usage)
  have before : PassedOver listTitle ["<Section type=\"signature\">", "```sh frame=\"none\""] :=
    .cons (by decide) (.cons (by decide) .nil)
  have after : PassedOver listTitle ["```", "</Section>"] :=
    .cons (by decide) (.cons (by decide) .nil)
  exact (before.append (.of_plain call)).append after

/-- A list of arguments or flags. -/
theorem passedOver_items {α : Type} {title : String} (different : title ≠ listTitle)
    (plain : tag? title = none) (shown description : α → String) (xs : List α) :
    PassedOver listTitle
      (parameterBlock title (xs.flatMap fun x => itemLines (shown x) (description x))) := by
  unfold parameterBlock
  split
  · exact .nil
  · have items : ∀ line ∈ title :: xs.flatMap fun x => itemLines (shown x) (description x),
        tag? line = none :=
      List.forall_mem_cons.mpr ⟨plain, tag?_of_mem_items shown description xs⟩
    have ending : PassedOver listTitle [listEnd] := .cons (by decide) .nil
    exact (PassedOver.start different (.of_plain items)).append ending

theorem passedOver_spaced {block : List String} (passedOver : PassedOver listTitle block) :
    PassedOver listTitle (spaced block) := by
  unfold spaced
  split
  · exact .nil
  · exact .cons (by decide) passedOver

/-- A description at the end of a body starts no list, as no title follows it. -/
theorem listUnder_ending (description : String) :
    listUnder listTitle [description, "</Segment>"] = [] := by
  rw [listUnder, if_neg fun starts => absurd starts.2 (by decide)]
  rfl

theorem listUnder_subcommandBlock (c : Command) :
    listUnder listTitle (c.subcommandBlock ++ [c.description, "</Segment>"]) =
      c.visibleChildren.map c.linkTo := by
  unfold subcommandBlock
  split
  next noChildren =>
    rw [List.nil_append, listUnder_ending, visibleChildren, List.isEmpty_iff.mp noChildren]
    rfl
  next =>
    have noEnd : ∀ line ∈ c.visibleChildren.map c.linkTo, line ≠ listEnd := by
      intro line member isEnd
      obtain ⟨s, -, rfl⟩ := List.mem_map.mp member
      have plain : tag? (c.linkTo s) = none := by
        simp only [linkTo, String.append_assoc]
        exact tag?_append_eq_none (by decide) _
      rw [isEnd] at plain
      exact absurd plain (by decide)
    rw [List.append_assoc, List.append_assoc]
    show listUnder listTitle ("" :: listStart :: listTitle ::
      (c.visibleChildren.map c.linkTo ++ listEnd :: [c.description, "</Segment>"])) = _
    rw [Section.listUnder_cons_of_ne (by decide), Section.listUnder_start _ _ noEnd]

/-- The list of subcommands in the section of a command has a link to each visible one. -/
theorem listUnder_body (c : Command) :
    listUnder listTitle c.body = c.visibleChildren.map c.linkTo := by
  have usage : PassedOver listTitle (if c.children.isEmpty then usageBlock c.usage else []) := by
    split
    · exact passedOver_usageBlock c.usage
    · exact .nil
  have arguments := passedOver_items (by decide : "#### Args" ≠ listTitle) rfl
    (fun a : Argument => Markup.code "key" a.label) Argument.description c.arguments
  have flags := passedOver_items (by decide : "#### Flags" ≠ listTitle) rfl
    (fun f : Flag => Markup.code "key" f.name ++ " " ++ Flag.renderType f.type)
    Flag.description c.flags
  have start : PassedOver listTitle ["<Segment>"] := .cons (by decide) .nil
  rw [body, List.append_assoc _ c.subcommandBlock]
  exact (((start.append usage).append (passedOver_spaced arguments)).append
    (passedOver_spaced flags) _).trans (listUnder_subcommandBlock c)

/-! ## Other sections -/

theorem listUnder_subcommandSection (c s : Command) :
    listUnder listTitle (c.subcommandSection s).body = [] := by
  have arguments := passedOver_items (by decide : "#### Args" ≠ listTitle) rfl
    (fun a : Argument => Markup.code "key" a.name) Argument.description s.arguments
  have flags := passedOver_items (by decide : "#### Flags" ≠ listTitle) rfl
    (fun f : Flag => Markup.code "key" f.name) Flag.description s.flags
  have start : PassedOver listTitle ["<Segment>"] := .cons (by decide) .nil
  exact (((start.append (passedOver_usageBlock (c.name ++ " " ++ s.usage))).append
    arguments).append flags _).trans (listUnder_ending s.description)

theorem listUnder_globalFlag (f : Flag) : listUnder listTitle (globalFlag f).body = [] := by
  have type : ∀ line ∈ ["**Type** " ++ Flag.renderType f.type], tag? line = none :=
    List.forall_mem_singleton.mpr (tag?_append_eq_none (by decide) _)
  have opening : PassedOver listTitle ["<Segment>", listStart, "<InlineSection>"] :=
    .cons (by decide) (.start (by decide) (.cons (by decide) .nil))
  have closing : PassedOver listTitle ["</InlineSection>", listEnd] :=
    .cons (by decide) (.cons (by decide) .nil)
  exact ((opening.append (.of_plain type)).append closing _).trans
    (listUnder_ending f.description)

/-- No section before those of the commands has a list of subcommands. -/
theorem listUnder_front {root : Command} {s : Section} (member : s ∈ root.front ++ root.heading) :
    listUnder listTitle s.body = [] := by
  rcases List.mem_append.mp member with isFront | isHeading
  · rcases List.mem_append.mp isFront with isBefore | isFlag
    · rcases List.mem_append.mp isBefore with isAbout | isHeading
      · cases List.mem_singleton.mp isAbout
        have opening : PassedOver listTitle ["", "<Section type=\"about\">"] :=
          .cons (by decide) (.cons (by decide) .nil)
        refine (opening [root.description, "</Section>", "", "---"]).trans ?_
        rw [listUnder, if_neg fun starts => absurd starts.2 (by decide)]
        rfl
      · split at isHeading
        · contradiction
        · cases List.mem_singleton.mp isHeading
          rfl
    · obtain ⟨f, -, rfl⟩ := List.mem_map.mp isFlag
      exact listUnder_globalFlag f
  · unfold heading at isHeading
    split at isHeading
    · contradiction
    · cases List.mem_singleton.mp isHeading
      rfl

/-! ## The sections of commands -/

def ownSection (c : Command) : Section := { title := c.name, level := 3, body := c.body }

theorem withFollowers_commandSections (cs : List Command) :
    withFollowers (cs.flatMap commandSections) =
      cs.map fun c => (c.ownSection, c.visibleChildren.map c.subcommandSection) := by
  induction cs with
  | nil => rfl
  | cons c cs inductionHypothesis =>
    have levels : ∀ s ∈ c.visibleChildren.map c.subcommandSection, s.level = 4 := by
      intro s member
      obtain ⟨sub, -, rfl⟩ := List.mem_map.mp member
      rfl
    have stops : (cs.flatMap commandSections).takeWhile (fun t => t.level = 4) = [] := by
      cases cs with
      | nil => rfl
      | cons next cs => rfl
    have followers : (c.visibleChildren.map c.subcommandSection ++
        cs.flatMap commandSections).takeWhile (fun t => t.level = 4) =
        c.visibleChildren.map c.subcommandSection := by
      rw [List.takeWhile_append_of_pos fun s member => decide_eq_true (levels s member), stops,
        List.append_nil]
    have others := Section.withFollowers_append_of_ne (fun s member => by
      rw [levels s member]
      decide) (cs.flatMap commandSections)
    rw [List.flatMap_cons, commandSections, List.cons_append, withFollowers, if_pos rfl, followers,
      others, inductionHypothesis]
    rfl

/-- A section of level 3 and the sections of level 4 after it show a command: the former is titled
by the command, each of the latter by a visible subcommand, in order, and the former lists exactly
the links to the latter. -/
structure Documents (c : Command) (block : Section × List Section) : Prop where
  title : block.1.title = c.name
  subcommands : List.Forall₂ (fun s section_ => section_.title = s.name ∧
    section_.anchor = some (c.name ++ "-" ++ s.name) ∧ section_.parent = some (c.name ++ " "))
    c.visibleChildren block.2
  links : List.Forall₂ LinksTo (listUnder listTitle block.1.body) block.2

theorem documents_commandSections (c : Command) :
    c.Documents (c.ownSection, c.visibleChildren.map c.subcommandSection) where
  title := rfl
  subcommands := by
    rw [List.forall₂_map_right_iff, List.forall₂_same]
    exact fun s _ => ⟨rfl, rfl, rfl⟩
  links := by
    show List.Forall₂ LinksTo (listUnder listTitle c.body) _
    rw [listUnder_body, List.forall₂_map_left_iff, List.forall₂_map_right_iff, List.forall₂_same]
    exact fun s _ => linksTo_linkTo c s

theorem sections_eq (root : Command) : root.sections =
    root.front ++ root.heading ++ root.visibleChildren.flatMap commandSections := by
  rw [List.append_assoc]
  exact Page.sections_ofCommands root

/-- The sections of a page that have a list of subcommands are those of the visible commands. -/
theorem mem_listUnder_iff {root : Command} {line : String} :
    (∃ s ∈ root.sections, line ∈ listUnder listTitle s.body) ↔
      ∃ c ∈ root.visibleChildren, ∃ s ∈ c.visibleChildren, line = c.linkTo s := by
  rw [sections_eq]
  constructor
  · rintro ⟨s, isSection, inList⟩
    rcases List.mem_append.mp isSection with isBefore | isOfCommand
    · rw [listUnder_front isBefore] at inList
      contradiction
    · obtain ⟨c, visible, ofCommand⟩ := List.mem_flatMap.mp isOfCommand
      rcases List.mem_cons.mp ofCommand with rfl | ofSub
      · obtain ⟨sub, isSub, rfl⟩ := List.mem_map.mp (listUnder_body c ▸ inList)
        exact ⟨c, visible, sub, isSub, rfl⟩
      · obtain ⟨sub, -, rfl⟩ := List.mem_map.mp ofSub
        rw [listUnder_subcommandSection] at inList
        contradiction
  · rintro ⟨c, visible, s, isSub, rfl⟩
    refine ⟨c.ownSection, List.mem_append_right _ (List.mem_flatMap_of_mem visible ?_), ?_⟩
    · exact List.mem_cons_self
    · exact listUnder_body c ▸ List.mem_map_of_mem isSub

/-- The sections of a page that have an anchor are those of the visible subcommands of visible
commands. -/
theorem exists_subcommand_of_anchor {root : Command} {target : Section}
    (isSection : target ∈ root.sections) (anchored : target.anchor ≠ none) :
    ∃ c ∈ root.visibleChildren, ∃ s ∈ c.visibleChildren, target = c.subcommandSection s := by
  rw [sections_eq] at isSection
  rcases List.mem_append.mp isSection with isBefore | isOfCommand
  · have noAnchors : Section.anchors (root.front ++ root.heading) = [] := by
      rw [Section.anchors_append, anchors_front, anchors_heading, List.append_nil]
    exact absurd (Section.anchors_eq_nil_iff.mp noAnchors _ isBefore) anchored
  · obtain ⟨c, visible, ofCommand⟩ := List.mem_flatMap.mp isOfCommand
    rcases List.mem_cons.mp ofCommand with rfl | ofSub
    · exact absurd rfl anchored
    · obtain ⟨s, isSub, rfl⟩ := List.mem_map.mp ofSub
      exact ⟨c, visible, s, isSub, rfl⟩

theorem subcommandSection_mem_sections {root c s : Command} (visible : c ∈ root.visibleChildren)
    (isSub : s ∈ c.visibleChildren) : c.subcommandSection s ∈ root.sections := by
  rw [sections_eq]
  refine List.mem_append_right _ (List.mem_flatMap_of_mem visible ?_)
  exact List.mem_cons_of_mem _ (List.mem_map_of_mem isSub)

/-- After the introduction, the global flags and the heading of the commands, the page of a command
line has a section of level 3 for each visible command, in order, and no other. It lists links to
exactly the sections of level 4 that directly follow it, in order, and these are those of the
visible subcommands, in order. So each line in a list of subcommands leads to a section of the page,
and a line leads to each section that has an anchor. -/
theorem links_reach_sections (root : Command) :
    ∃ commands, root.sections = root.front ++ root.heading ++ commands ∧
      commands = (withFollowers commands).flatMap (fun block => block.1 :: block.2) ∧
      List.Forall₂ Documents root.visibleChildren (withFollowers commands) ∧
      (∀ s ∈ root.sections, ∀ line ∈ listUnder listTitle s.body,
        ∃ target ∈ root.sections, LinksTo line target) ∧
      ∀ target ∈ root.sections, target.anchor ≠ none →
        ∃ s ∈ root.sections, ∃ line ∈ listUnder listTitle s.body, LinksTo line target := by
  refine ⟨_, sections_eq root, ?_, ?_, ?_, ?_⟩
  · rw [withFollowers_commandSections, List.flatMap_map]
    rfl
  · rw [withFollowers_commandSections, List.forall₂_map_right_iff, List.forall₂_same]
    exact fun c _ => documents_commandSections c
  · intro s isSection line inList
    obtain ⟨c, visible, sub, isSub, rfl⟩ := mem_listUnder_iff.mp ⟨s, isSection, inList⟩
    exact ⟨_, subcommandSection_mem_sections visible isSub, linksTo_linkTo c sub⟩
  · intro target isSection anchored
    obtain ⟨c, visible, sub, isSub, rfl⟩ := exists_subcommand_of_anchor isSection anchored
    obtain ⟨s, isOwn, inList⟩ := mem_listUnder_iff.mpr ⟨c, visible, sub, isSub, rfl⟩
    exact ⟨s, isOwn, _, inList, linksTo_linkTo c sub⟩

end Command

end DocPress
