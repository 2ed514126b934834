import DocPress.Page.OfCommands
import Mathlib.Tactic.ByContra

/-! # Hidden commands

Hidden commands have no section and no link, so one expects the page of a command line to be the
page of the tree without them. It is, but for commands all of whose subcommands are hidden: these
have a list of subcommands with nothing in it in place of their usage.

* `Command.shown`: a tree without its hidden commands.
* `Command.Conceals`: the commands all of whose subcommands are hidden.
* `Page.sections_shown_iff`: the page of a tree has the sections of the page of the tree without
  hidden commands if and only if neither the root nor a command on the page conceals all of its
  subcommands. -/

set_option autoImplicit false

namespace DocPress.Command

mutual
/-- A command without the hidden commands below it. -/
def shown : Command → Command
  | ⟨name, description, arguments, flags, children, isHidden⟩ =>
    ⟨name, description, arguments, flags, shownAmong children, isHidden⟩

/-- The commands among several that are not hidden, each without the hidden commands below it. -/
def shownAmong : List Command → List Command
  | [] => []
  | c :: cs => if c.isHidden then shownAmong cs else c.shown :: shownAmong cs
end

/-- A command that has subcommands, all of them hidden. -/
def Conceals (c : Command) : Prop := c.children ≠ [] ∧ c.visibleChildren = []

/-! ## The tree without hidden commands -/

theorem shownAmong_eq (cs : List Command) :
    shownAmong cs = (cs.filter fun c => !c.isHidden).map shown := by
  induction cs with
  | nil => rfl
  | cons c cs inductionHypothesis =>
    rw [shownAmong, inductionHypothesis]
    by_cases hidden : c.isHidden = true <;> simp [hidden]

@[simp] theorem name_shown (c : Command) : c.shown.name = c.name := by
  cases c
  rfl

@[simp] theorem description_shown (c : Command) : c.shown.description = c.description := by
  cases c
  rfl

@[simp] theorem arguments_shown (c : Command) : c.shown.arguments = c.arguments := by
  cases c
  rfl

@[simp] theorem flags_shown (c : Command) : c.shown.flags = c.flags := by
  cases c
  rfl

@[simp] theorem isHidden_shown (c : Command) : c.shown.isHidden = c.isHidden := by
  cases c
  rfl

@[simp] theorem children_shown (c : Command) : c.shown.children = c.visibleChildren.map shown := by
  cases c
  exact shownAmong_eq _

@[simp] theorem visibleChildren_shown (c : Command) :
    c.shown.visibleChildren = c.visibleChildren.map shown := by
  have noneHidden : ∀ s ∈ c.visibleChildren.map shown, (!s.isHidden) = true := by
    intro s member
    obtain ⟨s, visible, rfl⟩ := List.mem_map.mp member
    rw [isHidden_shown]
    exact (List.mem_filter.mp visible).2
  rw [visibleChildren, children_shown]
  exact List.filter_eq_self.mpr noneHidden

@[simp] theorem usage_shown (c : Command) : c.shown.usage = c.usage := by simp [usage]

/-! ## The sections of a command -/

/-- No more is shown of a subcommand than what the tree without hidden commands has of it. -/
@[simp] theorem subcommandSection_shown (c s : Command) :
    c.shown.subcommandSection s.shown = c.subcommandSection s := by
  simp [subcommandSection, anchorOf]

/-- Where nothing is concealed, it is the same whether subcommands are left or visible ones. -/
theorem isEmpty_children_shown {c : Command} (notConcealed : ¬ c.Conceals) :
    c.shown.children.isEmpty = c.children.isEmpty := by
  rw [children_shown]
  cases some : c.children with
  | nil => simp [visibleChildren, some]
  | cons s rest =>
    have visible : c.visibleChildren ≠ [] := by
      intro none
      exact notConcealed ⟨by simp [some], none⟩
    simp [visible]

theorem subcommandBlock_shown {c : Command} (notConcealed : ¬ c.Conceals) :
    c.shown.subcommandBlock = c.subcommandBlock := by
  rw [subcommandBlock, subcommandBlock, isEmpty_children_shown notConcealed]
  simp [anchorOf, Function.comp_def]

theorem body_shown {c : Command} (notConcealed : ¬ c.Conceals) : c.shown.body = c.body := by
  rw [body, body, isEmpty_children_shown notConcealed, subcommandBlock_shown notConcealed]
  simp

/-- What a section shows of a command besides its subcommands. -/
def ownBlocks (c : Command) : List String :=
  spaced (parameterBlock "#### Args"
      (c.arguments.flatMap fun a => itemLines (Markup.code "key" a.label) a.description))
    ++ spaced (parameterBlock "#### Flags"
      (c.flags.flatMap fun f =>
        itemLines (Markup.code "key" f.name ++ " " ++ Flag.renderType f.type) f.description))

theorem body_of_leaf {c : Command} (leaf : c.children = []) :
    c.body =
      ["<Segment>"] ++ usageBlock c.usage ++ c.ownBlocks ++ [c.description, "</Segment>"] := by
  simp [body, subcommandBlock, ownBlocks, leaf]

/-- A command that conceals its subcommands has an empty list of them and no usage. -/
theorem body_of_conceals {c : Command} (conceals : c.Conceals) :
    c.body = ["<Segment>"] ++ c.ownBlocks
      ++ ["", "<Section type=\"parameters\">", "#### Subcommands", "</Section>"]
      ++ [c.description, "</Segment>"] := by
  obtain ⟨some, noneVisible⟩ := conceals
  simp [body, subcommandBlock, ownBlocks, some, noneVisible]

theorem body_shown_iff (c : Command) : c.shown.body = c.body ↔ ¬ c.Conceals := by
  refine ⟨fun same conceals => ?_, body_shown⟩
  have leaf : c.shown.children = [] := by
    rw [children_shown, conceals.2, List.map_nil]
  rw [body_of_leaf leaf, body_of_conceals conceals] at same
  have lengths := congrArg List.length same
  simp [usageBlock, ownBlocks] at lengths
  omega

theorem commandSections_shown_iff (c : Command) :
    c.shown.commandSections = c.commandSections ↔ ¬ c.Conceals := by
  have subcommands : c.shown.visibleChildren.map c.shown.subcommandSection =
      c.visibleChildren.map c.subcommandSection := by
    simp [Function.comp_def]
  rw [← body_shown_iff, commandSections, commandSections, subcommands]
  simp

theorem length_commandSections_shown (c : Command) :
    c.shown.commandSections.length = c.commandSections.length := by
  simp [commandSections]

/-! ## The sections of the page -/

/-- Rows of pieces of the same lengths are equal only if all pieces are. -/
theorem flatMap_eq_flatMap_iff {α β : Type} {f g : α → List β}
    (sameLength : ∀ x, (f x).length = (g x).length) (xs : List α) :
    xs.flatMap f = xs.flatMap g ↔ ∀ x ∈ xs, f x = g x := by
  induction xs with
  | nil => simp
  | cons x xs inductionHypothesis =>
    rw [List.flatMap_cons, List.flatMap_cons, List.forall_mem_cons, ← inductionHypothesis]
    constructor
    · exact fun same => List.append_inj same (sameLength x)
    · rintro ⟨first, rest⟩
      rw [first, rest]

/-- The sections of a page before those of its commands. -/
def front (root : Command) : List Section :=
  [Section.plain
    ["", "<Section type=\"about\">", root.description, "</Section>", "", "---"]]
    ++ (if root.flags.isEmpty then [] else [Section.headingOnly "Global Flags" 2])
    ++ root.flags.map globalFlag

def heading (root : Command) : List Section :=
  if root.children.isEmpty then [] else [Section.headingOnly "Commands" 2]

theorem heading_shown_iff (root : Command) :
    root.shown.heading.length = root.heading.length ↔ ¬ root.Conceals := by
  constructor
  · rintro same ⟨some, noneVisible⟩
    simp [heading, some, noneVisible] at same
  · intro notConcealed
    rw [heading, heading, isEmpty_children_shown notConcealed]

end DocPress.Command

namespace DocPress.Page

open Command

theorem sections_ofCommands (root : Command) : (ofCommands root).sections =
    root.front ++ (root.heading ++ root.visibleChildren.flatMap commandSections) := by
  simp only [ofCommands, Command.sections, front, heading, List.append_assoc]

/-- The page of a command line has the sections of the page of the tree without hidden commands, if
neither the root nor a command on the page conceals all of its subcommands; otherwise the hidden
commands show. -/
theorem sections_shown_iff (root : Command) :
    (ofCommands root.shown).sections = (ofCommands root).sections ↔
      ∀ c, c = root ∨ c ∈ root.visibleChildren → ¬ c.Conceals := by
  have sameFront : root.shown.front = root.front := by
    simp [front]
  have sameLength : ∀ c : Command, c.shown.commandSections.length = c.commandSections.length :=
    length_commandSections_shown
  have pointwise := flatMap_eq_flatMap_iff sameLength root.visibleChildren
  simp only [commandSections_shown_iff] at pointwise
  rw [sections_ofCommands, sections_ofCommands, sameFront, List.append_cancel_left_eq,
    visibleChildren_shown, List.flatMap_map]
  constructor
  · intro same
    -- the commands take as many sections with the hidden ones as without, so the headings agree
    have lengths := congrArg List.length same
    have commands : (root.visibleChildren.flatMap fun c => c.shown.commandSections).length =
        (root.visibleChildren.flatMap commandSections).length := by
      simp only [List.length_flatMap, sameLength]
    rw [List.length_append, List.length_append, commands, Nat.add_right_cancel_iff] at lengths
    have notConcealed := (heading_shown_iff root).mp lengths
    obtain ⟨-, sections⟩ := List.append_inj same lengths
    rintro c (rfl | visible)
    · exact notConcealed
    · exact pointwise.mp sections c visible
  · intro notConcealed
    have sections := pointwise.mpr fun c visible => notConcealed c (.inr visible)
    have sameHeading : root.shown.heading = root.heading := by
      rw [heading, heading, isEmpty_children_shown (notConcealed root (.inl rfl))]
    rw [sameHeading, sections]

/-- A command `secret` whose only subcommand, `reveal`, is hidden. -/
def secretCommand : Command where
  name := "secret"
  description := "Manage secrets."
  arguments := []
  flags := []
  children := [⟨"reveal", "Reveal.", [], [], [], true⟩]
  isHidden := false

/-- The root of a command line with the command `secret`. -/
def secretRoot : Command := ⟨"sst", "The SST CLI.", [], [], [secretCommand], false⟩

/-- A hidden subcommand can take the usage of its command off the page. -/
theorem hidden_subcommand_shows :
    ¬ ∀ root : Command, (ofCommands root.shown).sections = (ofCommands root).sections := by
  intro same
  have different : (ofCommands secretRoot.shown).sections ≠ (ofCommands secretRoot).sections := by
    decide +kernel
  exact different (same secretRoot)

end DocPress.Page
