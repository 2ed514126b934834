import DocPress.Proofs.HiddenCommands
import DocPress.Proofs.PlainSections
import Mathlib.Data.List.Nodup
import Mathlib.Data.List.Pairwise

/-! # The anchors of subcommands

The anchor of a subcommand is put together from the names of its command and its own, with a hyphen
between them. Both names may have hyphens in them, so two subcommands of different commands can have
one anchor, although the names of siblings differ.

* `Command.Distinct`: a tree in which siblings have different names.
* `Command.Overlaps`: how two subcommands come to the same anchor.
* `Command.nodup_anchors_iff`: when no two sections of the page have the same anchor. -/

set_option autoImplicit false

namespace DocPress.Command

variable {root c c' s s' : Command}

/-- A command of which no two children, and no two children of a command below it, have the same
name. -/
inductive Distinct : Command → Prop
  | intro {c : Command} (names : (c.children.map name).Nodup)
      (below : ∀ s ∈ c.children, Distinct s) : Distinct c

theorem Distinct.nodup_visibleChildren (distinct : c.Distinct) :
    (c.visibleChildren.map name).Nodup := by
  cases distinct with
  | intro names => exact names.sublist (List.filter_sublist.map name)

theorem Distinct.of_visible (distinct : c.Distinct) (visible : s ∈ c.visibleChildren) :
    s.Distinct := by
  cases distinct with
  | intro _ below => exact below s (List.mem_of_mem_filter visible)

/-! ## Names with hyphens -/

/-- The name of the second command is that of the first one, a hyphen and some text; and the
subcommand of the first one is named by this text, a hyphen and the name of the subcommand of the
second. -/
def Overlaps (c s c' s' : Command) : Prop :=
  ∃ between, c'.name = c.name ++ "-" ++ between ∧ s.name = between ++ "-" ++ s'.name

theorem Overlaps.anchorOf_eq (overlaps : Overlaps c s c' s') : c.anchorOf s = c'.anchorOf s' := by
  obtain ⟨between, isLonger, isSub⟩ := overlaps
  simp only [anchorOf, isLonger, isSub, String.append_assoc]

theorem Overlaps.name_ne (overlaps : Overlaps c s c' s') : c.name ≠ c'.name := by
  obtain ⟨between, isLonger, -⟩ := overlaps
  intro same
  rw [isLonger, String.append_assoc] at same
  have lengths := congrArg String.length same
  simp only [String.length_append] at lengths
  have hyphen : "-".length = 1 := rfl
  omega

/-- Where the name of one command starts with that of another one, a common anchor is one of the
same names, or of names that overlap. -/
theorem eq_or_overlaps {more : List Char} (isLonger : c'.name.toList = c.name.toList ++ more)
    (sameRest : '-' :: s.name.toList = more ++ '-' :: s'.name.toList) :
    (c.name = c'.name ∧ s.name = s'.name) ∨ Overlaps c s c' s' := by
  cases more with
  | nil =>
    rw [List.append_nil] at isLonger
    exact .inl ⟨String.toList_inj.mp isLonger.symm, String.toList_inj.mp (List.cons.inj sameRest).2⟩
  | cons hyphen between =>
    obtain ⟨rfl, isSub⟩ := List.cons.inj sameRest
    refine .inr ⟨String.ofList between, ?_, ?_⟩
    · rw [← String.toList_inj, isLonger]
      simp
    · rw [← String.toList_inj, isSub]
      simp

/-- Subcommands with the same anchor have the same names, as have their commands, unless the names
overlap. -/
theorem anchorOf_eq_iff : c.anchorOf s = c'.anchorOf s' ↔
    (c.name = c'.name ∧ s.name = s'.name) ∨ Overlaps c s c' s' ∨ Overlaps c' s' c s := by
  constructor
  · intro same
    have sameList : c.name.toList ++ '-' :: s.name.toList =
        c'.name.toList ++ '-' :: s'.name.toList := by
      simpa [anchorOf] using congrArg String.toList same
    rcases List.append_eq_append_iff.mp sameList with
      ⟨more, isLonger, sameRest⟩ | ⟨more, isLonger, sameRest⟩
    · exact (eq_or_overlaps isLonger sameRest).imp_right .inl
    · exact (eq_or_overlaps isLonger sameRest).imp (fun same => ⟨same.1.symm, same.2.symm⟩) .inr
  · rintro (⟨sameCommand, sameSub⟩ | overlaps | overlaps)
    · rw [anchorOf, anchorOf, sameCommand, sameSub]
    · exact overlaps.anchorOf_eq
    · exact overlaps.anchorOf_eq.symm

/-! ## The anchors of a page -/

theorem anchors_commandSections (c : Command) :
    Section.anchors c.commandSections = c.visibleChildren.map c.anchorOf := by
  have subcommands : Section.anchor ∘ c.subcommandSection = some ∘ c.anchorOf := rfl
  rw [commandSections, Section.anchors_cons_of_none rfl, Section.anchors, List.filterMap_map,
    subcommands, List.filterMap_eq_map]

theorem anchors_front (root : Command) : Section.anchors root.front = [] := by
  refine Section.anchors_eq_nil_iff.mpr fun s member => ?_
  rcases List.mem_append.mp member with isBefore | isFlag
  · rcases List.mem_append.mp isBefore with isAbout | isHeading
    · cases List.mem_singleton.mp isAbout
      rfl
    · split at isHeading
      · contradiction
      · cases List.mem_singleton.mp isHeading
        rfl
  · obtain ⟨f, -, rfl⟩ := List.mem_map.mp isFlag
    rfl

theorem anchors_heading (root : Command) : Section.anchors root.heading = [] := by
  unfold heading
  split <;> rfl

/-- The anchors of a page are those of the visible subcommands of visible commands. -/
theorem anchors_sections (root : Command) : Section.anchors root.sections =
    root.visibleChildren.flatMap fun c => c.visibleChildren.map c.anchorOf := by
  have ofCommands : Section.anchors (root.visibleChildren.flatMap commandSections) =
      root.visibleChildren.flatMap fun c => c.visibleChildren.map c.anchorOf := by
    rw [Section.anchors, List.filterMap_flatMap]
    exact List.flatMap_congr fun c _ => anchors_commandSections c
  rw [← ofCommands]
  change Section.anchors (Page.ofCommands root).sections = _
  rw [Page.sections_ofCommands, Section.anchors_append, Section.anchors_append, anchors_front,
    anchors_heading, List.nil_append, List.nil_append]

/-- The subcommands of one command have different anchors. -/
theorem Distinct.nodup_map_anchorOf (distinct : c.Distinct) :
    (c.visibleChildren.map c.anchorOf).Nodup := by
  have fromNames : c.visibleChildren.map c.anchorOf =
      (c.visibleChildren.map name).map fun s => c.name ++ "-" ++ s := by
    rw [List.map_map]
    rfl
  rw [fromNames]
  refine distinct.nodup_visibleChildren.map fun s s' same => ?_
  exact String.append_right_inj _ |>.mp same

/-- In a tree in which siblings have different names, no two sections of the page have the same
anchor if and only if no names of visible commands and their visible subcommands overlap. -/
theorem nodup_anchors_iff (root : Command) (distinct : root.Distinct) :
    (Section.anchors root.sections).Nodup ↔
      ∀ c ∈ root.visibleChildren, ∀ c' ∈ root.visibleChildren, ∀ s ∈ c.visibleChildren,
        ∀ s' ∈ c'.visibleChildren, ¬ Overlaps c s c' s' := by
  rw [anchors_sections, List.nodup_flatMap]
  constructor
  · rintro ⟨-, apart⟩ c isCommand c' isCommand' s isSub s' isSub' overlaps
    have symmetric : Std.Symm (Function.onFun List.Disjoint fun c : Command =>
        c.visibleChildren.map c.anchorOf) := ⟨fun _ _ => List.disjoint_symm⟩
    have different : c ≠ c' := fun same => overlaps.name_ne (congrArg name same)
    have disjoint := apart.forall isCommand isCommand' different
    refine disjoint (List.mem_map_of_mem isSub) ?_
    rw [overlaps.anchorOf_eq]
    exact List.mem_map_of_mem isSub'
  · intro noOverlaps
    refine ⟨fun c visible => (distinct.of_visible visible).nodup_map_anchorOf, ?_⟩
    have names := List.pairwise_map.mp distinct.nodup_visibleChildren
    refine names.imp_of_mem fun {c c'} isCommand isCommand' different => ?_
    intro anchor ofFirst ofOther
    obtain ⟨s, isSub, rfl⟩ := List.mem_map.mp ofFirst
    obtain ⟨s', isSub', same⟩ := List.mem_map.mp ofOther
    rcases anchorOf_eq_iff.mp same with ⟨sameName, -⟩ | overlaps | overlaps
    · exact different sameName.symm
    · exact noOverlaps c' isCommand' c isCommand s' isSub' s isSub overlaps
    · exact noOverlaps c isCommand c' isCommand' s isSub s' isSub' overlaps

/-- A visible command without arguments and flags. -/
def named (name : String) (children : List Command) : Command :=
  ⟨name, name ++ ".", [], [], children, false⟩

/-- A command `cloud` with the subcommand `api-list`, and a command `cloud-api` with another one. -/
def cloudRoot (other : String) : Command :=
  named "sst" [named "cloud" [named "api-list" []], named "cloud-api" [named other []]]

theorem distinct_cloudRoot (other : String) : (cloudRoot other).Distinct := by
  have leaf : ∀ name, (named name []).Distinct := fun _ => .intro List.nodup_nil (by simp [named])
  have parent : ∀ name child, (named name [named child []]).Distinct := fun _ child =>
    .intro (List.nodup_singleton _) (by simpa [named] using leaf child)
  refine .intro (by decide +kernel : ["cloud", "cloud-api"].Nodup) ?_
  simpa [cloudRoot, named] using ⟨parent "cloud" "api-list", parent "cloud-api" other⟩

/-- In a tree without overlaps the anchors differ. -/
theorem nodup_anchors_iff_logs :
    (cloudRoot "logs").Distinct ∧
      Section.anchors (cloudRoot "logs").sections = ["cloud-api-list", "cloud-api-logs"] ∧
      ((Section.anchors (cloudRoot "logs").sections).Nodup ↔
        ∀ c ∈ (cloudRoot "logs").visibleChildren, ∀ c' ∈ (cloudRoot "logs").visibleChildren,
          ∀ s ∈ c.visibleChildren, ∀ s' ∈ c'.visibleChildren, ¬ Overlaps c s c' s') :=
  ⟨distinct_cloudRoot "logs", rfl, nodup_anchors_iff _ (distinct_cloudRoot "logs")⟩

/-- The subcommands `api-list` of `cloud` and `list` of `cloud-api` have the same anchor. -/
theorem list_anchor_shared :
    ¬ ∀ root : Command, root.Distinct → (Section.anchors root.sections).Nodup := by
  intro nodup
  have anchors : Section.anchors (cloudRoot "list").sections =
      ["cloud-api-list", "cloud-api-list"] := rfl
  have differ := nodup (cloudRoot "list") (distinct_cloudRoot "list")
  rw [anchors] at differ
  simp at differ

end DocPress.Command
