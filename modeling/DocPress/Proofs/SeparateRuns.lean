import DocPress.Proofs.RunOutcomes

/-! # Separate runs

A run for all families builds the pages that separate runs build, one for each family with a
document, in the same order.

* `Run.builtFamilies`: the families that a run for all of them builds.
* `Run.pages_all`: the run for all families as the sequence of the separate ones.
* `Run.all_iff_separate`: when it succeeds, and with which pages. -/

set_option autoImplicit false

namespace DocPress.Run

/-- The families that a run for all of them builds: that of the components, and those with a
document. -/
def builtFamilies (config : SiteConfig) : List Target :=
  families.filter fun family => family = .components ∨ (source? config family).isSome

/-- The key at which a configuration names the document of a family; all of them together have
none. -/
def documentKey : Target → String
  | .all => ""
  | .components => "components_reflection"
  | .commands => "cli_doc"
  | .commonErrors => "common_errors_doc"
  | .examples => "examples_reflection"

/-! ## Builders one after another -/

section

variable {α β : Type} {n : Type → Type} [Monad n]

/-- What is built for each of several things, one after another. -/
def inOrder (build : α → n (List β)) (xs : List α) : n (List β) := do
  return (← xs.mapM build).flatten

/-- What is built if it is wanted. -/
def ifBuilt (isBuilt : Bool) (build : n (List β)) : n (List β) := if isBuilt then build else pure []

variable [LawfulMonad n]

theorem inOrder_filter_cons (build : α → n (List β)) (isBuilt : α → Bool) (x : α) (xs : List α) :
    inOrder build ((x :: xs).filter isBuilt) = do
      let first ← ifBuilt (isBuilt x) (build x)
      let others ← inOrder build (xs.filter isBuilt)
      return first ++ others := by
  cases isWanted : isBuilt x with
  | false => simp [inOrder, ifBuilt, isWanted]
  | true => simp [inOrder, ifBuilt, isWanted]

theorem inOrder_builtFamilies (build : Target → n (List β)) (config : SiteConfig) :
    inOrder build (builtFamilies config) = do
      let components ← build .components
      let commands ← ifBuilt (source? config .commands).isSome (build .commands)
      let errors ← ifBuilt (source? config .commonErrors).isSome (build .commonErrors)
      let examples ← ifBuilt (source? config .examples).isSome (build .examples)
      return components ++ commands ++ errors ++ examples := by
  have always : ifBuilt true (build .components) = build .components := rfl
  rw [builtFamilies, families]
  iterate 4 rw [inOrder_filter_cons]
  simp [inOrder, always]

end

/-! ## The families of a run -/

section

variable {m : Type → Type} [Monad m] [LawfulMonad m]
  (sources : Sources m) (config : SiteConfig) (only : Option String)

theorem pages_components :
    pages sources config .components only = componentPages sources config only := by
  simp [pages, builds, ifWanted]

theorem pages_commands :
    pages sources config .commands only = do return [← commandsPage sources config] := by
  simp [pages, builds, ifWanted]

theorem pages_commonErrors :
    pages sources config .commonErrors only = do return [← commonErrorsPage sources config] := by
  simp [pages, builds, ifWanted]

theorem pages_examples :
    pages sources config .examples only = do return [← examplesPage sources config] := by
  simp [pages, builds, ifWanted]

theorem pages_all : pages sources config .all only =
    inOrder (fun family => pages sources config family only) (builtFamilies config) := by
  rw [inOrder_builtFamilies, pages_components, pages_commands, pages_commonErrors, pages_examples]
  rfl

end

/-! ## What becomes of the separate runs -/

theorem run_inOrder_eq_ok_iff {ε α β : Type} {build : α → ExceptT ε Id (List β)} {xs : List α}
    {ys : List β} : (inOrder build xs).run = .ok ys ↔
      ∃ parts, List.Forall₂ (fun x part => (build x).run = .ok part) xs parts ∧
        ys = parts.flatten := by
  rw [inOrder, run_bind_eq_ok_iff]
  simp only [run_pure_eq_ok_iff]
  -- by induction on the families: the first of them fails, or its pages come first
  have each : ∀ {parts}, (xs.mapM build).run = .ok parts ↔
      List.Forall₂ (fun x part => (build x).run = .ok part) xs parts := by
    induction xs with
    | nil =>
      intro parts
      rw [List.mapM_nil, run_pure_eq_ok_iff, List.forall₂_nil_left_iff, eq_comm]
    | cons x xs inductionHypothesis =>
      intro parts
      simp only [List.mapM_cons, run_bind_eq_ok_iff, run_pure_eq_ok_iff, inductionHypothesis,
        List.forall₂_cons_left_iff]
      constructor
      · rintro ⟨first, built, others, rest, rfl⟩
        exact ⟨first, others, built, rest, rfl⟩
      · rintro ⟨first, others, built, rest, rfl⟩
        exact ⟨first, built, others, rest, rfl⟩
  constructor
  · rintro ⟨parts, built, rfl⟩
    exact ⟨parts, each.mp built, rfl⟩
  · rintro ⟨parts, built, rfl⟩
    exact ⟨parts, each.mpr built, rfl⟩

variable {sources : Sources Id} {config : SiteConfig} {only : Option String}

theorem run_pages_all_eq_ok_iff {all : List Page} :
    (pages sources config .all only).run = .ok all ↔
      ∃ parts, List.Forall₂
        (fun family part => (pages sources config family only).run = .ok part)
        (builtFamilies config) parts ∧ all = parts.flatten := by
  rw [pages_all, run_inOrder_eq_ok_iff]

theorem requiredDocument_of_unnamed {α : Type}
    {use : String → Except FileFault String → Except DocumentFault α} {key : String}
    {text : Option String} (unnamed : named? text = none) :
    requiredDocument sources use key text = throw (.documentUnnamed key) := by
  rw [requiredDocument, unnamed]

theorem run_pages_of_unnamed {family : Target} (isFamily : family ∈ families)
    (unnamed : source? config family = none) :
    (pages sources config family only).run =
      .error (.documentUnnamed (documentKey family)) := by
  cases family with
  | all => exact absurd isFamily (by decide)
  | components =>
    change named? config.components = none at unnamed
    rw [pages_components, componentPages, requiredDocument_of_unnamed unnamed]
    rfl
  | commands =>
    change named? config.commands = none at unnamed
    rw [pages_commands, commandsPage, requiredDocument_of_unnamed unnamed]
    rfl
  | commonErrors =>
    change named? config.commonErrors = none at unnamed
    rw [pages_commonErrors, commonErrorsPage, requiredDocument_of_unnamed unnamed]
    rfl
  | examples =>
    change named? config.examples = none at unnamed
    rw [pages_examples, examplesPage, requiredDocument_of_unnamed unnamed]
    rfl

/-- A run for all families succeeds if and only if the separate runs for the families that it builds
do. Its pages are then theirs, in the order of the families. A run for a family without a document
fails, and the fault names the key of the document. -/
theorem all_iff_separate (sources : Sources Id) (config : SiteConfig)
    (only : Option String) :
    ((∃ all, (pages sources config .all only).run = .ok all) ↔
      ∀ family ∈ builtFamilies config,
        ∃ part, (pages sources config family only).run = .ok part) ∧
    (∀ all, (pages sources config .all only).run = .ok all →
      ∃ parts, List.Forall₂
        (fun family part => (pages sources config family only).run = .ok part)
        (builtFamilies config) parts ∧ all = parts.flatten) ∧
    ∀ family ∈ families, source? config family = none →
      (pages sources config family only).run =
        .error (.documentUnnamed (documentKey family)) := by
  refine ⟨⟨?_, ?_⟩, ?_, ?_⟩
  · rintro ⟨all, succeeds⟩ family isBuilt
    obtain ⟨parts, built, -⟩ := run_pages_all_eq_ok_iff.mp succeeds
    obtain ⟨i, bound, rfl⟩ := List.getElem_of_mem isBuilt
    exact ⟨_, built.get bound (built.length_eq ▸ bound)⟩
  · intro each
    obtain ⟨parts, built⟩ := exists_forall₂_of_forall each
    exact ⟨parts.flatten, run_pages_all_eq_ok_iff.mpr ⟨parts, built, rfl⟩⟩
  · intro all succeeds
    exact run_pages_all_eq_ok_iff.mp succeeds
  · intro family isFamily unnamed
    exact run_pages_of_unnamed isFamily unnamed

end DocPress.Run
