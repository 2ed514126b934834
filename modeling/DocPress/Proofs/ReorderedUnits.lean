import DocPress.Proofs.HiddenDeclarations
import DocPress.Proofs.RunOutcomes

/-! # Pages of some of the units, and of units in another order

The page of a unit is made from that unit alone, except for the global page: it takes further
functions from the first unit of each configured ending. A unit that is left out of a run, or that
is skipped, still lends its functions to the global page.

* `Page.ofUnit?_congr`: all that a page has from the other units.
* `Page.buildAll_of_known`: what a run builds from units that another run has built.
* `Page.buildAll_named_and_reordered`: runs for one name, and runs over units in another order. -/

set_option autoImplicit false

namespace DocPress

namespace Page

variable {config : SiteConfig} {sdk units units' : List DocUnit} {unit : DocUnit}

/-- The first of several units that is declared in a file of some ending. -/
def firstWithEnding? (units : List DocUnit) (ending : String) : Option DocUnit :=
  units.find? fun u => Routing.hasEnding (u.sourcePath.getD (.text "")).display ending

/-- Two lists of units from which the global page takes the same further functions. -/
def SameExtras (config : SiteConfig) (units units' : List DocUnit) : Prop :=
  ∀ e ∈ config.routing.extraFunctions, firstWithEnding? units' e.2 = firstWithEnding? units e.2

/-- The page that is built for a unit, if it has one and it can be built. -/
def page? (config : SiteConfig) (sdk units : List DocUnit) (unit : DocUnit) : Option Page :=
  (ofUnit? config sdk units unit).toOption.join

/-! ## What a page takes from other units -/

theorem extraFunctions_congr {es : List (String × String)}
    (same : ∀ e ∈ es, firstWithEnding? units' e.2 = firstWithEnding? units e.2) :
    extraFunctions unit units' es = extraFunctions unit units es := by
  induction es with
  | nil => rfl
  | cons e es inductionHypothesis =>
    obtain ⟨title, ending⟩ := e
    have first := same (title, ending) List.mem_cons_self
    have rest := inductionHypothesis fun e member => same e (List.mem_cons_of_mem _ member)
    simp only [firstWithEnding?] at first
    simp only [extraFunctions, first, rest]

theorem ofGlobal_congr (same : SameExtras config units units') :
    ofGlobal config units' unit = ofGlobal config units unit := by
  rw [ofGlobal, ofGlobal, extraFunctions_congr same]

theorem ofUnit?_congr (same : SameExtras config units units') :
    ofUnit? config sdk units' unit = ofUnit? config sdk units unit := by
  simp only [ofUnit?, ofGlobal_congr same]

theorem page?_congr (same : SameExtras config units units') :
    page? config sdk units' = page? config sdk units := by
  funext unit
  rw [page?, page?, ofUnit?_congr same]

/-! ## Runs, one page at a time -/

theorem page?_of_ofUnit? {page : Option Page}
    (built : ofUnit? config sdk units unit = .ok page) : page? config sdk units unit = page := by
  rw [page?, built]
  rfl

theorem forall₂_ofUnit?_iff {us : List DocUnit} {built : List (Option Page)} :
    List.Forall₂ (fun u page => ofUnit? config sdk units u = .ok page) us built ↔
      (∀ u ∈ us, ofUnit? config sdk units u = .ok (page? config sdk units u)) ∧
        built = us.map (page? config sdk units) := by
  constructor
  · intro compiled
    induction compiled with
    | nil => simp
    | cons first compiled inductionHypothesis =>
      obtain ⟨each, isRest⟩ := inductionHypothesis
      have isPage := page?_of_ofUnit? first
      refine ⟨List.forall_mem_cons.mpr ⟨?_, each⟩, ?_⟩
      · rw [isPage]
        exact first
      · rw [List.map_cons, isPage, isRest]
  · rintro ⟨each, rfl⟩
    rw [List.forall₂_map_right_iff, List.forall₂_same]
    exact each

theorem buildAll_eq_ok_iff {only : Option String} {pages : List Page} :
    buildAll config sdk units only = .ok pages ↔
      (∀ u ∈ Run.wanted only units,
        ofUnit? config sdk units u = .ok (page? config sdk units u)) ∧
        pages = (Run.wanted only units).filterMap (page? config sdk units) := by
  simp only [Run.buildAll_eq_buildFrom, Run.buildFrom_eq_ok_iff, forall₂_ofUnit?_iff]
  constructor
  · rintro ⟨_, ⟨each, rfl⟩, rfl⟩
    exact ⟨each, by rw [List.reduceOption, List.filterMap_map, Function.id_comp]⟩
  · rintro ⟨each, rfl⟩
    exact ⟨_, ⟨each, rfl⟩, by rw [List.reduceOption, List.filterMap_map, Function.id_comp]⟩

/-- A run builds the page that another run has built for each of its units. -/
theorem buildAll_of_known {only : Option String} {pages : List Page}
    (built : buildAll config sdk units none = .ok pages) (same : SameExtras config units units')
    (known : ∀ u ∈ Run.wanted only units', u ∈ units) :
    buildAll config sdk units' only =
      .ok ((Run.wanted only units').filterMap (page? config sdk units)) := by
  obtain ⟨each, -⟩ := buildAll_eq_ok_iff.mp built
  rw [buildAll_eq_ok_iff, page?_congr same]
  refine ⟨fun u member => ?_, rfl⟩
  rw [ofUnit?_congr same]
  exact each u (by simpa [Run.wanted] using known u member)

/-- If a run over all units succeeds, then it gives the pages of the units one after another. A run
for one name gives those of the units of that name, and a run over the units in another order gives
them in that order, as long as each configured ending has the same first unit. -/
theorem buildAll_named_and_reordered {pages : List Page}
    (built : buildAll config sdk units none = .ok pages) :
    ∃ pageOf : DocUnit → Option Page,
      (∀ u ∈ units, ofUnit? config sdk units u = .ok (pageOf u)) ∧
      pages = units.filterMap pageOf ∧
      (∀ name, buildAll config sdk units (some name) =
        .ok ((units.filter fun u => u.name = .text name).filterMap pageOf)) ∧
      ∀ units', units'.Perm units → SameExtras config units units' →
        buildAll config sdk units' none = .ok (units'.filterMap pageOf) := by
  obtain ⟨each, isAll⟩ := buildAll_eq_ok_iff.mp built
  rw [Run.wanted_none] at each isAll
  refine ⟨page? config sdk units, each, isAll, ?_, ?_⟩
  · intro name
    -- the units of other names are not built, and still lend their functions
    have same : SameExtras config units units := fun _ _ => rfl
    rw [buildAll_of_known built same fun u => List.mem_of_mem_filter, Run.wanted_some]
  · intro units' reordered same
    rw [buildAll_of_known built same fun u member => ?_, Run.wanted_none]
    rw [Run.wanted_none] at member
    exact reordered.mem_iff.mp member

/-- The unit of the global library, without declarations. -/
def libraryUnit : DocUnit where
  name := .text "global"
  declarations := []
  sourcePath := some (.text "platform/src/global-config.d.ts")
  comment := some ⟨[], [], TagSet.empty⟩

/-- A unit that has no page and lends its function to the global page. -/
def grantUnit : DocUnit where
  name := .text "components/aws/iam-edit"
  declarations :=
    [{ Declaration.bare "iamEdit" .functionDecl none [] with
      signatures :=
        [{ name := .text "iamEdit"
           parameters := []
           result := some (.primitive (.text "void"))
           comment := some ⟨[], [], TagSet.empty⟩ }] }]
  sourcePath := some (.text "platform/src/components/aws/iam-edit.ts")
  comment := none

theorem library_pages_titled :
    (buildAll .standard [] [libraryUnit, grantUnit, settingsUnit] none).map (List.map Page.title) =
      .ok ["Global", "Config"] := rfl

/-- The global page, whose further function comes from the unit after it, and the page of the
configuration: both, the second alone, and the second first. -/
theorem buildAll_named_and_reordered_library : ∃ pages pageOf,
    buildAll .standard [] [libraryUnit, grantUnit, settingsUnit] none = .ok pages ∧
    pages.map Page.title = ["Global", "Config"] ∧
    pages = [libraryUnit, grantUnit, settingsUnit].filterMap pageOf ∧
    buildAll .standard [] [libraryUnit, grantUnit, settingsUnit] (some "config") =
      .ok ([settingsUnit].filterMap pageOf) ∧
    buildAll .standard [] [settingsUnit, libraryUnit, grantUnit] none =
      .ok ([settingsUnit, libraryUnit, grantUnit].filterMap pageOf) := by
  obtain ⟨pages, built, titles⟩ := exists_of_map_eq_ok library_pages_titled
  obtain ⟨pageOf, -, isAll, named, reordered⟩ := buildAll_named_and_reordered built
  have rotated : [settingsUnit, libraryUnit, grantUnit].Perm
      [libraryUnit, grantUnit, settingsUnit] := by
    show ([settingsUnit] ++ [libraryUnit, grantUnit]).Perm ([libraryUnit, grantUnit] ++ _)
    exact List.perm_append_comm
  have same : SameExtras .standard [libraryUnit, grantUnit, settingsUnit]
      [settingsUnit, libraryUnit, grantUnit] := by
    intro e member
    cases List.mem_singleton.mp member
    rfl
  exact ⟨pages, pageOf, built, titles, isAll, named "config", reordered _ rotated same⟩

end Page

end DocPress
