import DocPress.Proofs.ComponentLinks
import DocPress.Proofs.ReorderedUnits

/-! # Where the pages of a run stand

The path of a page comes from one of four formulas, by the family of the page: the global page and
that of the configuration have a fixed path each, the page of a DNS adapter has that of its
provider, and any other page that of its unit. So a page is written over another one of its run if
two adapters have one provider, or if another unit is named like the page of an adapter, and in no
other case.

* `Page.PlacedAt`: the four formulas.
* `Page.SharesPage`: the units whose pages stand at one path.
* `Page.PlacedAt.eq_iff_sharesPage`: there are no others.
* `Page.nodup_outputPaths_iff`: the pages of a run. -/

set_option autoImplicit false

namespace DocPress

namespace FileTree

variable {here directory : FilePath} {segments segments' : List String}

theorem foldl_follow_of_noParent (noParent : ".." ∉ segments) :
    segments.foldl follow directory = ⟨directory.root, directory.segments ++ segments⟩ := by
  induction segments generalizing directory with
  | nil => simp
  | cons s segments inductionHypothesis =>
    have first : s ≠ ".." := fun isParent => noParent (isParent ▸ List.mem_cons_self)
    have rest : ".." ∉ segments := fun member => noParent (List.mem_cons_of_mem _ member)
    rw [List.foldl_cons, follow, if_neg first, inductionHypothesis rest]
    simp

theorem leadsTo_join (base : FilePath) (noParent : ".." ∉ segments) :
    leadsTo here (base.join ⟨"", segments⟩) =
      ⟨(leadsTo here base).root, (leadsTo here base).segments ++ segments⟩ := by
  have below : (here.join (base.join ⟨"", segments⟩)).segments =
      (here.join base).segments ++ segments := by
    show (here.join ⟨base.root, base.segments ++ segments⟩).segments = _
    unfold FilePath.join FilePath.isAbsolute
    split
    · rfl
    · exact (List.append_assoc ..).symm
  rw [leadsTo, below, List.foldl_append, foldl_follow_of_noParent noParent]
  rfl

theorem leadsTo_join_inj (base : FilePath) (first : ".." ∉ segments) (second : ".." ∉ segments') :
    leadsTo here (base.join ⟨"", segments⟩) = leadsTo here (base.join ⟨"", segments'⟩) ↔
      segments = segments' := by
  rw [leadsTo_join base first, leadsTo_join base second, FilePath.mk.injEq]
  simp

end FileTree

namespace Page

variable {config : SiteConfig} {sdk units : List DocUnit} {unit u v : DocUnit} {page : Page}
  {segments segments' : List String}

/-! ## Paths -/

/-- The path of the page of a unit, by the family of the page. -/
inductive PlacedAt (config : SiteConfig) (unit : DocUnit) : List String → Prop
  | global : unit.RoutedTo config .global → PlacedAt config unit ["reference", "global.mdx"]
  | config : unit.RoutedTo config .config → PlacedAt config unit ["reference", "config.mdx"]
  | dns {provider : String} {rest : List String} : unit.RoutedTo config .dns →
      unit.ComponentNamed (provider :: rest) →
      PlacedAt config unit ["component", provider, "dns.mdx"]
  | named {family : PageFamily} {front : List String} {last : String} : NamedByUnit family →
      unit.RoutedTo config family → unit.ComponentNamed (front ++ [last]) →
      PlacedAt config unit ("component" :: (front ++ [last ++ ".mdx"]))

/-- A unit that is named below `components` if its page is placed by its name. -/
def WellNamed (config : SiteConfig) (u : DocUnit) : Prop :=
  ∀ family, family = .dns ∨ NamedByUnit family → u.RoutedTo config family →
    ∃ segments, u.ComponentNamed segments ∧ ".." ∉ segments

theorem outputPath_of_ofDns {provider : String} {rest : List String}
    (named : unit.ComponentNamed (provider :: rest)) (built : ofDns config unit = .ok page) :
    page.outputPath = ⟨"", ["component", provider, "dns.mdx"]⟩ := by
  have single : FilePath.ofString provider = ⟨"", [provider]⟩ := by
    have isPlain : ∀ s ∈ [provider], FilePath.PlainSegment s := by
      intro s member
      rw [List.mem_singleton.mp member]
      exact named.plain provider List.mem_cons_self
    simpa using FilePath.ofString_intercalate (List.cons_ne_nil _ _) isPlain
  obtain ⟨pieces, isPieces, built⟩ := exists_of_bind_eq_ok built
  cases isPieces.symm.trans (segments_of_componentNamed named)
  obtain ⟨sections, -, built⟩ := exists_of_bind_eq_ok built
  obtain ⟨source, -, built⟩ := exists_of_bind_eq_ok built
  cases built
  rw [single]
  rfl

theorem outputPath_of_ofGlobal (built : ofGlobal config units unit = .ok page) :
    page.outputPath = ⟨"", ["reference", "global.mdx"]⟩ := by
  obtain ⟨comment, -, built⟩ := exists_of_bind_eq_ok built
  obtain ⟨about, -, built⟩ := exists_of_bind_eq_ok built
  obtain ⟨vars, -, built⟩ := exists_of_bind_eq_ok built
  obtain ⟨functions, -, built⟩ := exists_of_bind_eq_ok built
  obtain ⟨extra, -, built⟩ := exists_of_bind_eq_ok built
  obtain ⟨source, -, built⟩ := exists_of_bind_eq_ok built
  cases built
  rfl

theorem outputPath_of_ofConfig (built : ofConfig unit = .ok page) :
    page.outputPath = ⟨"", ["reference", "config.mdx"]⟩ := by
  obtain ⟨comment, -, built⟩ := exists_of_bind_eq_ok built
  obtain ⟨about, -, built⟩ := exists_of_bind_eq_ok built
  obtain ⟨interfaces, -, built⟩ := exists_of_bind_eq_ok built
  obtain ⟨source, -, built⟩ := exists_of_bind_eq_ok built
  cases built
  rfl

theorem exists_placedAt_of_named {family : PageFamily} (byName : NamedByUnit family)
    (routed : unit.RoutedTo config family) (wellNamed : WellNamed config unit)
    (isPath : pathOf unit = .ok page.outputPath) :
    ∃ segments, PlacedAt config unit segments ∧ ".." ∉ segments ∧
      page.outputPath = ⟨"", segments⟩ := by
  obtain ⟨segments, named, noParent⟩ := wellNamed family (.inr byName) routed
  obtain ⟨front, last, rfl⟩ := (List.eq_nil_or_concat' segments).resolve_left named.nonempty
  have notParent : last ++ ".mdx" ≠ ".." := by
    intro isParent
    have lengths := congrArg String.length isParent
    rw [String.length_append] at lengths
    have ending : ".mdx".length = 4 := rfl
    have parent : "..".length = 2 := rfl
    omega
  refine ⟨_, .named byName routed named, ?_, ?_⟩
  · simp only [List.mem_append, List.mem_cons, List.not_mem_nil, or_false, not_or] at noParent ⊢
    exact ⟨by decide, noParent.1, notParent.symm⟩
  · exact Except.ok.inj (isPath.symm.trans (pathOf_of_componentNamed named))

theorem exists_placedAt (wellNamed : WellNamed config unit)
    (built : ofUnit? config sdk units unit = .ok (some page)) :
    ∃ segments, PlacedAt config unit segments ∧ ".." ∉ segments ∧
      page.outputPath = ⟨"", segments⟩ := by
  obtain ⟨family, routed, builtBy⟩ := exists_builtBy_of_ofUnit? built
  cases builtBy with
  | global ofGlobal => exact ⟨_, .global routed, by decide, outputPath_of_ofGlobal ofGlobal⟩
  | config ofConfig => exact ⟨_, .config routed, by decide, outputPath_of_ofConfig ofConfig⟩
  | dns ofDns =>
    obtain ⟨segments, named, noParent⟩ := wellNamed .dns (.inl rfl) routed
    obtain ⟨provider, rest, rfl⟩ := List.exists_cons_of_ne_nil named.nonempty
    refine ⟨_, .dns routed named, ?_, outputPath_of_ofDns named ofDns⟩
    have notParent : ".." ≠ provider := fun isParent => noParent (isParent ▸ List.mem_cons_self)
    simp [notParent]
  | linkable ofLinkable =>
    exact exists_placedAt_of_named (.inr rfl) routed wellNamed (outputPath_of_ofLinkable ofLinkable)
  | component ofComponent =>
    exact exists_placedAt_of_named (.inl rfl) routed wellNamed
      (outputPath_of_ofComponent ofComponent)

/-! ## Units that share a path -/

/-- Two units whose pages stand at one path: adapters of one provider, or an adapter and a unit that
is named like its page. -/
inductive SharesPage (config : SiteConfig) (u v : DocUnit) : Prop
  | adapters {provider : String} {rest rest' : List String} :
      u.RoutedTo config .dns → u.ComponentNamed (provider :: rest) →
      v.RoutedTo config .dns → v.ComponentNamed (provider :: rest') → SharesPage config u v
  | adapterFirst {provider : String} {rest : List String} {family : PageFamily} :
      u.RoutedTo config .dns → u.ComponentNamed (provider :: rest) →
      NamedByUnit family → v.RoutedTo config family → v.ComponentNamed [provider, "dns"] →
      SharesPage config u v
  | adapterSecond {provider : String} {rest : List String} {family : PageFamily} :
      NamedByUnit family → u.RoutedTo config family → u.ComponentNamed [provider, "dns"] →
      v.RoutedTo config .dns → v.ComponentNamed (provider :: rest) →
      SharesPage config u v

theorem pageSegments_inj {front front' : List String} {last last' : String} :
    front ++ [last ++ ".mdx"] = front' ++ [last' ++ ".mdx"] ↔
      front ++ [last] = front' ++ [last'] := by
  constructor
  · intro same
    obtain ⟨sameFront, sameFile⟩ := List.append_inj' same rfl
    have sameLast : last ++ ".mdx" = last' ++ ".mdx" := List.singleton_inj.mp sameFile
    rw [sameFront, (String.append_left_inj _).mp sameLast]
  · intro same
    obtain ⟨sameFront, sameLast⟩ := List.append_inj' same rfl
    rw [sameFront, List.singleton_inj.mp sameLast]

theorem adapterSegments_eq_iff {provider last : String} {front : List String} :
    ["component", provider, "dns.mdx"] = "component" :: (front ++ [last ++ ".mdx"]) ↔
      [provider, "dns"] = front ++ [last] := by
  have asName : [provider] ++ ["dns" ++ ".mdx"] = front ++ [last ++ ".mdx"] ↔ _ := pageSegments_inj
  rw [List.cons.injEq]
  exact (and_iff_right rfl).trans asName

theorem sourcePath_of_requiredSource {source : String} (isSource : u.requiredSource = .ok source) :
    u.sourcePath = some (.text source) := by
  unfold DocUnit.requiredSource at isSource
  split at isSource
  · rename_i path found
    cases path <;> cases isSource
    exact (Option.filter_eq_some_iff.mp found).1
  · cases isSource

theorem sourcePath_eq_of_fixed {family : PageFamily} (fixed : family = .global ∨ family = .config)
    (first : u.RoutedTo config family) (second : v.RoutedTo config family) :
    u.sourcePath = v.sourcePath := by
  obtain ⟨source, isSource, ofSource⟩ := first
  obtain ⟨source', isSource', ofSource'⟩ := second
  -- the routing gives each of the two families to one file
  have same : source = source' := by
    unfold Routing.familyOf at ofSource ofSource'
    grind
  rw [sourcePath_of_requiredSource isSource, sourcePath_of_requiredSource isSource', same]

theorem PlacedAt.sharesPage (first : PlacedAt config u segments)
    (second : PlacedAt config v segments') (same : segments = segments')
    (names : u.name ≠ v.name) (sources : u.sourcePath ≠ v.sourcePath) :
    SharesPage config u v := by
  cases first with
  | global routed =>
    cases second with
    | global routed' => exact absurd (sourcePath_eq_of_fixed (.inl rfl) routed routed') sources
    | config _ | dns _ _ | named _ _ _ => simp at same
  | config routed =>
    cases second with
    | config routed' => exact absurd (sourcePath_eq_of_fixed (.inr rfl) routed routed') sources
    | global _ | dns _ _ | named _ _ _ => simp at same
  | dns routed named =>
    cases second with
    | global _ | config _ => simp at same
    | dns routed' named' =>
      obtain rfl : _ = _ := (List.cons.inj (List.cons.inj same).2).1
      exact .adapters routed named routed' named'
    | named byName routed' named' =>
      rw [← adapterSegments_eq_iff.mp same] at named'
      exact .adapterFirst routed named byName routed' named'
  | named byName routed named =>
    cases second with
    | global _ | config _ => simp at same
    | dns routed' named' =>
      rw [← adapterSegments_eq_iff.mp same.symm] at named
      exact .adapterSecond byName routed named routed' named'
    | named byName' routed' named' =>
      rw [pageSegments_inj.mp (List.cons.inj same).2] at named
      exact absurd (named.isNamed.trans named'.isNamed.symm) names

theorem componentNamed_unique (first : u.ComponentNamed segments)
    (second : u.ComponentNamed segments') : segments = segments' := by
  have same := (segments_of_componentNamed first).symm.trans (segments_of_componentNamed second)
  exact (List.cons.inj (Except.ok.inj same)).2

theorem PlacedAt.eq_of_dns {provider : String} {rest : List String}
    (placed : PlacedAt config u segments) (routed : u.RoutedTo config .dns)
    (named : u.ComponentNamed (provider :: rest)) :
    segments = ["component", provider, "dns.mdx"] := by
  cases placed with
  | global routed' => cases routed.unique routed'
  | config routed' => cases routed.unique routed'
  | dns _ named' =>
    cases componentNamed_unique named named'
    rfl
  | named byName routed' _ =>
    rcases byName with rfl | rfl <;> cases routed.unique routed'

theorem PlacedAt.eq_of_named {family : PageFamily} {front : List String} {last : String}
    (placed : PlacedAt config u segments) (byName : NamedByUnit family)
    (routed : u.RoutedTo config family) (named : u.ComponentNamed (front ++ [last])) :
    segments = "component" :: (front ++ [last ++ ".mdx"]) := by
  cases placed with
  | global routed' => rcases byName with rfl | rfl <;> cases routed.unique routed'
  | config routed' => rcases byName with rfl | rfl <;> cases routed.unique routed'
  | dns routed' _ => rcases byName with rfl | rfl <;> cases routed.unique routed'
  | named _ _ named' =>
    rw [pageSegments_inj.mpr (componentNamed_unique named' named)]

theorem PlacedAt.eq_of_sharesPage (first : PlacedAt config u segments)
    (second : PlacedAt config v segments') (shares : SharesPage config u v) :
    segments = segments' := by
  cases shares with
  | adapters routed named routed' named' =>
    rw [first.eq_of_dns routed named, second.eq_of_dns routed' named']
  | @adapterFirst provider rest _ routed named byName routed' named' =>
    have isPage : segments' = "component" :: ([provider] ++ ["dns" ++ ".mdx"]) :=
      second.eq_of_named byName routed' named'
    rw [first.eq_of_dns routed named, isPage]
    rfl
  | @adapterSecond provider rest _ byName routed named routed' named' =>
    have isPage : segments = "component" :: ([provider] ++ ["dns" ++ ".mdx"]) :=
      first.eq_of_named byName routed named
    rw [second.eq_of_dns routed' named', isPage]
    rfl

/-- The pages of two units stand at one path only where the formulas of their families meet. -/
theorem PlacedAt.eq_iff_sharesPage (first : PlacedAt config u segments)
    (second : PlacedAt config v segments') (names : u.name ≠ v.name)
    (sources : u.sourcePath ≠ v.sourcePath) : segments = segments' ↔ SharesPage config u v :=
  ⟨fun same => first.sharesPage second same names sources, first.eq_of_sharesPage second⟩

/-! ## The pages of a run -/

/-- What tells the pages of a run apart, if they are told apart by their paths. -/
def Separates {α : Type} (f : Page → α) : Prop :=
  ∀ p q segments segments', p.outputPath = ⟨"", segments⟩ → q.outputPath = ⟨"", segments'⟩ →
    ".." ∉ segments → ".." ∉ segments' → (f p = f q ↔ segments = segments')

theorem separates_outputPath : Separates Page.outputPath := by
  intro p q segments segments' isFirst isSecond _ _
  rw [isFirst, isSecond, FilePath.mk.injEq]
  exact and_iff_right rfl

theorem separates_place (here outputDir docsRoot : FilePath) :
    Separates fun p => FileTree.leadsTo here (p.target outputDir docsRoot) := by
  intro p q segments segments' isFirst isSecond first second
  simp only [target, isFirst, isSecond]
  exact FileTree.leadsTo_join_inj _ first second

theorem exists_page_of_routedTo {family : PageFamily} (hasPage : family ≠ .skip)
    (routed : u.RoutedTo config family)
    (built : ofUnit? config sdk units u = .ok (page? config sdk units u)) :
    ∃ page, page? config sdk units u = some page := by
  obtain ⟨source, isSource, rfl⟩ := routed
  obtain ⟨source', isSource', built⟩ := exists_of_bind_eq_ok built
  cases isSource.symm.trans isSource'
  cases family : config.routing.familyOf source <;> rw [family] at built hasPage
  case skip => exact absurd rfl hasPage
  all_goals
    obtain ⟨page, -, built⟩ := exists_of_bind_eq_ok built
    exact ⟨page, (Except.ok.inj built).symm⟩

theorem NamedByUnit.ne_skip {family : PageFamily} (byName : NamedByUnit family) :
    family ≠ .skip := by
  rcases byName with rfl | rfl <;> decide

theorem SharesPage.exists_pages (shares : SharesPage config u v)
    (first : ofUnit? config sdk units u = .ok (page? config sdk units u))
    (second : ofUnit? config sdk units v = .ok (page? config sdk units v)) :
    (∃ p, page? config sdk units u = some p) ∧ ∃ q, page? config sdk units v = some q := by
  cases shares with
  | adapters routed _ routed' _ =>
    exact ⟨exists_page_of_routedTo (by decide) routed first,
      exists_page_of_routedTo (by decide) routed' second⟩
  | adapterFirst routed _ byName routed' _ =>
    exact ⟨exists_page_of_routedTo (by decide) routed first,
      exists_page_of_routedTo byName.ne_skip routed' second⟩
  | adapterSecond byName routed _ routed' _ =>
    exact ⟨exists_page_of_routedTo byName.ne_skip routed first,
      exists_page_of_routedTo (by decide) routed' second⟩

theorem ne_iff_not_sharesPage {α : Type} {f : Page → α} (separates : Separates f)
    (wellNamed : WellNamed config u ∧ WellNamed config v) (names : u.name ≠ v.name)
    (sources : u.sourcePath ≠ v.sourcePath)
    (first : ofUnit? config sdk units u = .ok (page? config sdk units u))
    (second : ofUnit? config sdk units v = .ok (page? config sdk units v)) :
    (∀ p, page? config sdk units u = some p → ∀ q, page? config sdk units v = some q →
      f p ≠ f q) ↔ ¬ SharesPage config u v := by
  have met : ∀ p, page? config sdk units u = some p → ∀ q, page? config sdk units v = some q →
      (f p = f q ↔ SharesPage config u v) := by
    intro p isFirst q isSecond
    rw [isFirst] at first
    rw [isSecond] at second
    obtain ⟨segments, placed, noParent, isPath⟩ := exists_placedAt wellNamed.1 first
    obtain ⟨segments', placed', noParent', isPath'⟩ := exists_placedAt wellNamed.2 second
    exact (separates p q segments segments' isPath isPath' noParent noParent').trans
      (placed.eq_iff_sharesPage placed' names sources)
  constructor
  · intro apart shares
    obtain ⟨⟨p, isFirst⟩, q, isSecond⟩ := shares.exists_pages first second
    exact apart p isFirst q isSecond ((met p isFirst q isSecond).mpr shares)
  · intro notShared p isFirst q isSecond same
    exact notShared ((met p isFirst q isSecond).mp same)

theorem nodup_map_pages_iff {α : Type} {f : Page → α} {us : List DocUnit}
    (separates : Separates f) (names : (us.map DocUnit.name).Nodup)
    (sources : (us.map DocUnit.sourcePath).Nodup) (wellNamed : ∀ u ∈ us, WellNamed config u)
    (each : ∀ u ∈ us, ofUnit? config sdk units u = .ok (page? config sdk units u)) :
    ((us.filterMap (page? config sdk units)).map f).Nodup ↔
      us.Pairwise fun u v => ¬ SharesPage config u v := by
  have distinct : us.Pairwise fun u v => u.name ≠ v.name ∧ u.sourcePath ≠ v.sourcePath :=
    (List.pairwise_map.mp names).and (List.pairwise_map.mp sources)
  have apart : ∀ {u v}, u ∈ us → v ∈ us → u.name ≠ v.name ∧ u.sourcePath ≠ v.sourcePath → _ :=
    fun {u v} isFirst isSecond different =>
      ne_iff_not_sharesPage separates ⟨wellNamed u isFirst, wellNamed v isSecond⟩ different.1
        different.2 (each u isFirst) (each v isSecond)
  rw [List.Nodup, List.pairwise_map, List.pairwise_filterMap]
  constructor
  · intro pages
    exact (distinct.and pages).imp_of_mem fun isFirst isSecond both =>
      (apart isFirst isSecond both.1).mp both.2
  · intro notShared
    exact (distinct.and notShared).imp_of_mem fun isFirst isSecond both =>
      (apart isFirst isSecond both.1).mpr both.2

/-- The pages of a run over units of different names and sources stand at different paths, and are
written to different places, if and only if no two of the units share a page. -/
theorem nodup_outputPaths_iff {only : Option String} {pages : List Page}
    (names : ((Run.wanted only units).map DocUnit.name).Nodup)
    (sources : ((Run.wanted only units).map DocUnit.sourcePath).Nodup)
    (wellNamed : ∀ u ∈ Run.wanted only units, WellNamed config u)
    (built : buildAll config sdk units only = .ok pages) :
    ((pages.map Page.outputPath).Nodup ↔
      (Run.wanted only units).Pairwise fun u v => ¬ SharesPage config u v) ∧
    ∀ here outputDir docsRoot,
      (pages.map fun p => FileTree.leadsTo here (p.target outputDir docsRoot)).Nodup ↔
        (Run.wanted only units).Pairwise fun u v => ¬ SharesPage config u v := by
  obtain ⟨each, rfl⟩ := buildAll_eq_ok_iff.mp built
  refine ⟨nodup_map_pages_iff separates_outputPath names sources wellNamed each, ?_⟩
  intro here outputDir docsRoot
  exact nodup_map_pages_iff (separates_place here outputDir docsRoot) names sources wellNamed each

/-! ## Fixed runs -/

theorem wellNamed_of_componentNamed (segments : List String) (named : u.ComponentNamed segments)
    (noParent : ".." ∉ segments) : WellNamed config u :=
  fun _ _ _ => ⟨segments, named, noParent⟩

theorem wellNamed_of_routedTo {family : PageFamily} (routed : u.RoutedTo config family)
    (fixed : ¬ (family = .dns ∨ NamedByUnit family)) : WellNamed config u := by
  intro family' placed routed'
  cases routed.unique routed'
  exact absurd placed fixed

/-- The unit of an adapter that is declared below some directories of `aws`. -/
def adapterUnit (directories : List String) : DocUnit where
  name := .text ("/".intercalate ("components" :: "aws" :: (directories ++ ["dns"])))
  declarations := []
  sourcePath := some (.text (componentFile ("aws" :: (directories ++ ["dns"]))))
  comment := some ⟨[], [], TagSet.empty⟩

theorem wellNamed_adapterUnit (directories : List String)
    (plain : ∀ s ∈ directories, FilePath.PlainSegment s) (noParent : ".." ∉ directories) :
    WellNamed config (adapterUnit directories) := by
  refine wellNamed_of_componentNamed ("aws" :: (directories ++ ["dns"])) ⟨?_, ?_, rfl⟩ ?_
  · exact List.cons_ne_nil _ _
  · have ends : ∀ s ∈ ["aws", "dns"], FilePath.PlainSegment s := by decide
    intro s member
    rcases List.mem_cons.mp member with rfl | member
    · exact ends _ List.mem_cons_self
    · rcases List.mem_append.mp member with inside | isLast
      · exact plain s inside
      · exact ends s (List.mem_cons_of_mem _ isLast)
  · simp [noParent]

/-- An adapter, a linkable helper, the global library with a unit that lends it a function, and the
configuration. -/
def siteUnits : List DocUnit :=
  [adapterUnit [], Link.permissionUnit, libraryUnit, grantUnit, settingsUnit]

theorem wellNamed_siteUnits : ∀ u ∈ siteUnits, WellNamed .standard u := by
  have helper := Link.componentSource_permissionUnit.componentNamed
  have isGlobal : libraryUnit.RoutedTo .standard .global := ⟨_, rfl, by decide⟩
  have isSkipped : grantUnit.RoutedTo .standard .skip := ⟨_, rfl, by decide⟩
  have isConfig : settingsUnit.RoutedTo .standard .config := ⟨_, rfl, by decide⟩
  simp only [siteUnits, List.forall_mem_cons]
  refine ⟨wellNamed_adapterUnit [] (by simp) (by simp),
    wellNamed_of_componentNamed _ helper (by decide), wellNamed_of_routedTo isGlobal ?_,
    wellNamed_of_routedTo isSkipped ?_, wellNamed_of_routedTo isConfig ?_, by simp⟩
  all_goals simp [NamedByUnit]

theorem siteUnits_placed : (buildAll .standard [] siteUnits none).map (List.map Page.outputPath) =
    .ok [⟨"", ["component", "aws", "dns.mdx"]⟩,
      ⟨"", ["component", "a.ts", "aws", "permission.mdx"]⟩, ⟨"", ["reference", "global.mdx"]⟩,
      ⟨"", ["reference", "config.mdx"]⟩] :=
  eq_ok_of_toOption_eq_some (by decide +kernel)

/-- Four pages, one from each formula, are written to four places. -/
theorem nodup_outputPaths_iff_siteUnits : ∃ pages,
    buildAll .standard [] siteUnits none = .ok pages ∧ pages.length = 4 ∧
    ∀ here outputDir docsRoot,
      (pages.map fun p => FileTree.leadsTo here (p.target outputDir docsRoot)).Nodup := by
  obtain ⟨pages, built, paths⟩ := exists_of_map_eq_ok siteUnits_placed
  have names : ((Run.wanted none siteUnits).map DocUnit.name).Nodup := by
    rw [Run.wanted_none]
    decide
  have sources : ((Run.wanted none siteUnits).map DocUnit.sourcePath).Nodup := by
    rw [Run.wanted_none]
    decide
  have wellNamed : ∀ u ∈ Run.wanted none siteUnits, WellNamed .standard u := by
    rw [Run.wanted_none]
    exact wellNamed_siteUnits
  obtain ⟨apart, placed⟩ := nodup_outputPaths_iff names sources wellNamed built
  have distinct : (pages.map Page.outputPath).Nodup := by
    rw [paths]
    decide
  refine ⟨pages, built, ?_, fun here outputDir docsRoot => ?_⟩
  · rw [← List.length_map (f := Page.outputPath), paths]
    rfl
  · exact (placed here outputDir docsRoot).mpr (apart.mp distinct)

theorem adapters_placed :
    (buildAll .standard [] [adapterUnit [], adapterUnit ["route"]] none).map
        (List.map Page.outputPath) =
      .ok [⟨"", ["component", "aws", "dns.mdx"]⟩, ⟨"", ["component", "aws", "dns.mdx"]⟩] :=
  eq_ok_of_toOption_eq_some (by decide +kernel)

/-- Names and sources do not tell pages apart: the adapters of a provider have one page between
them. -/
theorem not_nodup_outputPaths : ¬ ∀ (config : SiteConfig) (sdk units : List DocUnit)
    (only : Option String) (pages : List Page),
    (units.map DocUnit.name).Nodup → (units.map DocUnit.sourcePath).Nodup →
    (∀ u ∈ units, WellNamed config u) → buildAll config sdk units only = .ok pages →
    (pages.map Page.outputPath).Nodup := by
  intro apart
  obtain ⟨pages, built, paths⟩ := exists_of_map_eq_ok adapters_placed
  have wellNamed : ∀ u ∈ [adapterUnit [], adapterUnit ["route"]], WellNamed .standard u := by
    simp only [List.forall_mem_cons]
    exact ⟨wellNamed_adapterUnit [] (by simp) (by simp),
      wellNamed_adapterUnit ["route"] (by decide) (by decide), by simp⟩
  have distinct := apart .standard [] _ none pages (by decide) (by decide) wellNamed built
  rw [paths] at distinct
  exact absurd distinct (by decide)

end Page

end DocPress
