import DocPress.Proofs.Lowercase
import DocPress.Proofs.SamePageLinks

/-! # Where references lead

The targets that references are resolved to, with the texts that their addresses are made of: parts
of the name of the reference and of the path of the declaring file, put into fixed addresses.

* `Link.Leads`: the targets of a reference, by the rule that gives them.
* `Link.leads_of_resolve`: there are no others.
* `Link.Leads.lt_not_mem_href`: an address has no less-than sign if the name and the path have
  none. -/

set_option autoImplicit false

namespace DocPress

/-! ## Characters of cut texts -/

namespace Text

theorem mem_of_dropWord? {word cs rest : List Char} (dropped : dropWord? word cs = some rest)
    {c : Char} (isRest : c ∈ rest) : c ∈ cs := by
  rw [eq_append_of_dropWord? dropped]
  exact List.mem_append_right word isRest

theorem mem_of_firstLine {cs : List Char} {c : Char} (inLine : c ∈ (firstLine cs).1) : c ∈ cs :=
  (List.takeWhile_prefix _).subset inLine

theorem mem_of_cutLast? {word cs front back : List Char}
    (isCut : cutLast? word cs = some (front, back)) {c : Char} (inFront : c ∈ front) : c ∈ cs := by
  rw [eq_append_of_cutLast? isCut]
  exact List.mem_append_left _ inFront

/-- What is read after a word is read from characters of the text. -/
theorem exists_of_afterFirst? {α : Type} {word cs : List Char}
    {read : List Char → Option α} {a : α} (found : afterFirst? word read cs = some a) :
    ∃ rest, rest ⊆ cs ∧ read rest = some a := by
  induction cs with
  | nil =>
    obtain ⟨rest, dropped, isRead⟩ := Option.bind_eq_some_iff.mp found
    exact ⟨rest, fun c => mem_of_dropWord? dropped, isRead⟩
  | cons c cs inductionHypothesis =>
    rw [afterFirst?] at found
    split at found
    · rename_i here
      cases found
      obtain ⟨rest, dropped, isRead⟩ := Option.bind_eq_some_iff.mp here
      exact ⟨rest, fun c => mem_of_dropWord? dropped, isRead⟩
    · obtain ⟨rest, within, isRead⟩ := inductionHypothesis found
      exact ⟨rest, fun x isRest => List.mem_cons_of_mem c (within isRest), isRead⟩

theorem lt_not_mem_lower {s : String} (free : '<' ∉ s.toList) : '<' ∉ (lower s).toList := by
  have isSign : IsSign '<' := by decide
  rwa [isSign.mem_lower_iff]

end Text

namespace Link

/-- The targets that do not depend on the reference that leads to them. -/
def fixedTargets : List LinkTarget :=
  [shellLink, .external "https://esbuild.github.io/api/#loader" none,
    .external "https://esbuild.github.io/api/#build" none,
    .external "https://opencontrol.ai/" none] ++
  markers.map Prod.snd

/-- The targets that a reference may lead to. -/
inductive Leads (ref : Reference) : LinkTarget → Prop
  | fixed {target : LinkTarget} (isFixed : target ∈ fixedTargets) : Leads ref target
  | page : Leads ref (.samePage none none)
  | anchor {name : String} (isNamed : ref.name = .text name) :
      Leads ref (.samePage (some (Text.lower name)) none)
  | component {name source : String} (isNamed : ref.name = .text name)
      (isSource : sourceOf ref = .ok source) : Leads ref (ofComponentSource name source)
  | inputType {provider path source name page : String}
      (isSource : sourceOf ref = .ok source)
      (read : Text.afterFirst? "node_modules/@pulumi/".toList readProviderClass source.toList =
        some (provider, path)) (isRow : (name, page) ∈ inputTypePages) :
      Leads ref (.external ("https://www.pulumi.com/registry/packages/" ++ Text.lower provider
        ++ "/api-docs/" ++ page ++ "/#" ++ Text.lower name) none)
  | registry {scope : List Char} {provider path name source : String}
      (isNamed : ref.name = .text name) (isSource : sourceOf ref = .ok source)
      (read : Text.afterFirst? scope readProviderClass source.toList = some (provider, path)) :
      Leads ref (.external (registryUrl (Text.lower provider) (Text.lower path) name) none)
  | handler {path source : String} (isSource : sourceOf ref = .ok source)
      (read : Text.afterFirst? "node_modules/@types/aws-lambda/".toList readRest source.toList =
        some path) :
      Leads ref (.external
        ("https://github.com/DefinitelyTyped/DefinitelyTyped/blob/master/types/aws-lambda/" ++ path)
        none)

variable {unit : DocUnit} {ref : Reference} {source : String} {target : LinkTarget}

theorem leads_of_ofProvider (isSource : sourceOf ref = .ok source)
    (given : ofProvider ref source = .ok target) : Leads ref target := by
  unfold ofProvider at given
  split at given
  · cases given
  · rename_i provider path read
    dsimp only at given
    split at given
    · split at given
      · cases given
      · rename_i name page found
        cases given
        exact .inputType isSource read (List.mem_of_find?_eq_some found)
    · split at given
      · cases given
      · obtain ⟨name, isText, given⟩ := exists_of_bind_eq_ok given
        cases given
        exact .registry (eq_text_of_required isText) isSource read

theorem leads_of_ofPackage {docs : PackageDocs} (isSource : sourceOf ref = .ok source)
    (given : ofPackage docs ref source = .ok target) : Leads ref target := by
  unfold ofPackage at given
  cases docs with
  | provider => exact leads_of_ofProvider isSource given
  | communityProvider =>
    dsimp only at given
    split at given
    · cases given
    · rename_i provider path read
      obtain ⟨name, isText, given⟩ := exists_of_bind_eq_ok given
      cases given
      exact .registry (eq_text_of_required isText) isSource read
  | handlerTypes =>
    dsimp only at given
    split at given
    · cases given
    · rename_i path read
      cases given
      exact .handler isSource read
  | bundler =>
    cases given
    by_cases isLoader : ref.name = .text "Loader"
    · rw [if_pos isLoader]
      exact .fixed (List.mem_append_left _ (by simp))
    · rw [if_neg isLoader]
      exact .fixed (List.mem_append_left _ (by simp))
  | controlService =>
    cases given
    exact .fixed (List.mem_append_left _ (by simp))
  | shell =>
    cases given
    exact .fixed (List.mem_append_left _ (by simp))

theorem mem_fixedTargets_of_marker? {name : Data} (isMarker : marker? name = some target) :
    target ∈ fixedTargets := by
  obtain ⟨marker, found, rfl⟩ := Option.map_eq_some_iff.mp isMarker
  exact List.mem_append_right _ (List.mem_map_of_mem (List.mem_of_find?_eq_some found))

theorem leads_of_resolve (resolved : resolve unit ref = .ok target) : Leads ref target := by
  cases decides_of_resolve resolved with
  | marker isMarker => exact .fixed (mem_fixedTargets_of_marker? isMarker)
  | shell => exact .fixed (List.mem_append_left _ (by simp))
  | name _ named =>
    cases named with
    | ofClass => exact .page
    | ofInterface _ _ isText => exact .anchor isText
  | component _ isNamed isSource => exact .component isNamed isSource
  | package isSource _ given => exact leads_of_ofPackage isSource given

/-- A target with a label of its own is a fixed one. -/
theorem Leads.isFixed_of_label {label : String} (leads : Leads ref target)
    (isLabel : target.label? = some label) : target ∈ fixedTargets := by
  cases leads with
  | fixed isFixed => exact isFixed
  | page | anchor | component | inputType | registry | handler => cases isLabel

/-! ## Addresses -/

theorem mem_of_readComponentSource {cs path : List Char} {length : Nat}
    (read : readComponentSource cs = some (path, length)) {c : Char} (inPath : c ∈ path) :
    c ∈ cs := by
  unfold readComponentSource at read
  split at read
  · cases read
  · rename_i rest dropped
    split at read
    · cases read
    · rename_i path' back isCut
      cases read
      have inLine := Text.mem_of_cutLast? isCut inPath
      exact Text.mem_of_dropWord? dropped (Text.mem_of_firstLine inLine)

theorem lt_not_mem_componentPages {skip : Nat} {cs : List Char} (free : '<' ∉ cs) :
    '<' ∉ componentPages skip cs := by
  induction cs generalizing skip with
  | nil => cases skip <;> exact free
  | cons c cs inductionHypothesis =>
    have first := List.ne_of_not_mem_cons free
    have others := List.not_mem_of_not_mem_cons free
    cases skip with
    | succ skip =>
      rw [componentPages]
      exact inductionHypothesis others
    | zero =>
      rw [componentPages]
      split
      · rename_i path length read
        have root : '<' ∉ componentDocsRoot.toList := by decide
        have inPath : '<' ∉ path := fun inPath => free (mem_of_readComponentSource read inPath)
        simp [root, inPath, inductionHypothesis others]
      · simp [first, inductionHypothesis others]

theorem mem_of_readProviderClass {cs : List Char} {provider path : String}
    (read : readProviderClass cs = some (provider, path)) {c : Char}
    (member : c ∈ provider.toList ∨ c ∈ path.toList) : c ∈ cs := by
  unfold readProviderClass at read
  split at read
  · cases read
  · cases read
  · rename_i slash rest isRest nonempty
    have inRest : rest ⊆ cs := by
      intro x isMember
      have dropped := List.mem_cons_of_mem slash isMember
      rw [← isRest] at dropped
      exact (List.dropWhile_suffix _).subset dropped
    split at read
    · cases read
    · cases read
    · rename_i front back nonempty isCut
      cases read
      rw [String.toList_ofList, String.toList_ofList] at member
      cases member with
      | inl inProvider => exact (List.takeWhile_prefix _).subset inProvider
      | inr inPath => exact inRest (Text.mem_of_firstLine (Text.mem_of_cutLast? isCut inPath))

/-- The parts that are read from a path have no less-than sign if the path has none. -/
theorem lt_not_mem_of_providerClass {scope : List Char} {provider path : String}
    (read : Text.afterFirst? scope readProviderClass source.toList = some (provider, path))
    (free : '<' ∉ source.toList) : '<' ∉ provider.toList ∧ '<' ∉ path.toList := by
  obtain ⟨rest, within, read⟩ := Text.exists_of_afterFirst? read
  constructor
  · intro inProvider
    exact free (within (mem_of_readProviderClass read (.inl inProvider)))
  · intro inPath
    exact free (within (mem_of_readProviderClass read (.inr inPath)))

theorem mem_of_readRest {cs : List Char} {path : String} (read : readRest cs = some path)
    {c : Char} (inPath : c ∈ path.toList) : c ∈ cs := by
  unfold readRest at read
  split at read
  · cases read
  · rename_i line isLine
    cases read
    rw [String.toList_ofList] at inPath
    exact Text.mem_of_firstLine inPath

theorem Leads.lt_not_mem_href (leads : Leads ref target)
    (inName : ∀ s, ref.name = .text s → '<' ∉ s.toList)
    (inSource : ∀ s, sourceOf ref = .ok s → '<' ∉ s.toList) : '<' ∉ target.href.toList := by
  cases leads with
  | fixed isFixed =>
    have all : ∀ target ∈ fixedTargets, '<' ∉ target.href.toList := by decide +kernel
    exact all target isFixed
  | page => decide
  | @anchor name isNamed =>
    have inAnchor := Text.lt_not_mem_lower (inName name isNamed)
    simp [LinkTarget.href, inAnchor]
  | @component name source isNamed isSource =>
    have inPage := @lt_not_mem_componentPages 0 _ (inSource source isSource)
    have inAnchor := Text.lt_not_mem_lower (inName name isNamed)
    unfold ofComponentSource
    split <;> simp [LinkTarget.href, inPage, inAnchor]
  | @inputType provider path source name page isSource read isRow =>
    obtain ⟨inProvider, -⟩ := lt_not_mem_of_providerClass read (inSource source isSource)
    have inTable : ∀ row ∈ inputTypePages, '<' ∉ row.1.toList ∧ '<' ∉ row.2.toList := by decide
    obtain ⟨inLabel, inPage⟩ := inTable _ isRow
    simp [LinkTarget.href, Text.lt_not_mem_lower inProvider, Text.lt_not_mem_lower inLabel, inPage]
  | @registry scope provider path name source isNamed isSource read =>
    obtain ⟨inProvider, inPath⟩ := lt_not_mem_of_providerClass read (inSource source isSource)
    unfold registryUrl
    split <;> simp [LinkTarget.href, Text.lt_not_mem_lower inProvider, Text.lt_not_mem_lower inPath]
  | @handler path source isSource read =>
    obtain ⟨rest, within, read⟩ := Text.exists_of_afterFirst? read
    have inPath : '<' ∉ path.toList := by
      intro inPath
      exact inSource source isSource (within (mem_of_readRest read inPath))
    simp [LinkTarget.href, inPath]

end Link

end DocPress
