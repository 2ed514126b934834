import DocPress.Link
import DocPress.Proofs.NestedFields

/-! # Links to the same page

Which references lead to a place of the page that they stand on is decided by names: by the name of
a reference, and by those of the class and of the interfaces of the unit.

* `Link.Decides`: what each of the rules gives, and when it is the one that decides.
* `Link.resolve_eq_samePage_iff`: the references that lead to the same page. Neither the package of
  a reference nor the file that declares its target is looked at. -/

set_option autoImplicit false

namespace DocPress.Link

variable {unit : DocUnit} {ref : Reference}

/-- A reference to which none of the rules applies that come before those for the same page. -/
structure Unmarked (ref : Reference) : Prop where
  isKey : ref.name.asKey = .ok ref.name
  noMarker : marker? ref.name = none
  notShell : ref.qualifiedName ≠ some (.text "Shell")

/-- The anchor at which a unit documents what has a name: none for the class, which is documented by
the whole page, and one for an interface with another name than the class. -/
inductive NamedBy (unit : DocUnit) (name : Data) : Option String → Prop
  | ofClass (named : unit.class?.any (fun c => c.name = name) = true) : NamedBy unit name none
  | ofInterface {s : String} (notClass : unit.class?.any (fun c => c.name = name) = false)
      (named : (unit.interface? name).isSome) (isText : name = .text s) :
      NamedBy unit name (some (Text.lower s))

/-! ## Links that leave the page -/

/-- A link that leads to another page. -/
def LeavesPage (target : LinkTarget) : Prop := ∀ anchor label, target ≠ .samePage anchor label

theorem leavesPage_of_marker? {name : Data} {target : LinkTarget}
    (isMarker : marker? name = some target) : LeavesPage target := by
  obtain ⟨marker, found, rfl⟩ := Option.map_eq_some_iff.mp isMarker
  have member := List.mem_of_find?_eq_some found
  have all : ∀ m ∈ markers, LeavesPage m.2 := by
    simp [markers, LeavesPage, componentPage]
  exact all marker member

/-- The links to packages lead outside the site. -/
theorem exists_external_of_ofProvider {source : String} {target : LinkTarget}
    (leads : ofProvider ref source = .ok target) : ∃ url, target = .external url none := by
  unfold ofProvider at leads
  split at leads
  · cases leads
  · dsimp only at leads
    split at leads
    · split at leads
      · cases leads
      · cases leads
        exact ⟨_, rfl⟩
    · split at leads
      · cases leads
      · obtain ⟨name, -, leads⟩ := exists_of_bind_eq_ok leads
        cases leads
        exact ⟨_, rfl⟩

theorem exists_external_of_ofPackage {docs : PackageDocs} {source : String} {target : LinkTarget}
    (leads : ofPackage docs ref source = .ok target) :
    ∃ url label, target = .external url label := by
  unfold ofPackage at leads
  cases docs with
  | provider =>
    obtain ⟨url, isUrl⟩ := exists_external_of_ofProvider leads
    exact ⟨url, none, isUrl⟩
  | communityProvider =>
    dsimp only at leads
    split at leads
    · cases leads
    · obtain ⟨name, -, leads⟩ := exists_of_bind_eq_ok leads
      cases leads
      exact ⟨_, _, rfl⟩
  | handlerTypes =>
    dsimp only at leads
    split at leads
    · cases leads
    · cases leads
      exact ⟨_, _, rfl⟩
  | bundler | controlService | shell =>
    cases leads
    exact ⟨_, _, rfl⟩

theorem eq_text_of_required {d : Data} {use : TextUse} {s : String}
    (isText : d.required use = .ok s) : d = .text s := by
  cases d <;> cases isText
  rfl

theorem asKey_cases (d : Data) : d.asKey = .ok d ∨ ∃ fault, d.asKey = .error fault := by
  cases isKey : d.isKey <;> simp [Data.asKey, isKey]

/-! ## The rules -/

/-- A reference on the page of a unit to which none of the rules applies that come before that for
component sources. -/
structure PastNames (viewer : DocUnit) (ref : Reference) : Prop where
  noMarker : marker? ref.name = none
  notShell : ref.qualifiedName ≠ some (.text "Shell")
  notClass : viewer.class?.any (fun c => c.name = ref.name) = false
  notInterface : viewer.interface? ref.name = none

/-- Where a reference leads by the rule that decides, none of the earlier rules being one that
applies. -/
inductive Decides (unit : DocUnit) (ref : Reference) : LinkTarget → Prop
  | marker {target : LinkTarget} (isMarker : marker? ref.name = some target) :
      Decides unit ref target
  | shell (isShell : ref.qualifiedName = some (.text "Shell")) : Decides unit ref shellLink
  | name {anchor : Option String} (unmarked : Unmarked ref) (named : NamedBy unit ref.name anchor) :
      Decides unit ref (.samePage anchor none)
  | component {name source : String} (past : PastNames unit ref) (isNamed : ref.name = .text name)
      (isSource : sourceOf ref = .ok source)
      (isComponent : Fault.componentSourceRoot.toList <+: source.toList) :
      Decides unit ref (ofComponentSource name source)
  | package {docs : PackageDocs} {source : String} {target : LinkTarget}
      (isSource : sourceOf ref = .ok source)
      (notComponent : ¬ Fault.componentSourceRoot.toList <+: source.toList)
      (given : ofPackage docs ref source = .ok target) : Decides unit ref target

theorem decides_of_resolve {target : LinkTarget} (resolved : resolve unit ref = .ok target) :
    Decides unit ref target := by
  unfold resolve at resolved
  obtain ⟨name, isKey, resolved⟩ := exists_of_bind_eq_ok resolved
  obtain rfl : name = ref.name := by
    rcases asKey_cases ref.name with same | ⟨fault, fails⟩
    · exact Except.ok.inj (isKey.symm.trans same)
    · cases fails.symm.trans isKey
  split at resolved
  · rename_i marked isMarker
    cases resolved
    exact .marker isMarker
  rename_i noMarker
  split at resolved
  · rename_i isShell
    cases resolved
    exact .shell isShell
  rename_i notShell
  have unmarked : Unmarked ref := ⟨isKey, noMarker, notShell⟩
  split at resolved
  · rename_i isClass
    cases resolved
    exact .name unmarked (.ofClass isClass)
  rename_i notClass
  rw [Bool.not_eq_true] at notClass
  split at resolved
  · rename_i isInterface
    obtain ⟨name, isText, resolved⟩ := exists_of_bind_eq_ok resolved
    cases resolved
    exact .name unmarked (.ofInterface notClass isInterface (eq_text_of_required isText))
  rename_i notInterface
  rw [Bool.not_eq_true, Option.isSome_eq_false_iff, Option.isNone_iff_eq_none] at notInterface
  obtain ⟨source, isSource, resolved⟩ := exists_of_bind_eq_ok resolved
  split at resolved
  · rename_i isComponent
    rw [List.isPrefixOf_iff_prefix] at isComponent
    obtain ⟨name, isText, resolved⟩ := exists_of_bind_eq_ok resolved
    cases resolved
    exact .component ⟨noMarker, notShell, notClass, notInterface⟩ (eq_text_of_required isText)
      isSource isComponent
  rename_i notComponent
  rw [List.isPrefixOf_iff_prefix] at notComponent
  obtain ⟨docs, -, resolved⟩ := exists_of_bind_eq_ok resolved
  split at resolved
  · exact .package isSource notComponent resolved
  · cases resolved

/-! ## Links that stay on the page -/

theorem resolve_eq_samePage_iff (unit : DocUnit) (ref : Reference) (anchor label : Option String) :
    resolve unit ref = .ok (.samePage anchor label) ↔
      Unmarked ref ∧ NamedBy unit ref.name anchor ∧ label = none := by
  constructor
  · intro leads
    generalize isTarget : LinkTarget.samePage anchor label = target at leads
    cases decides_of_resolve leads with
    | marker isMarker => exact absurd isTarget.symm (leavesPage_of_marker? isMarker anchor label)
    | shell => cases isTarget
    | name unmarked named =>
      cases isTarget
      exact ⟨unmarked, named, rfl⟩
    | component => cases isTarget
    | package _ _ given =>
      obtain ⟨url, label, rfl⟩ := exists_external_of_ofPackage given
      cases isTarget
  · rintro ⟨⟨isKey, noMarker, notShell⟩, named, rfl⟩
    unfold resolve
    rw [isKey]
    cases named with
    | ofClass named => simp [bind, Except.bind, noMarker, notShell, named, pure, Except.pure]
    | @ofInterface s notClass named isText =>
      have textual : ref.name.required .inspected = .ok s := by
        rw [isText]
        rfl
      simp [bind, Except.bind, noMarker, notShell, notClass, named, textual, pure, Except.pure]

/-- A reference leads to the same page by its name alone: with another package and another target
it leads to the same place. -/
theorem resolve_samePage_by_name (unit : DocUnit) (ref : Reference)
    (anchor label : Option String) :
    (resolve unit ref = .ok (.samePage anchor label) ↔
      Unmarked ref ∧ NamedBy unit ref.name anchor ∧ label = none) ∧
    ∀ package arguments target,
      resolve unit ⟨ref.name, package, ref.qualifiedName, arguments, target⟩ =
        .ok (.samePage anchor label) ↔ resolve unit ref = .ok (.samePage anchor label) := by
  refine ⟨resolve_eq_samePage_iff unit ref anchor label, fun package arguments target => ?_⟩
  rw [resolve_eq_samePage_iff, resolve_eq_samePage_iff]
  have sameRules : Unmarked ⟨ref.name, package, ref.qualifiedName, arguments, target⟩ ↔
      Unmarked ref :=
    ⟨fun ⟨isKey, noMarker, notShell⟩ => ⟨isKey, noMarker, notShell⟩,
      fun ⟨isKey, noMarker, notShell⟩ => ⟨isKey, noMarker, notShell⟩⟩
  rw [sameRules]

/-! ## A target of another package -/

/-- A unit with an interface `BucketArgs`. -/
def bucketUnit : DocUnit where
  name := .text "components/aws/bucket"
  declarations :=
    [{ Declaration.bare "BucketArgs" .interfaceDecl none [] with
        sourcePath := some (.text "platform/src/components/aws/bucket.ts") }]
  sourcePath := some (.text "platform/src/components/aws/bucket.ts")
  comment := none

/-- A reference to the arguments of a bucket of a provider, which have the name of the interface. -/
def providerArgs : Reference where
  name := .text "BucketArgs"
  package := some (.text "@pulumi/aws")
  qualifiedName := none
  arguments := []
  target := some ⟨some (.text "node_modules/@pulumi/aws/s3/bucket.d.ts")⟩

/-- A reference can lead to the interface of a unit although its target is declared in a file of
another package. -/
theorem samePage_of_other_source : ¬ ∀ (unit : DocUnit) (ref : Reference)
    (anchor label : Option String), resolve unit ref = .ok (.samePage anchor label) →
    ∀ source, ref.sourcePath = some source →
      (match anchor with
        | none => unit.class?
        | some _ => unit.interface? ref.name).bind Declaration.sourcePath = some source := by
  intro follows
  have leads : resolve bucketUnit providerArgs = .ok (.samePage (some "bucketargs") none) := rfl
  have sameSource := follows bucketUnit providerArgs _ _ leads _ rfl
  simp [bucketUnit, providerArgs, DocUnit.interface?, DocUnit.interfaces, DocUnit.ofKind,
    Declaration.bare] at sameSource

end DocPress.Link
