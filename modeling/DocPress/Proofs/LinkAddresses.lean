import DocPress.Proofs.ComponentLinks
import DocPress.Proofs.LinkTargets
import Mathlib.Data.List.Infix

/-! # The addresses of links

The address of a link is that of the page it stands on, of a place on this page, of the page of a
component, or of a page outside the site. A target that is declared among the component sources has
another address if its path names no source file there: what is to be replaced in the path is not
found, and the path itself becomes the address.

* `Link.Addresses`: the four forms of addresses.
* `Link.NamesSource`: the paths that name a source file.
* `Link.Leaks`: the references to targets among the component sources whose paths name none.
* `Link.addresses_iff_not_leaks`: these are the references with an address of another form. -/

set_option autoImplicit false

namespace DocPress

namespace Link

open Fault (componentSourceRoot)

/-- The forms of the addresses of a reference. -/
inductive Addresses (ref : Reference) : String → Prop
  | page : Addresses ref "."
  | anchor {name : String} (isNamed : ref.name = .text name) :
      Addresses ref ("#" ++ Text.lower name)
  | component (rest : String) : Addresses ref ("/docs/component/" ++ rest)
  | outside (rest : String) : Addresses ref ("https://" ++ rest)

variable {unit : DocUnit} {ref : Reference} {target : LinkTarget} {source : String}

theorem exists_append_of_starts {start s : String} (starts : start.toList <+: s.toList) :
    ∃ rest, s = start ++ rest := by
  obtain ⟨rest, whole⟩ := starts
  refine ⟨String.ofList rest, String.toList_inj.mp ?_⟩
  rw [String.toList_append, String.toList_ofList, whole]

theorem Addresses.component_of_starts {address : String}
    (starts : "/docs/component/".toList <+: address.toList) : Addresses ref address := by
  obtain ⟨rest, rfl⟩ := exists_append_of_starts starts
  exact .component rest

theorem Addresses.outside_of_starts {address : String}
    (starts : "https://".toList <+: address.toList) : Addresses ref address := by
  obtain ⟨rest, rfl⟩ := exists_append_of_starts starts
  exact .outside rest

theorem Addresses.not_starts_source {address : String} (addresses : Addresses ref address) :
    ¬ componentSourceRoot.toList <+: address.toList := by
  cases addresses with
  | page => decide
  | anchor | component | outside => simp [componentSourceRoot]

/-! ## Paths among the component sources -/

/-- A path that names a source file among the component sources: after the source tree, its first
line goes on to the ending of a source file. -/
def NamesSource (path : List Char) : Prop :=
  ∃ front back : List Char, '\n' ∉ front ∧
    path = componentSourceRoot.toList ++ (front ++ (".ts".toList ++ back))

theorem isSome_readComponentSource_iff {cs : List Char} :
    (readComponentSource cs).isSome ↔ NamesSource cs := by
  constructor
  · intro isRead
    obtain ⟨⟨front, length⟩, read⟩ := Option.isSome_iff_exists.mp isRead
    unfold readComponentSource at read
    split at read
    · cases read
    · rename_i rest dropped
      split at read
      · cases read
      · rename_i path back isCut
        have inLine := Text.eq_append_of_cutLast? isCut
        have oneLine : '\n' ∉ path := by
          intro inPath
          have isMember : '\n' ∈ (Text.firstLine rest).1 := by
            rw [inLine]
            exact List.mem_append_left _ inPath
          simpa using List.mem_takeWhile_imp isMember
        have whole : (Text.firstLine rest).1 ++ (Text.firstLine rest).2 = rest :=
          List.takeWhile_append_dropWhile
        refine ⟨path, back ++ (Text.firstLine rest).2, oneLine, ?_⟩
        calc
          cs = componentSourceRoot.toList ++ rest := Text.eq_append_of_dropWord? dropped
          _ = componentSourceRoot.toList ++
              ((Text.firstLine rest).1 ++ (Text.firstLine rest).2) := by rw [whole]
          _ = _ := by rw [inLine, List.append_assoc, List.append_assoc]
  · rintro ⟨front, back, oneLine, rfl⟩
    have line : (Text.firstLine (front ++ (".ts".toList ++ back))).1 =
        front ++ (".ts".toList ++ (Text.firstLine back).1) := by
      rw [Text.firstLine_append oneLine, Text.firstLine_append (by decide)]
    obtain ⟨⟨path, rest⟩, isCut⟩ :=
      Text.exists_cutLast?_append ".ts".toList front (Text.firstLine back).1
    rw [readComponentSource, Text.dropWord?_append]
    simp only [line, isCut, Option.isSome_some]

theorem readComponentSource_eq_none_iff {cs : List Char} :
    readComponentSource cs = none ↔ ¬ NamesSource cs := by
  rw [← isSome_readComponentSource_iff, Option.isSome_iff_ne_none, not_not]

/-- Characters at which no component source is read stay as they are. -/
theorem componentPages_append {front rest : List Char}
    (unread : ∀ back, back <:+ front → back ≠ [] → ¬ NamesSource (back ++ rest)) :
    componentPages 0 (front ++ rest) = front ++ componentPages 0 rest := by
  induction front with
  | nil => rfl
  | cons c front inductionHypothesis =>
    have here : readComponentSource (c :: (front ++ rest)) = none :=
      readComponentSource_eq_none_iff.mpr (unread (c :: front) List.suffix_rfl (by simp))
    have later := inductionHypothesis fun back isEnd =>
      unread back (isEnd.trans (List.suffix_cons c front))
    rw [List.cons_append, componentPages]
    simp only [here, later, List.cons_append]

/-- A path that goes on from an end of the source tree, short of the whole, names no source file, as
no such end is a start of the source tree. -/
theorem not_namesSource_of_proper {back rest : List Char} (nonempty : back ≠ [])
    (isEnd : back <:+ componentSourceRoot.toList.tail) : ¬ NamesSource (back ++ rest) := by
  rintro ⟨path, more, -, whole⟩
  have starts : componentSourceRoot.toList <+: back ++ rest := ⟨_, whole.symm⟩
  have short : back.length ≤ componentSourceRoot.toList.length :=
    isEnd.length_le.trans (by decide)
  have overlap : back <+: componentSourceRoot.toList :=
    List.prefix_of_prefix_length_le (List.prefix_append _ _) starts short
  have unbordered : ∀ back ∈ componentSourceRoot.toList.tail.tails,
      back ≠ [] → ¬ back <+: componentSourceRoot.toList := by
    decide
  exact unbordered back ((List.mem_tails _ _).mpr isEnd) nonempty overlap

/-- A path with the source tree that names no source file keeps it. -/
theorem source_prefix_componentPages {path : List Char}
    (starts : componentSourceRoot.toList <+: path) (unnamed : ¬ NamesSource path) :
    componentSourceRoot.toList <+: componentPages 0 path := by
  obtain ⟨rest, rfl⟩ := starts
  rw [componentPages_append]
  · exact List.prefix_append _ _
  · intro back isEnd nonempty
    -- the whole source tree, or an end of it
    rcases List.suffix_cons_iff.mp isEnd with rfl | isEnd
    · exact unnamed
    · exact not_namesSource_of_proper nonempty isEnd

theorem docs_prefix_componentPages {path : List Char} (named : NamesSource path) :
    "/docs/component/".toList <+: componentPages 0 path := by
  obtain ⟨⟨page, length⟩, read⟩ :=
    Option.isSome_iff_exists.mp (isSome_readComponentSource_iff.mpr named)
  cases path with
  | nil => cases read
  | cons c cs =>
    rw [componentPages]
    simp only [read]
    have root : "/docs/component/".toList = componentDocsRoot.toList ++ ['/'] := by decide
    rw [root, List.append_assoc, List.prefix_append_right_inj]
    exact ⟨page ++ componentPages (length - 1) cs, rfl⟩

theorem componentPages_prefix_href (name source : String) :
    componentPages 0 source.toList <+: (ofComponentSource name source).href.toList := by
  unfold ofComponentSource
  split <;> simp [LinkTarget.href]

/-! ## The rules -/

theorem addresses_of_fixed (isFixed : target ∈ fixedTargets) : Addresses ref target.href := by
  have all : ∀ target ∈ fixedTargets, "/docs/component/".toList <+: target.href.toList ∨
      "https://".toList <+: target.href.toList := by
    decide +kernel
  rcases all target isFixed with starts | starts
  · exact .component_of_starts starts
  · exact .outside_of_starts starts

theorem outside_prefix_registryUrl (provider cls name : String) :
    "https://".toList <+: (registryUrl provider cls name).toList := by
  unfold registryUrl
  split <;> simp

theorem Leads.addresses_or_component (leads : Leads ref target) :
    Addresses ref target.href ∨ ∃ name source, target = ofComponentSource name source := by
  cases leads with
  | fixed isFixed => exact .inl (addresses_of_fixed isFixed)
  | page => exact .inl .page
  | anchor isNamed => exact .inl (.anchor isNamed)
  | @component name source => exact .inr ⟨name, source, rfl⟩
  | inputType => exact .inl (.outside_of_starts (by simp [LinkTarget.href]))
  | registry => exact .inl (.outside_of_starts (outside_prefix_registryUrl _ _ _))
  | handler => exact .inl (.outside_of_starts (by simp [LinkTarget.href]))

/-- A reference to a target that is declared among the component sources, to which none of the rules
applies that come before the one for such targets. -/
structure ToComponent (unit : DocUnit) (ref : Reference) (source : String) : Prop where
  past : PastNames unit ref
  isSource : sourceOf ref = .ok source
  isComponent : componentSourceRoot.toList <+: source.toList

theorem resolve_cases (resolved : resolve unit ref = .ok target) :
    (∃ name source, ToComponent unit ref source ∧ target = ofComponentSource name source) ∨
      (∀ source, ¬ ToComponent unit ref source) ∧ Addresses ref target.href := by
  cases decides_of_resolve resolved with
  | marker isMarker =>
    have isFixed := mem_fixedTargets_of_marker? isMarker
    refine .inr ⟨fun source component => ?_, addresses_of_fixed isFixed⟩
    cases component.past.noMarker.symm.trans isMarker
  | shell isShell =>
    exact .inr ⟨fun source component => component.past.notShell isShell,
      addresses_of_fixed (by decide)⟩
  | name _ named =>
    cases named with
    | ofClass isClass =>
      refine .inr ⟨fun source component => ?_, .page⟩
      cases component.past.notClass.symm.trans isClass
    | ofInterface _ isInterface isText =>
      refine .inr ⟨fun source component => ?_, .anchor isText⟩
      rw [component.past.notInterface] at isInterface
      cases isInterface
  | @component name source past _ isSource isComponent =>
    exact .inl ⟨name, source, ⟨past, isSource, isComponent⟩, rfl⟩
  | package isSource notComponent given =>
    obtain ⟨url, label, rfl⟩ := exists_external_of_ofPackage given
    refine .inr ⟨fun source component => ?_, ?_⟩
    · cases component.isSource.symm.trans isSource
      exact notComponent component.isComponent
    · rcases (leads_of_resolve resolved).addresses_or_component with addresses | ⟨_, _, isPage⟩
      · exact addresses
      · cases isPage

/-- A reference to a target among the component sources whose path names no source file there. -/
def Leaks (unit : DocUnit) (ref : Reference) : Prop :=
  ∃ source, ToComponent unit ref source ∧ ¬ NamesSource source.toList

theorem source_starts_of_leaks (resolved : resolve unit ref = .ok target)
    (leaks : Leaks unit ref) : componentSourceRoot.toList <+: target.href.toList := by
  obtain ⟨source, component, unnamed⟩ := leaks
  rcases resolve_cases resolved with ⟨name, other, toOther, rfl⟩ | ⟨notComponent, -⟩
  · cases component.isSource.symm.trans toOther.isSource
    have kept := source_prefix_componentPages component.isComponent unnamed
    exact kept.trans (componentPages_prefix_href name source)
  · exact absurd component (notComponent source)

theorem addresses_of_not_leaks (resolved : resolve unit ref = .ok target)
    (notLeaks : ¬ Leaks unit ref) : Addresses ref target.href := by
  rcases resolve_cases resolved with ⟨name, source, component, rfl⟩ | ⟨-, addresses⟩
  · have named : NamesSource source.toList :=
      not_not.mp fun unnamed => notLeaks ⟨source, component, unnamed⟩
    have starts := docs_prefix_componentPages named
    exact .component_of_starts (starts.trans (componentPages_prefix_href name source))
  · exact addresses

/-- The address of a link has one of the four forms, unless the path of its target, which is
declared among the component sources, names no source file there. The address is then no page at
all: it starts with the source tree. -/
theorem addresses_iff_not_leaks (unit : DocUnit) (ref : Reference) (target : LinkTarget)
    (resolved : resolve unit ref = .ok target) :
    (Addresses ref target.href ↔ ¬ Leaks unit ref) ∧
      (Leaks unit ref → componentSourceRoot.toList <+: target.href.toList) := by
  have starts : Leaks unit ref → componentSourceRoot.toList <+: target.href.toList :=
    source_starts_of_leaks resolved
  refine ⟨⟨?_, addresses_of_not_leaks resolved⟩, starts⟩
  intro addresses leaks
  exact addresses.not_starts_source (starts leaks)

/-- A reference to a declaration in a file with another ending. -/
def moduleReference : Reference where
  name := .text "Realtime"
  package := none
  qualifiedName := none
  arguments := []
  target := some ⟨some (.text "platform/src/components/aws/realtime.mts")⟩

theorem resolve_moduleReference : resolve emptyUnit moduleReference =
    .ok (.otherPage "platform/src/components/aws/realtime.mts" none none) := rfl

theorem leaks_moduleReference : Leaks emptyUnit moduleReference := by
  have past : PastNames emptyUnit moduleReference := ⟨by decide, by decide, rfl, rfl⟩
  have isComponent : ToComponent emptyUnit moduleReference
      "platform/src/components/aws/realtime.mts" := ⟨past, rfl, by decide⟩
  exact ⟨_, isComponent, readComponentSource_eq_none_iff.mp rfl⟩

theorem addresses_iff_not_leaks_components :
    (∃ target, resolve emptyUnit permissionArgs = .ok target ∧
      Addresses permissionArgs target.href ∧ ¬ Leaks emptyUnit permissionArgs) ∧
    ∃ target, resolve emptyUnit moduleReference = .ok target ∧
      ¬ Addresses moduleReference target.href ∧ Leaks emptyUnit moduleReference := by
  refine ⟨⟨_, rfl, ?_⟩, ⟨_, resolve_moduleReference, ?_⟩⟩
  · have address : Addresses permissionArgs "/docs/component/a.ts/aws/permission#permissionargs" :=
      .component "a.ts/aws/permission#permissionargs"
    exact ⟨address, (addresses_iff_not_leaks emptyUnit permissionArgs _ rfl).1.mp address⟩
  · have forms := addresses_iff_not_leaks emptyUnit moduleReference _ resolve_moduleReference
    exact ⟨fun addresses => forms.1.mp addresses leaks_moduleReference, leaks_moduleReference⟩

/-- The path of the declaring file becomes the address of the link. -/
theorem source_path_becomes_address : ¬ ∀ (unit : DocUnit) (ref : Reference) (target : LinkTarget),
    resolve unit ref = .ok target → Addresses ref target.href := by
  intro all
  have addresses := all emptyUnit moduleReference _ resolve_moduleReference
  exact addresses.not_starts_source (by decide)

end Link

end DocPress
