import DocPress.Proofs.Lowercase
import DocPress.Proofs.PageSubjects
import DocPress.Proofs.RuntimeAnchors
import DocPress.Proofs.SamePageLinks
import DocPress.Proofs.SubcommandAnchors

/-! # The texts of anchors

An anchor is made of small letters, digits and hyphens, and it has a hyphen: that of the full stop
between the path and the name, which lower-casing leaves alone whatever becomes of the letters
around it.

* `Anchor.Hyphenated`: such a text. It is not empty, and not the lower-case form of a name without a
  hyphen.
* `Anchors.Hyphenated`: the invariant of registries, that all anchors given out are such texts.
* `Page.isAnswer_of_mem_anchors`: the anchors of a page are answers of registries.

What is written above a section depends on whether its anchor is empty, and its heading on whether
there is one. These tests agree by the invariant (`Section.SameTest`). -/

set_option autoImplicit false

namespace DocPress

/-! ## One anchor -/

namespace Anchor

/-- A text of small letters, digits and hyphens, with a hyphen in it. -/
structure Hyphenated (s : String) : Prop where
  plain : ∀ c ∈ s.toList, ('a' ≤ c ∧ c ≤ 'z') ∨ ('0' ≤ c ∧ c ≤ '9') ∨ c = '-'
  hyphen : '-' ∈ s.toList

variable {s : String}

theorem Hyphenated.ne_empty (hyphenated : Hyphenated s) : s ≠ "" := by
  rintro rfl
  exact absurd hyphenated.hyphen List.not_mem_nil

/-- Lower-casing makes no hyphen. -/
theorem Hyphenated.ne_lower (hyphenated : Hyphenated s) {name : String}
    (noHyphen : '-' ∉ name.toList) : s ≠ Text.lower name := by
  rintro rfl
  have isSign : Text.IsSign '-' := by decide
  exact noHyphen ((isSign.mem_lower_iff name).mp hyphenated.hyphen)

/-- The full stop between the path and the name is kept, and becomes a hyphen. -/
theorem hyphenated_base (path name : String) : Hyphenated (base path name) := by
  have fullStop : '.' ∈ (Text.lower (path ++ "." ++ name)).toList := by
    have isSign : Text.IsSign '.' := by decide
    rw [isSign.mem_lower_iff]
    simp
  constructor
  · intro c member
    rw [base, String.toList_ofList] at member
    obtain ⟨kept, isKept, rfl⟩ := List.mem_map.mp member
    have allowed := (List.mem_filter.mp isKept).2
    split
    · exact .inr (.inr rfl)
    · rename_i notStop
      have isPlain : ('a' ≤ kept ∧ kept ≤ 'z') ∨ ('0' ≤ kept ∧ kept ≤ '9') := by
        simpa [isAllowed, notStop] using allowed
      exact isPlain.imp_right .inl
  · rw [base, String.toList_ofList]
    exact List.mem_map.mpr ⟨'.', List.mem_filter.mpr ⟨fullStop, rfl⟩, rfl⟩

theorem digitChar_bounds : ∀ d < 10, '0' ≤ Numeral.digitChar d ∧ Numeral.digitChar d ≤ '9' := by
  decide

/-- What avoids collisions is a hyphen and digits. -/
theorem Hyphenated.candidate (hyphenated : Hyphenated s) (n : Nat) :
    Hyphenated (candidate s n) := by
  cases n with
  | zero => exact hyphenated
  | succ n =>
    have parts : (Anchor.candidate s (n + 1)).toList =
        s.toList ++ '-' :: Numeral.digits (n + 1) := by
      simp [Anchor.candidate, Numeral.ofNat]
    constructor
    · intro c member
      rw [parts, List.mem_append, List.mem_cons] at member
      rcases member with inBase | isHyphen | inNumber
      · exact hyphenated.plain c inBase
      · exact .inr (.inr isHyphen)
      · obtain ⟨d, small, rfl⟩ := Numeral.exists_digitChar_of_mem inNumber
        exact .inr (.inl (digitChar_bounds d small))
    · rw [parts]
      exact List.mem_append_left _ hyphenated.hyphen

end Anchor

/-! ## Registries -/

namespace Anchors

variable {Owner : Type}

def Hyphenated (registry : Anchors Owner) : Prop :=
  ∀ entry ∈ registry.given, Anchor.Hyphenated entry.2

theorem Hyphenated.empty : (Anchors.empty : Anchors Owner).Hyphenated := fun _ member =>
  absurd member List.not_mem_nil

variable [DecidableEq Owner] {registry : Anchors Owner}

/-- A request keeps the invariant: what it adds is a candidate for its base. -/
theorem Hyphenated.serve (hyphenated : registry.Hyphenated) (request : Request Owner) :
    (registry.serve request).2.Hyphenated := by
  rcases assign_cases registry request.owner request.path request.name with
    ⟨_, -, assigned⟩ | ⟨anchor, n, -, rfl, -, assigned⟩
  · rw [Anchors.serve, assigned]
    exact hyphenated
  · rw [Anchors.serve, assigned]
    exact List.forall_mem_cons.mpr ⟨(Anchor.hyphenated_base _ _).candidate n, hyphenated⟩

theorem Hyphenated.after (hyphenated : registry.Hyphenated) (requests : List (Request Owner)) :
    (registry.after requests).Hyphenated := by
  induction requests generalizing registry with
  | nil => exact hyphenated
  | cons request requests inductionHypothesis =>
    exact inductionHypothesis (hyphenated.serve request)

/-- The answer to a request is one of the anchors that have been given out after it. -/
theorem Hyphenated.answer (hyphenated : registry.Hyphenated) (request : Request Owner) :
    Anchor.Hyphenated (registry.serve request).1 := by
  have held : (registry.serve request).2.find? request.owner = some (registry.serve request).1 :=
    find?_assign_self registry request.owner request.path request.name
  exact hyphenated.serve request _ (mem_given_of_find? held)

/-- A text with which some registry, after some requests, answers another one. -/
def IsAnswer (anchor : String) : Prop :=
  ∃ (requests : List (Request Place)) (next : Request Place),
    anchor = ((empty.after requests).serve next).1

theorem IsAnswer.hyphenated {anchor : String} (isAnswer : IsAnswer anchor) :
    Anchor.Hyphenated anchor := by
  obtain ⟨requests, next, rfl⟩ := isAnswer
  exact (Hyphenated.empty.after requests).answer next

/-- What an owner holds after some requests is the answer to a request of its own. -/
theorem isAnswer_of_find? {requests : List (Request Place)} {owner : Place} {anchor : String}
    (held : (empty.after requests).find? owner = some anchor) : IsAnswer anchor :=
  ⟨requests, ⟨owner, "", ""⟩, by rw [serve, assign_of_find? held]⟩

end Anchors

/-! ## The anchors of pages -/

namespace Section

open Anchors (IsAnswer)

variable {fields : List FieldEntry} {sections : List Section} {anchor : String}

theorem AnchoredBy.isAnswer_of_mem
    (anchored : AnchoredBy (Anchors.empty.after (fields.map FieldEntry.request)) fields sections)
    (member : anchor ∈ anchors sections) : IsAnswer anchor := by
  obtain ⟨e, -, held⟩ := anchored.exists_of_mem member
  exact Anchors.isAnswer_of_find? held

/-- The test whether the anchor is one that is not empty agrees with the test whether there is
one. -/
def SameTest (s : Section) : Prop := (s.anchor.any fun a => a ≠ "") = s.anchor.isSome

theorem sameTest_of_nonempty {s : Section} (nonempty : ∀ a ∈ s.anchor, a ≠ "") : s.SameTest := by
  unfold SameTest
  cases isAnchor : s.anchor with
  | none => rfl
  | some a => simpa using nonempty a isAnchor

theorem SameTest.lines_eq_iff {s : Section} (sameTest : s.SameTest) :
    Page.sectionLines s = s.heading :: s.body ↔ s.anchor.isSome := by
  unfold SameTest at sameTest
  unfold Page.sectionLines
  rw [sameTest]
  cases s.anchor.isSome with
  | true => simp
  | false =>
    -- a heading without an anchor has an empty line before it, and an empty heading is no line
    by_cases noHeading : s.heading = "" <;> simp [noHeading]

end Section

namespace Page

open Anchors (IsAnswer)
open Section (anchors)

variable {config : SiteConfig} {sdk units : List DocUnit} {unit : DocUnit} {page : Page}
  {anchor : String}

theorem anchors_extraFunctions {es : List (String × String)} {sections : List Section}
    (built : extraFunctions unit units es = .ok sections) : anchors sections = [] := by
  induction es generalizing sections with
  | nil =>
    cases built
    rfl
  | cons e es inductionHypothesis =>
    unfold extraFunctions at built
    split at built
    · cases built
    · obtain ⟨first, ofFirst, built⟩ := exists_of_bind_eq_ok built
      obtain ⟨rest, ofRest, built⟩ := exists_of_bind_eq_ok built
      cases built
      rw [Section.anchors_append, Section.anchors_functionGroup ofFirst, List.nil_append]
      exact inductionHypothesis ofRest

theorem anchoredBy_of_ofGlobal (built : ofGlobal config units unit = .ok page) :
    Section.AnchoredBy
      (Anchors.empty.after ((Section.variableGroupFields unit).map FieldEntry.request))
      (Section.variableGroupFields unit) page.sections := by
  obtain ⟨comment, -, built⟩ := exists_of_bind_eq_ok built
  obtain ⟨about, introduced, built⟩ := exists_of_bind_eq_ok built
  obtain ⟨vars, ofVars, built⟩ := exists_of_bind_eq_ok built
  obtain ⟨functions, ofFunctions, built⟩ := exists_of_bind_eq_ok built
  obtain ⟨extra, ofExtra, built⟩ := exists_of_bind_eq_ok built
  obtain ⟨source, -, built⟩ := exists_of_bind_eq_ok built
  cases built
  have sameAnchors : anchors (about ++ vars ++ functions ++ extra) = anchors vars := by
    simp only [Section.anchors_append, Section.anchors_about introduced,
      Section.anchors_functionGroup ofFunctions, anchors_extraFunctions ofExtra, List.nil_append,
      List.append_nil]
  rw [Section.AnchoredBy, sameAnchors]
  exact (Section.documents_variableGroup _).anchoredBy_of_fresh ofVars

theorem isAnswer_of_ofComponent (built : ofComponent config sdk unit = .ok page)
    (member : anchor ∈ anchors page.sections) : IsAnswer anchor := by
  obtain ⟨parts, ofParts, sameSections⟩ := exists_of_ofComponent built
  obtain ⟨ownAnchored, module?, named, ofRuntime⟩ := exists_of_partsOf ofParts
  -- the group on the runtime use stands between the other parts, but has a registry of its own
  have inPart : anchor ∈ anchors parts.own ∨ anchor ∈ anchors parts.runtime := by
    simp only [sameSections, ComponentParts.sections, ComponentParts.own, Section.anchors_append,
      List.mem_append] at member ⊢
    tauto
  rcases inPart with isOwn | isRuntime
  · exact ownAnchored.isAnswer_of_mem isOwn
  · exact (anchored_of_sdkSections named ofRuntime).isAnswer_of_mem isRuntime

/-- All anchors of the page of a unit have been given out by a registry. -/
theorem isAnswer_of_mem_anchors (built : ofUnit? config sdk units unit = .ok (some page))
    (member : anchor ∈ anchors page.sections) : IsAnswer anchor := by
  obtain ⟨family, -, builtBy⟩ := exists_builtBy_of_ofUnit? built
  cases builtBy with
  | global ofGlobal => exact (anchoredBy_of_ofGlobal ofGlobal).isAnswer_of_mem member
  | config ofConfig => exact (anchoredBy_of_ofConfig ofConfig).isAnswer_of_mem member
  | dns ofDns =>
    exact (anchoredBy_of_helperSections (helperSections_of_ofDns ofDns)).isAnswer_of_mem member
  | linkable ofLinkable =>
    exact (anchoredBy_of_helperSections (helperSections_of_ofLinkable ofLinkable)).isAnswer_of_mem
      member
  | component ofComponent => exact isAnswer_of_ofComponent ofComponent member

theorem sameTest_of_mem_sections (built : ofUnit? config sdk units unit = .ok (some page))
    {s : Section} (member : s ∈ page.sections) : s.SameTest := by
  refine Section.sameTest_of_nonempty fun a isAnchor => ?_
  have inAnchors : a ∈ anchors page.sections := List.mem_filterMap.mpr ⟨s, member, isAnchor⟩
  exact (isAnswer_of_mem_anchors built inAnchors).hyphenated.ne_empty

end Page

theorem Command.sameTest_of_mem_sections {root : Command} {s : Section}
    (member : s ∈ root.sections) : s.SameTest := by
  refine Section.sameTest_of_nonempty fun a isAnchor => ?_
  have inAnchors : a ∈ Section.anchors root.sections :=
    List.mem_filterMap.mpr ⟨s, member, isAnchor⟩
  rw [Command.anchors_sections] at inAnchors
  obtain ⟨c, -, ofCommand⟩ := List.mem_flatMap.mp inAnchors
  obtain ⟨sub, -, rfl⟩ := List.mem_map.mp ofCommand
  simp [Command.anchorOf]

/-! ## All answers -/

namespace Anchors

/-- Whatever a registry has been asked before, it answers with a text of small letters, digits and
hyphens that has a hyphen. So the answer is not empty, and a link by the name of an interface does
not lead there if the name has no hyphen. The anchors of the page of a unit are such answers. On it,
as on the page of a command line, the tests for an anchor agree, and the sections that have one are
those that start with their heading. -/
theorem hyphenated_of_requests {Owner : Type} [DecidableEq Owner] (requests : List (Request Owner))
    (next : Request Owner) :
    let slug := ((empty.after requests).serve next).1
    (Anchor.Hyphenated slug ∧ slug ≠ "" ∧
      ∀ (unit : DocUnit) (ref : Reference) (name link : String) (label : Option String),
        ref.name = .text name → '-' ∉ name.toList →
        Link.resolve unit ref = .ok (.samePage (some link) label) → slug ≠ link) ∧
    (∀ (config : SiteConfig) (sdk units : List DocUnit) (unit : DocUnit) (page : Page),
      Page.ofUnit? config sdk units unit = .ok (some page) → ∀ s ∈ page.sections,
        (∀ anchor, s.anchor = some anchor → IsAnswer anchor ∧ Anchor.Hyphenated anchor) ∧
        s.SameTest ∧
        (Page.sectionLines s = s.heading :: s.body ↔ s.anchor.isSome)) ∧
    ∀ root : Command, ∀ s ∈ (Page.ofCommands root).sections, s.SameTest ∧
      (Page.sectionLines s = s.heading :: s.body ↔ s.anchor.isSome) := by
  intro slug
  have hyphenated : Anchor.Hyphenated slug := (Hyphenated.empty.after requests).answer next
  refine ⟨⟨hyphenated, hyphenated.ne_empty, ?_⟩, ?_, ?_⟩
  · intro unit ref name link label isName noHyphen leads
    obtain ⟨-, named, -⟩ := (Link.resolve_eq_samePage_iff unit ref (some link) label).mp leads
    rw [isName] at named
    cases named with
    | ofInterface _ _ isText =>
      cases isText
      exact hyphenated.ne_lower noHyphen
  · intro config sdk units unit page built s member
    have sameTest := Page.sameTest_of_mem_sections built member
    refine ⟨fun anchor isAnchor => ?_, sameTest, sameTest.lines_eq_iff⟩
    have isAnswer :=
      Page.isAnswer_of_mem_anchors built (List.mem_filterMap.mpr ⟨s, member, isAnchor⟩)
    exact ⟨isAnswer, isAnswer.hyphenated⟩
  · intro root s member
    have sameTest := Command.sameTest_of_mem_sections member
    exact ⟨sameTest, sameTest.lines_eq_iff⟩

/-- A reference to the arguments of the component, which are an interface of its unit. -/
def fooArgs : Reference where
  name := .text "FooArgs"
  package := none
  qualifiedName := none
  arguments := []
  target := none

theorem resolve_fooArgs :
    Link.resolve Page.resourceUnit fooArgs = .ok (.samePage (some "fooargs") none) := rfl

theorem resourceUnit_page_anchored :
    (Page.ofUnit? .standard [] [] Page.resourceUnit).map (Option.map fun p =>
      (Section.anchors p.sections).contains "resource-url") = .ok (some true) := rfl

/-- The second of two fields of one slug gets an anchor with a number, which is not that of the
interface, and the page of the unit has a section with an anchor. -/
theorem hyphenated_of_requests_resource :
    ((empty.after [⟨0, "resource", "url"⟩]).serve ⟨1, "resource", "url"⟩).1 = "resource-url-1" ∧
      Anchor.Hyphenated "resource-url-1" ∧ "resource-url-1" ≠ "fooargs" ∧
      ∃ page, Page.ofUnit? .standard [] [] Page.resourceUnit = .ok (some page) ∧
        ∃ s ∈ page.sections, s.anchor = some "resource-url" ∧ s.SameTest ∧
          Page.sectionLines s = s.heading :: s.body := by
  have answered : ((empty.after [⟨0, "resource", "url"⟩]).serve ⟨1, "resource", "url"⟩).1 =
      "resource-url-1" := by decide +kernel
  obtain ⟨⟨hyphenated, -, notLink⟩, ofPages, -⟩ :=
    hyphenated_of_requests [⟨0, "resource", "url"⟩] ⟨1, "resource", "url"⟩
  rw [answered] at hyphenated notLink
  have differ := notLink Page.resourceUnit fooArgs "FooArgs" _ _ rfl (by decide) resolve_fooArgs
  obtain ⟨page?, built, anchored⟩ := exists_of_map_eq_ok resourceUnit_page_anchored
  obtain ⟨page, rfl, contained⟩ := Option.map_eq_some_iff.mp anchored
  obtain ⟨s, member, isAnchor⟩ := List.mem_filterMap.mp (List.contains_iff_mem.mp contained)
  obtain ⟨-, sameTest, startsWithHeading⟩ := ofPages _ _ _ _ page built s member
  exact ⟨answered, hyphenated, differ, page, built, s, member, isAnchor, sameTest,
    startsWithHeading.mpr (by rw [isAnchor]; rfl)⟩

end Anchors

end DocPress
