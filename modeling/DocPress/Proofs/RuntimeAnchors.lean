import DocPress.Proofs.PageAnchors

/-! # The anchors of the runtime group

The group on the runtime use of a component documents a runtime module in a registry of its own,
which knows nothing of the anchors that the rest of the page has given out.

* `Page.runtimeFields`: the nested fields that the group documents.
* `Page.exists_slug_of_mem`, `Page.slug_mem_anchors`: the anchors of sections come from the slugs of
  their fields, and each slug is one of the anchors.

So the group has an anchor of the rest of the page where fields of both have a slug in common, and
only there. -/

set_option autoImplicit false

namespace DocPress

namespace Section

/-- In sections that document fields, equal anchors are anchors of one place. -/
theorem AnchoredBy.place_eq {registry : Anchors Place} {fields : List FieldEntry}
    {sections : List Section} (anchored : AnchoredBy registry fields sections)
    (lawful : registry.Lawful) {i j : Nat} {e e' : FieldEntry} (first : fields[i]? = some e)
    (second : fields[j]? = some e') (sameAnchor : (anchors sections)[i]? = (anchors sections)[j]?) :
    e.place = e'.place := by
  have anchorAt : ∀ k : Nat, (anchors sections)[k]?.map some =
      fields[k]?.map fun e => registry.find? e.place := by
    intro k
    rw [← List.getElem?_map, ← List.getElem?_map, anchored]
  have held := anchorAt i
  have held' := anchorAt j
  rw [first, Option.map_some] at held
  rw [second, Option.map_some, ← sameAnchor, held, Option.some.injEq] at held'
  obtain ⟨anchor, -, found⟩ := anchored.exists_find? (List.mem_of_getElem? first)
  exact lawful.owner_unique found (held' ▸ found)

end Section

namespace Page

open Anchor (candidate)
open Section (anchors)

variable {config : SiteConfig} {sdk : List DocUnit} {unit : DocUnit}

/-- The nested fields that the groups of a runtime module document. -/
def moduleFields (rules : SdkRules) (s : DocUnit) : List FieldEntry :=
  (if s.name.isIn rules.withVariables then Section.variableGroupFields s else []) ++
    Section.interfaceGroupFields s (fun _ => true) true

/-- The nested fields that the group on the runtime use of a component documents. -/
def runtimeFields (config : SiteConfig) (sdk : List DocUnit) (unit : DocUnit) : List FieldEntry :=
  match sdkOf? sdk unit with
  | .ok (some s) => moduleFields config.sdkRules s
  | _ => []

theorem anchors_moduleIntro {rules : SdkRules} {s : DocUnit} {sections : List Section}
    (built : moduleIntro rules s = .ok sections) : anchors sections = [] := by
  unfold moduleIntro at built
  split at built
  · obtain ⟨comment, -, built⟩ := exists_of_bind_eq_ok built
    exact Section.anchors_about built
  · cases built
    rfl

theorem documents_moduleVariables (rules : SdkRules) (s : DocUnit) :
    Section.Documents (moduleVariables rules s)
      (if s.name.isIn rules.withVariables then Section.variableGroupFields s else []) := by
  unfold moduleVariables
  split
  · exact Section.documents_variableGroup none
  · exact .pure rfl

theorem documents_moduleGroups (rules : SdkRules) (s : DocUnit) :
    Section.Documents (moduleGroups rules s) (moduleFields rules s) := by
  intro registry sections final compiled
  obtain ⟨vars, afterVars, ofVars, compiled⟩ := Compile.exists_of_run_bind compiled
  obtain ⟨functions, ofFunctions, compiled⟩ := Compile.exists_of_run_lift_bind compiled
  obtain ⟨interfaces, last, ofInterfaces, compiled⟩ := Compile.exists_of_run_bind compiled
  cases compiled
  obtain ⟨rfl, varsAnchored⟩ := documents_moduleVariables rules s _ _ _ ofVars
  obtain ⟨rfl, interfacesAnchored⟩ := Section.documents_interfaceGroup _ _ _ _ _ ofInterfaces
  rw [moduleFields, List.map_append, Anchors.after_append]
  refine ⟨rfl, ?_⟩
  have anchored := (varsAnchored.after _).append interfacesAnchored
  rw [Section.AnchoredBy, Section.anchors_append, Section.anchors_append,
    Section.anchors_functionGroup ofFunctions, List.append_nil, ← Section.anchors_append]
  exact anchored

/-- The group on the runtime use of a component documents a runtime module, in a registry of its
own. -/
theorem anchored_of_sdkSections {sections : List Section} {module? : Option DocUnit}
    (named : sdkOf? sdk unit = .ok module?)
    (built : sdkSections config.sdkRules unit module? = .ok sections) :
    Section.AnchoredBy
      (Anchors.empty.after ((runtimeFields config sdk unit).map FieldEntry.request))
      (runtimeFields config sdk unit) sections := by
  obtain ⟨links, ofLinks, built⟩ := exists_of_bind_eq_ok built
  obtain ⟨bindings, ofBindings, built⟩ := exists_of_bind_eq_ok built
  obtain ⟨runtime, ofModule, built⟩ := exists_of_bind_eq_ok built
  have sameAnchors : anchors sections = anchors runtime := by
    dsimp only at built
    split at built
    · rename_i isEmpty
      cases built
      rw [(List.append_eq_nil_iff.mp (List.isEmpty_iff.mp isEmpty)).2]
    · cases built
      rw [Section.anchors_cons_of_none rfl, Section.anchors_append, Section.anchors_append,
        Section.anchors_links ofLinks, Section.anchors_bindings ofBindings]
      rfl
  rw [Section.AnchoredBy, sameAnchors, runtimeFields, named]
  cases module? with
  | none =>
    cases ofModule
    rfl
  | some s =>
    obtain ⟨about, introduced, ofModule⟩ := exists_of_bind_eq_ok ofModule
    obtain ⟨groups, ofGroups, ofModule⟩ := exists_of_bind_eq_ok ofModule
    cases ofModule
    rw [Section.anchors_append, anchors_moduleIntro introduced]
    exact (documents_moduleGroups config.sdkRules s).anchoredBy_of_fresh ofGroups

/-- The anchor of a field that documented sections have is a candidate for the slug of a field. -/
theorem exists_slug_of_mem {fields : List FieldEntry} {sections : List Section} {anchor : String}
    (anchored : Section.AnchoredBy (Anchors.empty.after (fields.map FieldEntry.request)) fields
      sections) (member : anchor ∈ anchors sections) :
    ∃ e ∈ fields, ∃ n, anchor = candidate e.request.base n := by
  obtain ⟨e, -, held⟩ := anchored.exists_of_mem member
  rcases Anchors.find?_after_cases held with atStart | ⟨request, isRequest, -, isCandidate⟩
  · cases atStart
  · obtain ⟨e', isField, rfl⟩ := List.mem_map.mp isRequest
    exact ⟨e', isField, isCandidate⟩

/-- The slug of a field that is the first at its place is the anchor of a section. -/
theorem slug_mem_anchors {before later : List FieldEntry} {e : FieldEntry}
    {sections : List Section}
    (anchored : Section.AnchoredBy
      (Anchors.empty.after ((before ++ e :: later).map FieldEntry.request)) (before ++ e :: later)
      sections) (first : ∀ earlier ∈ before, earlier.place ≠ e.place) :
    e.request.base ∈ anchors sections := by
  have firstRequest : ∀ earlier ∈ before.map FieldEntry.request,
      earlier.owner ≠ e.request.owner := by
    intro request member
    obtain ⟨earlier, isBefore, rfl⟩ := List.mem_map.mp member
    exact first earlier isBefore
  obtain ⟨owner, held⟩ :=
    Anchors.exists_find?_base_after (later.map FieldEntry.request) firstRequest
  rw [← List.map_cons, ← List.map_append] at held
  rcases Anchors.find?_after_cases held with atStart | ⟨request, isRequest, rfl, -⟩
  · cases atStart
  · obtain ⟨holder, isField, rfl⟩ := List.mem_map.mp isRequest
    obtain ⟨anchor, inSections, holds⟩ := anchored.exists_find? isField
    rw [FieldEntry.request, holds, Option.some.injEq] at held
    rw [← held]
    exact inSections

/-- On the page of a component, the anchors of the nested fields outside the group on the runtime
use differ, and in the group equal anchors are those of one field. An anchor of the group is one of
the rest of the page only where a field of each has it as a candidate, and it is one where a field
of each has it as its slug. -/
theorem runtime_anchors_meet_own (config : SiteConfig) (sdk : List DocUnit) (unit : DocUnit)
    (page : Page) (built : ofComponent config sdk unit = .ok page) :
    ∃ parts, partsOf config sdk unit = .ok parts ∧ page.sections = parts.sections ∧
      (anchors parts.own).Nodup ∧
      (∀ (i j : Nat) (e e' : FieldEntry), (runtimeFields config sdk unit)[i]? = some e →
        (runtimeFields config sdk unit)[j]? = some e' →
        (anchors parts.runtime)[i]? = (anchors parts.runtime)[j]? → e.place = e'.place) ∧
      (∀ anchor ∈ anchors parts.runtime, anchor ∈ anchors parts.own →
        ∃ e ∈ ownFields unit, ∃ e' ∈ runtimeFields config sdk unit, ∃ m n,
          anchor = candidate e.request.base m ∧ anchor = candidate e'.request.base n) ∧
      (∀ e ∈ ownFields unit, ∀ before e' later,
        runtimeFields config sdk unit = before ++ e' :: later →
        (∀ earlier ∈ before, earlier.place ≠ e'.place) → e.request.base = e'.request.base →
        e.request.base ∈ anchors parts.own ∧ e.request.base ∈ anchors parts.runtime) := by
  obtain ⟨parts, ofParts, sameSections⟩ := exists_of_ofComponent built
  obtain ⟨ownAnchored, module?, named, ofRuntime⟩ := exists_of_partsOf ofParts
  have runtimeAnchored := anchored_of_sdkSections named ofRuntime
  refine ⟨parts, ofParts, sameSections, own_anchors_nodup_of_partsOf ofParts, ?_, ?_, ?_⟩
  · intro i j e e' first second sameAnchor
    exact runtimeAnchored.place_eq (Anchors.Lawful.empty.after _) first second sameAnchor
  · intro anchor inRuntime inOwn
    obtain ⟨e, isOwn, m, ofOwn⟩ := exists_slug_of_mem ownAnchored inOwn
    obtain ⟨e', isRuntime, n, ofRuntime⟩ := exists_slug_of_mem runtimeAnchored inRuntime
    exact ⟨e, isOwn, e', isRuntime, m, n, ofOwn, ofRuntime⟩
  · intro e isOwn before e' later split first sameBase
    constructor
    · -- each of the own fields is the first at its place, since the places differ
      obtain ⟨earlier, rest, ownSplit⟩ := List.append_of_mem isOwn
      have places := nodup_ownFields unit
      rw [ownSplit] at ownAnchored places
      refine slug_mem_anchors ownAnchored fun x member samePlace => ?_
      rw [List.map_append, List.map_cons] at places
      exact (List.nodup_append.mp places).2.2 _ (List.mem_map_of_mem member) _
        List.mem_cons_self samePlace
    · rw [sameBase]
      rw [split] at runtimeAnchored
      exact slug_mem_anchors runtimeAnchored first

/-! ## A shared anchor -/

/-- The runtime module of the component, whose interface `Resource` has a `url` too. -/
def resourceModule : DocUnit where
  name := .text "foo"
  declarations := [.bare "Resource" .interfaceDecl none [.url]]
  sourcePath := none
  comment := none

theorem resource_parts_anchored :
    (partsOf .standard [resourceModule] resourceUnit).map (fun p =>
      ((anchors p.own).contains "resource-url", (anchors p.runtime).contains "resource-url")) =
        .ok (true, true) := rfl

theorem resource_page_titled :
    (ofComponent .standard [resourceModule] resourceUnit).map Page.title = .ok "Foo" := rfl

/-- The field of the interface. -/
def interfaceUrl : FieldEntry := ⟨0, "Resource", [.child 0, .child 0], .url⟩

theorem runtimeFields_resourceModule :
    runtimeFields .standard [resourceModule] resourceUnit = [interfaceUrl] := rfl

theorem argumentUrl_slug : (argumentUrl 0).request.base = "resource-url" := rfl

theorem interfaceUrl_slug : interfaceUrl.request.base = "resource-url" := rfl

/-- The page of the component is built, and the two fields have one slug. -/
theorem runtime_anchors_meet_own_resource :
    ∃ page parts, ofComponent .standard [resourceModule] resourceUnit = .ok page ∧
      partsOf .standard [resourceModule] resourceUnit = .ok parts ∧
      (anchors parts.own).Nodup ∧ "resource-url" ∈ anchors parts.own ∧
      "resource-url" ∈ anchors parts.runtime := by
  obtain ⟨page, built, -⟩ := exists_of_map_eq_ok resource_page_titled
  obtain ⟨parts, ofParts, -, nodup, -, -, meet⟩ := runtime_anchors_meet_own _ _ _ page built
  obtain ⟨inOwn, inRuntime⟩ := meet (argumentUrl 0) (ownFields_resourceUnit ▸ List.mem_cons_self)
    [] interfaceUrl [] runtimeFields_resourceModule (fun _ member => absurd member List.not_mem_nil)
    (argumentUrl_slug.trans interfaceUrl_slug.symm)
  rw [argumentUrl_slug] at inOwn inRuntime
  exact ⟨page, parts, built, ofParts, nodup, inOwn, inRuntime⟩

/-- The group on the runtime use can have an anchor that the rest of the page has. -/
theorem resource_anchor_shared :
    ∃ page parts, ofComponent .standard [resourceModule] resourceUnit = .ok page ∧
      partsOf .standard [resourceModule] resourceUnit = .ok parts ∧
      page.sections = parts.sections ∧ "resource-url" ∈ anchors parts.own ∧
      "resource-url" ∈ anchors parts.runtime := by
  obtain ⟨page, built, -⟩ := exists_of_map_eq_ok resource_page_titled
  obtain ⟨parts, ofParts, sameSections⟩ := exists_of_ofComponent built
  obtain ⟨parts', ofParts', anchored⟩ := exists_of_map_eq_ok resource_parts_anchored
  cases ofParts.symm.trans ofParts'
  obtain ⟨inOwn, inRuntime⟩ := Prod.mk.inj anchored
  exact ⟨page, parts, built, ofParts, sameSections, List.contains_iff_mem.mp inOwn,
    List.contains_iff_mem.mp inRuntime⟩

end Page

end DocPress
