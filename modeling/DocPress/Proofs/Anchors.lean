import DocPress.Anchor
import DocPress.Proofs.Numeral
import Mathlib.Data.List.Nodup

/-! # Registries of anchors

What a registry gives out over a sequence of requests, starting from the empty one.

* `Anchors.Lawful`: the invariant; each owner has one anchor and each anchor one owner.
* `assign_of_find?` and `assign_of_find?_none`: all that a request can do.
* `Lawful.after`, `find?_after_of_find?`: what a sequence of requests keeps.

The search for a free candidate looks at one candidate more than there are anchors. It finds a free
one because the candidates differ (`candidate_injective`), which comes down to numerals being read
back. -/

set_option autoImplicit false

namespace DocPress

namespace Anchor

theorem candidate_injective (base : String) : Function.Injective (candidate base) := by
  -- a number and its hyphen make a candidate longer than the base
  have longer : ∀ n, base ≠ candidate base (n + 1) := by
    intro n equal
    have sameLength := congrArg String.length equal
    have hyphen : "-".length = 1 := rfl
    simp only [candidate, String.length_append] at sameLength
    omega
  intro m n equal
  cases m with
  | zero =>
    cases n with
    | zero => rfl
    | succ n => exact absurd equal (longer n)
  | succ m =>
    cases n with
    | zero => exact absurd equal.symm (longer m)
    | succ n => exact Numeral.ofNat_injective ((String.append_right_inj _).mp equal)

end Anchor

namespace Anchors

open Anchor (candidate candidate_injective)

variable {Owner : Type}

/-! ## The search for a free candidate -/

theorem isTaken_iff_mem {registry : Anchors Owner} {anchor : String} :
    registry.isTaken anchor = true ↔ anchor ∈ registry.given.map Prod.snd := by
  simp [isTaken]

/-- The search passes over taken candidates only, and stops at a free one or where its fuel ends. -/
theorem firstFree_eq_candidate (registry : Anchors Owner) (base : String) (fuel n : Nat) :
    ∃ m, n ≤ m ∧ m ≤ n + fuel ∧ registry.firstFree base fuel n = candidate base m ∧
      (∀ k, n ≤ k → k < m → registry.isTaken (candidate base k) = true) ∧
      (m < n + fuel → registry.isTaken (candidate base m) = false) := by
  induction fuel generalizing n with
  | zero => exact ⟨n, Nat.le_refl n, Nat.le_refl n, rfl, by omega, by omega⟩
  | succ fuel inductionHypothesis =>
    cases taken : registry.isTaken (candidate base n) with
    | false =>
      refine ⟨n, Nat.le_refl n, by omega, ?_, by omega, fun _ => taken⟩
      simp [firstFree, taken]
    | true =>
      obtain ⟨m, above, below, found, passed, free⟩ := inductionHypothesis (n + 1)
      refine ⟨m, by omega, by omega, ?_, ?_, fun bound => free (by omega)⟩
      · simpa [firstFree, taken] using found
      · intro k lower upper
        rcases Nat.eq_or_lt_of_le lower with rfl | later
        · exact taken
        · exact passed k later upper

/-- Candidates that are all taken are not more than the anchors given out. -/
theorem count_le_of_taken {registry : Anchors Owner} {base : String} {count : Nat}
    (taken : ∀ n < count, registry.isTaken (candidate base n) = true) :
    count ≤ registry.given.length := by
  have distinct : ((List.range count).map (candidate base)).Nodup :=
    List.Pairwise.map _ (fun m n differ => mt (@candidate_injective base m n) differ)
      List.nodup_range
  -- pigeonhole: distinct anchors that have all been given out
  have bound : ((List.range count).map (candidate base)).length ≤
      (registry.given.map Prod.snd).length := by
    refine distinct.length_le_of_subset fun anchor member => ?_
    obtain ⟨n, inRange, rfl⟩ := List.mem_map.mp member
    exact isTaken_iff_mem.mp (taken n (List.mem_range.mp inRange))
  simpa using bound

/-- The anchor found is free, and every candidate before it is taken. -/
theorem fresh_eq_candidate (registry : Anchors Owner) (base : String) :
    ∃ retries ≤ registry.given.length, registry.fresh base = candidate base retries ∧
      registry.isTaken (candidate base retries) = false ∧
      ∀ n < retries, registry.isTaken (candidate base n) = true := by
  obtain ⟨m, -, bound, found, passed, free⟩ :=
    firstFree_eq_candidate registry base registry.given.length 0
  refine ⟨m, by omega, found, ?_, fun n before => passed n (Nat.zero_le n) before⟩
  cases taken : registry.isTaken (candidate base m) with
  | false => rfl
  | true =>
    -- all candidates up to the `m`-th are taken, so the fuel cannot have ended there
    have allTaken : ∀ n < m + 1, registry.isTaken (candidate base n) = true := by
      intro n before
      rcases Nat.lt_succ_iff_lt_or_eq.mp before with earlier | rfl
      · exact passed n (Nat.zero_le n) earlier
      · exact taken
    have room := count_le_of_taken allTaken
    rw [free (by omega)] at taken
    contradiction

/-! ## What owners hold -/

/-- Each owner has one anchor, and each anchor one owner. -/
structure Lawful (registry : Anchors Owner) : Prop where
  owners_nodup : (registry.given.map Prod.fst).Nodup
  anchors_nodup : (registry.given.map Prod.snd).Nodup

theorem Lawful.empty : (Anchors.empty : Anchors Owner).Lawful := ⟨.nil, .nil⟩

variable [DecidableEq Owner]

@[simp] theorem find?_empty (owner : Owner) : (empty : Anchors Owner).find? owner = none := rfl

@[simp] theorem find?_cons (given : List (Owner × String)) (holder owner : Owner)
    (anchor : String) :
    (⟨(holder, anchor) :: given⟩ : Anchors Owner).find? owner =
      if holder = owner then some anchor else (⟨given⟩ : Anchors Owner).find? owner := by
  by_cases same : holder = owner <;> simp [find?, same]

theorem find?_eq_none_iff {registry : Anchors Owner} {owner : Owner} :
    registry.find? owner = none ↔ owner ∉ registry.given.map Prod.fst := by
  simp only [find?, Option.map_eq_none_iff, List.find?_eq_none, decide_eq_true_eq, List.mem_map,
    not_exists, not_and]

theorem mem_given_of_find? {registry : Anchors Owner} {owner : Owner} {anchor : String}
    (found : registry.find? owner = some anchor) : (owner, anchor) ∈ registry.given := by
  simp only [find?, Option.map_eq_some_iff] at found
  obtain ⟨entry, isFirst, rfl⟩ := found
  have sameOwner := List.find?_some isFirst
  simp only [decide_eq_true_eq] at sameOwner
  subst sameOwner
  exact List.mem_of_find?_eq_some isFirst

theorem Lawful.find?_of_mem {registry : Anchors Owner} (lawful : registry.Lawful) {owner : Owner}
    {anchor : String} (member : (owner, anchor) ∈ registry.given) :
    registry.find? owner = some anchor := by
  cases found : registry.find? owner with
  | none => exact absurd (List.mem_map_of_mem member) (find?_eq_none_iff.mp found)
  | some held =>
    have sameEntry := List.inj_on_of_nodup_map lawful.owners_nodup (mem_given_of_find? found) member
      rfl
    simp_all

theorem Lawful.isTaken_iff {registry : Anchors Owner} (lawful : registry.Lawful)
    {anchor : String} :
    registry.isTaken anchor = true ↔ ∃ owner, registry.find? owner = some anchor := by
  rw [isTaken_iff_mem, List.mem_map]
  constructor
  · rintro ⟨⟨owner, held⟩, member, rfl⟩
    exact ⟨owner, lawful.find?_of_mem member⟩
  · rintro ⟨owner, found⟩
    exact ⟨(owner, anchor), mem_given_of_find? found, rfl⟩

/-- No two owners hold the same anchor. -/
theorem Lawful.owner_unique {registry : Anchors Owner} (lawful : registry.Lawful)
    {one other : Owner} {anchor : String} (first : registry.find? one = some anchor)
    (second : registry.find? other = some anchor) : one = other := by
  have sameEntry := List.inj_on_of_nodup_map lawful.anchors_nodup (mem_given_of_find? first)
    (mem_given_of_find? second) rfl
  exact congrArg Prod.fst sameEntry

/-! ## One request -/

/-- An owner that holds an anchor gets it again, and nothing changes. -/
theorem assign_of_find? {registry : Anchors Owner} {owner : Owner} {anchor : String}
    (found : registry.find? owner = some anchor) (path name : String) :
    registry.assign owner path name = (anchor, registry) := by
  simp [assign, found]

/-- A new owner gets the first candidate that is free. -/
theorem assign_of_find?_none {registry : Anchors Owner} {owner : Owner}
    (new : registry.find? owner = none) (path name : String) :
    ∃ retries ≤ registry.given.length,
      registry.assign owner path name =
        (candidate (Anchor.base path name) retries,
          ⟨(owner, candidate (Anchor.base path name) retries) :: registry.given⟩) ∧
      registry.isTaken (candidate (Anchor.base path name) retries) = false ∧
      ∀ n < retries, registry.isTaken (candidate (Anchor.base path name) n) = true := by
  obtain ⟨retries, bound, found, free, passed⟩ :=
    fresh_eq_candidate registry (Anchor.base path name)
  exact ⟨retries, bound, by simp [assign, new, found], free, passed⟩

/-- What a request does: nothing, or it gives a free candidate to a new owner. -/
theorem assign_cases (registry : Anchors Owner) (owner : Owner) (path name : String) :
    (∃ anchor, registry.find? owner = some anchor ∧
      registry.assign owner path name = (anchor, registry)) ∨
    ∃ anchor n, registry.find? owner = none ∧ anchor = candidate (Anchor.base path name) n ∧
      registry.isTaken anchor = false ∧
      registry.assign owner path name = (anchor, ⟨(owner, anchor) :: registry.given⟩) := by
  cases found : registry.find? owner with
  | some anchor => exact .inl ⟨anchor, rfl, assign_of_find? found path name⟩
  | none =>
    obtain ⟨n, -, assigned, free, -⟩ := assign_of_find?_none found path name
    exact .inr ⟨_, n, rfl, rfl, free, assigned⟩

theorem find?_assign_self (registry : Anchors Owner) (owner : Owner) (path name : String) :
    (registry.assign owner path name).2.find? owner =
      some (registry.assign owner path name).1 := by
  rcases assign_cases registry owner path name with
    ⟨anchor, found, assigned⟩ | ⟨anchor, n, -, -, -, assigned⟩
  · rw [assigned]
    exact found
  · rw [assigned, find?_cons, if_pos rfl]

theorem find?_assign_of_find? {registry : Anchors Owner} {holder : Owner} {anchor : String}
    (found : registry.find? holder = some anchor) (owner : Owner) (path name : String) :
    (registry.assign owner path name).2.find? holder = some anchor := by
  rcases assign_cases registry owner path name with
    ⟨_, -, assigned⟩ | ⟨_, _, new, -, -, assigned⟩
  · rw [assigned]
    exact found
  · have differ : owner ≠ holder := by
      rintro rfl
      simp [found] at new
    rw [assigned, find?_cons, if_neg differ]
    exact found

theorem Lawful.assign {registry : Anchors Owner} (lawful : registry.Lawful) (owner : Owner)
    (path name : String) : (registry.assign owner path name).2.Lawful := by
  rcases assign_cases registry owner path name with
    ⟨_, -, assigned⟩ | ⟨anchor, _, new, -, free, assigned⟩
  · rw [assigned]
    exact lawful
  · rw [assigned]
    refine ⟨List.nodup_cons.mpr ⟨find?_eq_none_iff.mp new, lawful.owners_nodup⟩,
      List.nodup_cons.mpr ⟨fun member => ?_, lawful.anchors_nodup⟩⟩
    rw [isTaken_iff_mem.mpr member] at free
    contradiction

/-! ## Runs of requests -/

/-- A request for the anchor of an owner, made from a path and a name. -/
structure Request (Owner : Type) where
  owner : Owner
  path : String
  name : String

def Request.base (request : Request Owner) : String := Anchor.base request.path request.name

/-- The answer to a request, and the registry after it. -/
def serve (registry : Anchors Owner) (request : Request Owner) : String × Anchors Owner :=
  registry.assign request.owner request.path request.name

def after (registry : Anchors Owner) : List (Request Owner) → Anchors Owner
  | [] => registry
  | request :: requests => (registry.serve request).2.after requests

theorem after_append (registry : Anchors Owner) (first second : List (Request Owner)) :
    registry.after (first ++ second) = (registry.after first).after second := by
  induction first generalizing registry with
  | nil => rfl
  | cons request requests inductionHypothesis => exact inductionHypothesis _

theorem Lawful.after {registry : Anchors Owner} (lawful : registry.Lawful)
    (requests : List (Request Owner)) : (registry.after requests).Lawful := by
  induction requests generalizing registry with
  | nil => exact lawful
  | cons request requests inductionHypothesis => exact inductionHypothesis (lawful.assign _ _ _)

theorem find?_after_of_find? {registry : Anchors Owner} {holder : Owner} {anchor : String}
    (found : registry.find? holder = some anchor) (requests : List (Request Owner)) :
    (registry.after requests).find? holder = some anchor := by
  induction requests generalizing registry with
  | nil => exact found
  | cons request requests inductionHypothesis =>
    exact inductionHypothesis (find?_assign_of_find? found _ _ _)

/-- After a request its owner holds an anchor. -/
theorem exists_find?_after (registry : Anchors Owner) {requests : List (Request Owner)}
    {request : Request Owner} (member : request ∈ requests) :
    ∃ anchor, (registry.after requests).find? request.owner = some anchor := by
  obtain ⟨before, later, rfl⟩ := List.append_of_mem member
  rw [after_append]
  exact ⟨_, find?_after_of_find? (find?_assign_self _ _ _ _) later⟩

/-- Requests of owners that hold an anchor change nothing. -/
theorem after_eq_self {registry : Anchors Owner} {requests : List (Request Owner)}
    (held : ∀ request ∈ requests, ∃ anchor, registry.find? request.owner = some anchor) :
    registry.after requests = registry := by
  induction requests with
  | nil => rfl
  | cons request requests inductionHypothesis =>
    obtain ⟨⟨anchor, found⟩, held⟩ := List.forall_mem_cons.mp held
    rw [after, serve, assign_of_find? found]
    exact inductionHypothesis held

/-- Only owners that made a request hold an anchor. -/
theorem find?_after_eq_none {registry : Anchors Owner} {owner : Owner}
    {requests : List (Request Owner)} (new : registry.find? owner = none)
    (silent : ∀ request ∈ requests, request.owner ≠ owner) :
    (registry.after requests).find? owner = none := by
  induction requests generalizing registry with
  | nil => exact new
  | cons request requests inductionHypothesis =>
    obtain ⟨differ, silent⟩ := List.forall_mem_cons.mp silent
    refine inductionHypothesis ?_ silent
    rcases assign_cases registry request.owner request.path request.name with
      ⟨_, -, assigned⟩ | ⟨_, _, -, -, -, assigned⟩
    · rw [serve, assigned]
      exact new
    · rw [serve, assigned, find?_cons, if_neg differ]
      exact new

/-- What an owner holds in the end it held at the start, or it is a candidate for the base of one of
its requests. -/
theorem find?_after_cases {registry : Anchors Owner} {requests : List (Request Owner)}
    {owner : Owner} {anchor : String}
    (held : (registry.after requests).find? owner = some anchor) :
    registry.find? owner = some anchor ∨
      ∃ request ∈ requests, request.owner = owner ∧ ∃ n, anchor = candidate request.base n := by
  induction requests generalizing registry with
  | nil => exact .inl held
  | cons request requests inductionHypothesis =>
    rcases inductionHypothesis held with atStart | ⟨later, member, sameOwner, isCandidate⟩
    · rcases assign_cases registry request.owner request.path request.name with
        ⟨_, -, assigned⟩ | ⟨given, n, -, rfl, -, assigned⟩
      · rw [serve, assigned] at atStart
        exact .inl atStart
      · rw [serve, assigned, find?_cons] at atStart
        split at atStart
        · rename_i sameOwner
          cases atStart
          exact .inr ⟨request, List.mem_cons_self, sameOwner, n, rfl⟩
        · exact .inl atStart
    · exact .inr ⟨later, List.mem_cons_of_mem _ member, sameOwner, isCandidate⟩

/-- The base of the first request of an owner is held in the end, if not by that owner then by the
one that it was taken by. -/
theorem exists_find?_base_after {before : List (Request Owner)} {request : Request Owner}
    (later : List (Request Owner)) (first : ∀ earlier ∈ before, earlier.owner ≠ request.owner) :
    ∃ owner, (empty.after (before ++ request :: later)).find? owner = some request.base := by
  have lawful : (empty.after before).Lawful := Lawful.empty.after before
  have new := find?_after_eq_none (find?_empty request.owner) first
  obtain ⟨retries, -, assigned, -, passed⟩ := assign_of_find?_none new request.path request.name
  rw [after_append]
  cases retries with
  | zero =>
    refine ⟨request.owner, find?_after_of_find? ?_ later⟩
    rw [serve, assigned, find?_cons, if_pos rfl]
    rfl
  | succ retries =>
    obtain ⟨owner, held⟩ := lawful.isTaken_iff.mp (passed 0 (Nat.zero_lt_succ retries))
    exact ⟨owner, find?_after_of_find? (find?_assign_of_find? held _ _ _) later⟩

/-- After any sequence of requests to an empty registry, an owner that made one holds the anchor of
its first request and gets it again, whatever the path and the name, without a change; no two owners
hold the same anchor; and a new owner gets the first candidate that no owner holds, which is found
after at most as many retries as there are anchors given out. -/
theorem serve_after_requests (requests : List (Request Owner)) (next : Request Owner) :
    let registry := empty.after requests
    (∀ before first later, requests = before ++ first :: later →
      registry.find? first.owner = some ((empty.after before).serve first).1 ∧
      ∀ path name, registry.assign first.owner path name =
        (((empty.after before).serve first).1, registry)) ∧
    (∀ one other anchor, registry.find? one = some anchor → registry.find? other = some anchor →
      one = other) ∧
    ((∀ earlier ∈ requests, earlier.owner ≠ next.owner) →
      ∃ retries ≤ registry.given.length,
        registry.serve next = (candidate next.base retries,
          ⟨(next.owner, candidate next.base retries) :: registry.given⟩) ∧
        (∀ owner, registry.find? owner ≠ some (candidate next.base retries)) ∧
        ∀ n < retries, ∃ owner, registry.find? owner = some (candidate next.base n)) := by
  intro registry
  have lawful : registry.Lawful := Lawful.empty.after requests
  refine ⟨?_, fun one other anchor first second => lawful.owner_unique first second, ?_⟩
  · rintro before first later rfl
    have held : registry.find? first.owner = some ((empty.after before).serve first).1 := by
      show (empty.after (before ++ first :: later)).find? first.owner = _
      rw [after_append]
      exact find?_after_of_find? (find?_assign_self _ _ _ _) later
    exact ⟨held, assign_of_find? held⟩
  · intro new
    obtain ⟨retries, bound, assigned, free, passed⟩ :=
      assign_of_find?_none (find?_after_eq_none (find?_empty _) new) next.path next.name
    refine ⟨retries, bound, assigned, ?_, fun n before => lawful.isTaken_iff.mp (passed n before)⟩
    intro owner found
    exact Bool.false_ne_true (free.symm.trans (lawful.isTaken_iff.mpr ⟨owner, found⟩))

/-- A base can be an anchor that another base was given by a suffix. -/
example :
    (((empty : Anchors Nat).after [⟨0, "foo", "bar"⟩, ⟨1, "foo", "bar"⟩]).serve
      ⟨2, "foo.bar", "1"⟩).1 = "foo-bar-1-1" := by
  decide +kernel

end Anchors

end DocPress
