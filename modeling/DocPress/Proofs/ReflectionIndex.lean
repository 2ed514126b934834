import DocPress.Proofs.DecodeSteps

/-! # What the index of a document holds

The index is made by going down from the document along members and signatures. It holds the
numbered descriptions that are reached so, and no others: not the signature of a getter, no
parameter, and nothing that stands in a type.

* `Indexed`: the descriptions that are reached.
* `Index.mem_collect_iff`: they are what the index holds.
* `Index.find?_of_indexed`, `Index.find?_of_not_indexed`: looking up a number that is given once. -/

set_option autoImplicit false

namespace DocPress

/-- The descriptions that are reached from a document along members and signatures. -/
inductive Indexed (document : Data) : Data → Prop
  | document : Indexed document document
  | member {d c : Data} {members : List Data} : Indexed document d →
      d.elementsAt "children" = .ok members → c ∈ members → Indexed document c
  | signature {d s : Data} {signatures : List Data} : Indexed document d →
      d.elementsAt "signatures" = .ok signatures → s ∈ signatures → Indexed document s

theorem Indexed.trans {document d r : Data} (outer : Indexed document d) (inner : Indexed d r) :
    Indexed document r := by
  induction inner with
  | document => exact outer
  | member _ isMembers isMember inductionHypothesis =>
    exact .member inductionHypothesis isMembers isMember
  | signature _ isSignatures isSignature inductionHypothesis =>
    exact .signature inductionHypothesis isSignatures isSignature

namespace Index

variable {document d r : Data} {index : Index} {n : Int}

theorem exists_of_collect (collected : collect d = .ok index) :
    ∃ members signatures below beside,
      d.elementsAt "children" = .ok members ∧ members.mapM collect = .ok below ∧
      d.elementsAt "signatures" = .ok signatures ∧ signatures.mapM collect = .ok beside ∧
      index = (number? d).toList.map (fun n => (n, d)) ++ below.flatten ++ beside.flatten := by
  rw [collect_eq] at collected
  split at collected
  · obtain ⟨members, isMembers, collected⟩ := exists_of_bind_eq_ok collected
    obtain ⟨below, isBelow, collected⟩ := exists_of_bind_eq_ok collected
    obtain ⟨signatures, isSignatures, collected⟩ := exists_of_bind_eq_ok collected
    obtain ⟨beside, isBeside, collected⟩ := exists_of_bind_eq_ok collected
    rw [collectAll_eq_mapM] at isBelow isBeside
    obtain ⟨below, belowEach, isBelow⟩ := exists_of_bind_eq_ok isBelow
    obtain ⟨beside, besideEach, isBeside⟩ := exists_of_bind_eq_ok isBeside
    cases isBelow
    cases isBeside
    cases collected
    exact ⟨_, _, _, _, isMembers, belowEach, isSignatures, besideEach, rfl⟩
  · cases collected

/-! ## Nothing else is in the index -/

theorem indexed_of_mem_collect {d r : Data} {index : Index} {n : Int}
    (collected : collect d = .ok index) (member : (n, r) ∈ index) :
    Indexed d r ∧ number? r = some n := by
  obtain ⟨members, signatures, below, beside, isMembers, belowEach, isSignatures, besideEach,
    rfl⟩ := exists_of_collect collected
  rcases List.mem_append.mp member with member | inBeside
  · rcases List.mem_append.mp member with isOwn | inBelow
    · obtain ⟨m, isNumber, same⟩ := List.mem_map.mp isOwn
      cases same
      exact ⟨.document, Option.mem_toList.mp isNumber⟩
    · obtain ⟨part, isPart, inPart⟩ := List.mem_flatten.mp inBelow
      obtain ⟨c, isMember, collected⟩ := exists_of_mem_of_mapM belowEach isPart
      have smaller : sizeOf c < sizeOf d :=
        Nat.lt_of_lt_of_le (List.sizeOf_lt_of_mem isMember) (Data.sizeOf_elementsAt isMembers)
      obtain ⟨reached, isNumber⟩ := indexed_of_mem_collect collected inPart
      exact ⟨(Indexed.member .document isMembers isMember).trans reached, isNumber⟩
  · obtain ⟨part, isPart, inPart⟩ := List.mem_flatten.mp inBeside
    obtain ⟨s, isSignature, collected⟩ := exists_of_mem_of_mapM besideEach isPart
    have smaller : sizeOf s < sizeOf d :=
      Nat.lt_of_lt_of_le (List.sizeOf_lt_of_mem isSignature) (Data.sizeOf_elementsAt isSignatures)
    obtain ⟨reached, isNumber⟩ := indexed_of_mem_collect collected inPart
    exact ⟨(Indexed.signature .document isSignatures isSignature).trans reached, isNumber⟩
termination_by sizeOf d

/-! ## All of it is in the index -/

theorem exists_part_of_indexed (collected : collect document = .ok index)
    (indexed : Indexed document d) : ∃ part, collect d = .ok part ∧ part ⊆ index := by
  induction indexed with
  | document => exact ⟨index, collected, List.Subset.refl _⟩
  | @member d c members _ isMembers isMember inductionHypothesis =>
    obtain ⟨outer, collectedOuter, contained⟩ := inductionHypothesis
    obtain ⟨members', -, below, beside, isMembers', belowEach, -, -, rfl⟩ :=
      exists_of_collect collectedOuter
    cases isMembers.symm.trans isMembers'
    obtain ⟨part, isPart, collectedPart⟩ := exists_mem_of_mapM belowEach isMember
    refine ⟨part, collectedPart, fun e inPart => contained ?_⟩
    have inBelow := List.mem_flatten.mpr ⟨part, isPart, inPart⟩
    exact List.mem_append_left _ (List.mem_append_right _ inBelow)
  | @signature d s signatures _ isSignatures isSignature inductionHypothesis =>
    obtain ⟨outer, collectedOuter, contained⟩ := inductionHypothesis
    obtain ⟨-, signatures', below, beside, -, -, isSignatures', besideEach, rfl⟩ :=
      exists_of_collect collectedOuter
    cases isSignatures.symm.trans isSignatures'
    obtain ⟨part, isPart, collectedPart⟩ := exists_mem_of_mapM besideEach isSignature
    refine ⟨part, collectedPart, fun e inPart => contained ?_⟩
    exact List.mem_append_right _ (List.mem_flatten.mpr ⟨part, isPart, inPart⟩)

theorem mem_collect_iff (collected : collect document = .ok index) :
    (n, r) ∈ index ↔ Indexed document r ∧ number? r = some n := by
  constructor
  · exact indexed_of_mem_collect collected
  · rintro ⟨indexed, isNumber⟩
    obtain ⟨part, collectedPart, contained⟩ := exists_part_of_indexed collected indexed
    obtain ⟨-, -, below, beside, -, -, -, -, rfl⟩ := exists_of_collect collectedPart
    apply contained
    apply List.mem_append_left
    apply List.mem_append_left
    exact List.mem_map.mpr ⟨n, by simp [isNumber], rfl⟩

/-! ## Looking up -/

theorem mem_of_find? (found : find? index n = some r) : (n, r) ∈ index := by
  obtain ⟨entry, isEntry, rfl⟩ := Option.map_eq_some_iff.mp found
  have sameNumber : entry.1 = n := by simpa using List.find?_some isEntry
  have member := List.mem_reverse.mp (List.mem_of_find?_eq_some isEntry)
  rw [← sameNumber]
  exact member

theorem exists_find?_of_mem (member : (n, r) ∈ index) : ∃ r', find? index n = some r' := by
  have found : (index.reverse.find? fun entry => entry.1 = n).isSome := by
    rw [List.find?_isSome]
    exact ⟨(n, r), List.mem_reverse.mpr member, by simp⟩
  obtain ⟨entry, isEntry⟩ := Option.isSome_iff_exists.mp found
  exact ⟨entry.2, by rw [find?, isEntry]; rfl⟩

/-- A number that no two descriptions of the index have is looked up as its description. -/
theorem find?_of_indexed (collected : collect document = .ok index)
    (once : ∀ r', Indexed document r' → number? r' = some n → r' = r)
    (indexed : Indexed document r) (isNumber : number? r = some n) : find? index n = some r := by
  obtain ⟨r', found⟩ := exists_find?_of_mem ((mem_collect_iff collected).mpr ⟨indexed, isNumber⟩)
  -- of several entries the last would be found, but all entries with the number are one
  obtain ⟨indexed', isNumber'⟩ := (mem_collect_iff collected).mp (mem_of_find? found)
  rw [found, once r' indexed' isNumber']

theorem find?_of_not_indexed (collected : collect document = .ok index)
    (once : ∀ r', Indexed document r' → number? r' = some n → r' = r)
    (notIndexed : ¬ Indexed document r) : find? index n = none := by
  cases found : find? index n with
  | none => rfl
  | some r' =>
    obtain ⟨indexed', isNumber'⟩ := (mem_collect_iff collected).mp (mem_of_find? found)
    exact absurd (once r' indexed' isNumber' ▸ indexed') notIndexed

end Index

end DocPress
