import DocPress.Data

/-! # Sets of tags

A set of tag names, kept as the list of its members in increasing order. A document may have other
values among its tags, which name nothing; a set keeps each of them once, in the order of the
document. Numbers and truth values are compared as numbers. -/

set_option autoImplicit false

namespace DocPress

namespace TagSet

/-- Whether a value can be a member of a set and is no text. -/
def isPlain (d : Data) : Bool := d.isKey && d.text?.isNone

/-- Whether two such values are the same member. -/
def same (d e : Data) : Bool := d = e || (d.toInt?.isSome && d.toInt? = e.toInt?)

end TagSet

/-- A set of tags: the names among its members, and the other ones. -/
structure TagSet where
  tags : List String
  sorted : tags.Pairwise (· < ·)
  others : List Data
  plain : ∀ d ∈ others, TagSet.isPlain d = true
  distinct : others.Pairwise fun d e => TagSet.same d e = false
deriving DecidableEq

namespace TagSet

def insertTag (t : String) : List String → List String
  | [] => [t]
  | x :: xs => if t < x then t :: x :: xs else if t = x then x :: xs else x :: insertTag t xs

theorem mem_insertTag {t x : String} {xs : List String} :
    x ∈ insertTag t xs ↔ x = t ∨ x ∈ xs := by
  induction xs with
  | nil => simp [insertTag]
  | cons y ys ih =>
    unfold insertTag
    split
    · simp
    · split
      · rename_i h
        subst h
        simp
      · simp only [List.mem_cons, ih]
        constructor
        · rintro (h | h | h) <;> simp [h]
        · rintro (h | h | h) <;> simp [h]

theorem sorted_insertTag {t : String} {xs : List String} (h : xs.Pairwise (· < ·)) :
    (insertTag t xs).Pairwise (· < ·) := by
  induction xs with
  | nil => simp [insertTag]
  | cons y ys ih =>
    have hy := List.pairwise_cons.1 h
    unfold insertTag
    split
    · rename_i ht
      exact List.pairwise_cons.2 ⟨fun z hz => by
        rcases List.mem_cons.1 hz with rfl | hz
        · exact ht
        · exact String.lt_trans ht (hy.1 z hz), h⟩
    · split
      · exact h
      · rename_i hlt hne
        refine List.pairwise_cons.2 ⟨fun z hz => ?_, ih hy.2⟩
        rcases mem_insertTag.1 hz with rfl | hz
        · exact Decidable.byContradiction fun hn =>
            hne (String.le_antisymm hn hlt)
        · exact hy.1 z hz

def empty : TagSet := ⟨[], .nil, [], nofun, .nil⟩

def insert (t : String) (s : TagSet) : TagSet :=
  { s with tags := insertTag t s.tags, sorted := sorted_insertTag s.sorted }

/-- The set with one more member, which takes the place of the same one. -/
def insertOther (d : Data) (isPlain : isPlain d = true) (s : TagSet) : TagSet :=
  { s with
    others := d :: s.others.filter fun e => !same d e
    plain := List.forall_mem_cons.mpr
      ⟨isPlain, fun e member => s.plain e (List.mem_filter.mp member).1⟩
    distinct := by
      refine List.pairwise_cons.mpr ⟨fun e member => ?_, s.distinct.filter _⟩
      simpa using (List.mem_filter.mp member).2 }

def ofList : List String → TagSet
  | [] => empty
  | t :: ts => (ofList ts).insert t

def contains (s : TagSet) (t : String) : Bool := s.tags.contains t

end TagSet

end DocPress
