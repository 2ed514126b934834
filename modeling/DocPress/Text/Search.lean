/-! # Searching and cutting texts

Operations on texts as lists of characters.

* `splitOn`: the pieces between a separating character.
* `replaceChar`, `replaceAll`: every occurrence of a character, or of a word, replaced.
* `cutLast?`: the text before the last occurrence of a word, and the text after it.
* `afterFirst?`: what a reader makes of the text that follows the first occurrence of a word at
  which it succeeds. -/

set_option autoImplicit false

namespace DocPress.Text

/-- The pieces of a text between the occurrences of a character, at least one. -/
def splitOn (sep : Char) : List Char → List (List Char)
  | [] => [[]]
  | c :: cs =>
    if c = sep then [] :: splitOn sep cs
    else
      match splitOn sep cs with
      | [] => [[c]]
      | piece :: pieces => (c :: piece) :: pieces

def split (sep : Char) (s : String) : List String :=
  (splitOn sep s.toList).map String.ofList

theorem splitOn_eq (sep : Char) (cs : List Char) : splitOn sep cs = cs.splitOn sep := by
  rw [List.splitOn_eq_splitOnP]
  induction cs with
  | nil => rfl
  | cons c cs inductionHypothesis =>
    rw [splitOn, inductionHypothesis, List.splitOnP_cons_eq_if_modifyHead]
    by_cases isSep : c = sep
    · simp [isSep]
    · obtain ⟨piece, rest, pieces⟩ := List.exists_cons_of_ne_nil
        (List.splitOnP_ne_nil (fun x => x == sep) cs)
      simp [isSep, pieces]

/-- Segments that are put together can be taken apart again, if none holds the separator. -/
theorem split_intercalate {sep : Char} {segments : List String} (nonempty : segments ≠ [])
    (free : ∀ s ∈ segments, sep ∉ s.toList) :
    split sep ((String.singleton sep).intercalate segments) = segments := by
  have toLists : ((String.singleton sep).intercalate segments).toList =
      [sep].intercalate (segments.map String.toList) := by
    simp [String.toList_intercalate]
  rw [split, toLists, splitOn_eq, List.splitOn_intercalate]
  · simp [Function.comp_def]
  · simpa using free
  · simpa using nonempty

theorem mem_intercalate {sep : String} {segments : List String} {c : Char}
    (member : c ∈ (sep.intercalate segments).toList) :
    c ∈ sep.toList ∨ ∃ s ∈ segments, c ∈ s.toList := by
  induction segments with
  | nil => simp at member
  | cons s rest inductionHypothesis =>
    cases rest with
    | nil =>
      rw [String.intercalate_singleton] at member
      exact .inr ⟨s, List.mem_singleton.mpr rfl, member⟩
    | cons t rest =>
      rw [String.intercalate_cons_cons, String.toList_append, String.toList_append,
        List.append_assoc, List.mem_append, List.mem_append] at member
      rcases member with inFirst | inSep | inRest
      · exact .inr ⟨s, List.mem_cons_self, inFirst⟩
      · exact .inl inSep
      · rcases inductionHypothesis inRest with inSep | ⟨u, among, inSegment⟩
        · exact .inl inSep
        · exact .inr ⟨u, List.mem_cons_of_mem _ among, inSegment⟩

def replaceChar (c : Char) (by_ : List Char) (cs : List Char) : List Char :=
  cs.flatMap fun x => if x = c then by_ else [x]

theorem replaceChar_of_not_mem {c : Char} {by_ cs : List Char} (free : c ∉ cs) :
    replaceChar c by_ cs = cs := by
  induction cs with
  | nil => rfl
  | cons x cs inductionHypothesis =>
    rw [List.mem_cons, not_or] at free
    rw [replaceChar, List.flatMap_cons, if_neg (Ne.symm free.1)]
    exact congrArg (x :: ·) (inductionHypothesis free.2)

/-- What follows `word` in a text that starts with it. -/
def dropWord? : List Char → List Char → Option (List Char)
  | [], cs => some cs
  | _ :: _, [] => none
  | w :: ws, c :: cs => if w = c then dropWord? ws cs else none

theorem eq_append_of_dropWord? {word cs rest : List Char} (h : dropWord? word cs = some rest) :
    cs = word ++ rest := by
  induction word generalizing cs with
  | nil => simpa [dropWord?] using h
  | cons w ws ih =>
    cases cs with
    | nil => simp [dropWord?] at h
    | cons c cs =>
      by_cases hw : w = c
      · subst hw
        simp only [dropWord?, ↓reduceIte] at h
        rw [ih h, List.cons_append]
      · simp [dropWord?, hw] at h

theorem dropWord?_append (word rest : List Char) : dropWord? word (word ++ rest) = some rest := by
  induction word with
  | nil => rfl
  | cons w ws ih => simpa [dropWord?] using ih

/-- Each occurrence of the word `w :: ws` replaced by a text, from left to right; the characters
of one occurrence take part in no other. `skip` counts those still to pass. -/
def replaceFrom (w : Char) (ws by_ : List Char) : Nat → List Char → List Char
  | _, [] => []
  | skip + 1, _ :: cs => replaceFrom w ws by_ skip cs
  | 0, c :: cs =>
    match dropWord? (w :: ws) (c :: cs) with
    | some _ => by_ ++ replaceFrom w ws by_ ws.length cs
    | none => c :: replaceFrom w ws by_ 0 cs

/-- Each occurrence of a word replaced by a text; an empty word occurs nowhere. -/
def replaceAll (word by_ cs : List Char) : List Char :=
  match word with
  | [] => cs
  | w :: ws => replaceFrom w ws by_ 0 cs

/-- The text before the last occurrence of a word and the text after it. -/
def cutLast? (word : List Char) : List Char → Option (List Char × List Char)
  | [] => if word = [] then some ([], []) else none
  | c :: cs =>
    match cutLast? word cs with
    | some (front, back) => some (c :: front, back)
    | none => (dropWord? word (c :: cs)).map fun back => ([], back)

theorem eq_append_of_cutLast? {word cs front back : List Char}
    (h : cutLast? word cs = some (front, back)) : cs = front ++ (word ++ back) := by
  induction cs generalizing front with
  | nil =>
    by_cases hw : word = []
    · simp_all [cutLast?]
    · simp [cutLast?, hw] at h
  | cons c cs ih =>
    rw [cutLast?] at h
    cases later : cutLast? word cs with
    | some cut =>
      obtain ⟨front', back'⟩ := cut
      rw [later] at h
      cases h
      rw [ih later, List.cons_append]
    | none =>
      rw [later] at h
      obtain ⟨back', hb, hcut⟩ := Option.map_eq_some_iff.mp h
      cases hcut
      rw [List.nil_append]
      exact eq_append_of_dropWord? hb

/-- A text is cut wherever a word occurs in it. -/
theorem exists_cutLast?_append (word front back : List Char) :
    ∃ cut, cutLast? word (front ++ (word ++ back)) = some cut := by
  induction front with
  | nil =>
    rw [List.nil_append]
    cases rest : word ++ back with
    | nil =>
      obtain ⟨rfl, rfl⟩ := List.append_eq_nil_iff.mp rest
      exact ⟨([], []), rfl⟩
    | cons c cs =>
      rw [cutLast?]
      cases cutLast? word cs with
      | some cut => exact ⟨_, rfl⟩
      | none =>
        rw [← rest, dropWord?_append]
        exact ⟨_, rfl⟩
  | cons c front ih =>
    obtain ⟨cut, hcut⟩ := ih
    rw [List.cons_append, cutLast?, hcut]
    exact ⟨_, rfl⟩

/-- A word does not occur in a text shorter than itself. -/
theorem cutLast?_eq_none {word cs : List Char} (shorter : cs.length < word.length) :
    cutLast? word cs = none := by
  cases found : cutLast? word cs with
  | none => rfl
  | some cut =>
    have parts := congrArg List.length (eq_append_of_cutLast? found)
    simp only [List.length_append] at parts
    omega

/-- The last occurrence of a word in a text that ends with it is at the end. -/
theorem cutLast?_append_word {word : List Char} (nonempty : word ≠ []) (front : List Char) :
    cutLast? word (front ++ word) = some (front, []) := by
  induction front with
  | nil =>
    cases word with
    | nil => exact absurd rfl nonempty
    | cons w ws =>
      have later : cutLast? (w :: ws) ws = none := cutLast?_eq_none (Nat.lt_succ_self _)
      have whole := dropWord?_append (w :: ws) []
      rw [List.append_nil] at whole
      rw [List.nil_append, cutLast?, later, whole]
      rfl
  | cons c front inductionHypothesis =>
    rw [List.cons_append, cutLast?, inductionHypothesis]

/-- The first line of a text and what follows it, its line feed included. -/
def firstLine (cs : List Char) : List Char × List Char :=
  (cs.takeWhile (· ≠ '\n'), cs.dropWhile (· ≠ '\n'))

/-- What `read` makes of the text after the first occurrence of a word at which it succeeds. -/
def afterFirst? {α : Type} (word : List Char) (read : List Char → Option α) :
    List Char → Option α
  | [] => (dropWord? word []).bind read
  | c :: cs =>
    match (dropWord? word (c :: cs)).bind read with
    | some found => some found
    | none => afterFirst? word read cs

def dropFinalLineFeed (cs : List Char) : List Char :=
  if cs.getLast? = some '\n' then cs.dropLast else cs

@[simp] theorem dropFinalLineFeed_append_lineFeed (cs : List Char) :
    dropFinalLineFeed (cs ++ ['\n']) = cs := by simp [dropFinalLineFeed]

theorem dropFinalLineFeed_append_ne {c : Char} (cs : List Char) (h : c ≠ '\n') :
    dropFinalLineFeed (cs ++ [c]) = cs ++ [c] := by simp [dropFinalLineFeed, h]

theorem eq_or_eq_append_dropFinalLineFeed (cs : List Char) :
    cs = dropFinalLineFeed cs ∨ cs = dropFinalLineFeed cs ++ ['\n'] := by
  by_cases h : cs.getLast? = some '\n'
  · obtain ⟨front, rfl⟩ := List.getLast?_eq_some_iff.mp h
    simp
  · simp [dropFinalLineFeed, h]

/-- A text in which a carriage return, alone or with a line feed after it, becomes a line feed. -/
def unifyLineEnds : List Char → List Char
  | [] => []
  | '\r' :: '\n' :: cs => '\n' :: unifyLineEnds cs
  | c :: cs => (if c = '\r' then '\n' else c) :: unifyLineEnds cs

theorem unifyLineEnds_of_not_mem {cs : List Char} (free : '\r' ∉ cs) : unifyLineEnds cs = cs := by
  induction cs with
  | nil => rfl
  | cons c cs inductionHypothesis =>
    rw [List.mem_cons, not_or] at free
    rw [unifyLineEnds, if_neg (Ne.symm free.1), inductionHypothesis free.2]
    rintro _ rfl
    exact absurd rfl free.1

end DocPress.Text
