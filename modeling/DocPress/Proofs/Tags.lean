import DocPress.Text.Search
import Mathlib.Data.List.Infix

/-! # Tags

Some lines of the body of a section are tags that open or close an element of the page. If an
element is left open, or closed where it is not open, the page cannot be read.

* `tag?`: the tag that a line is, if it is one.
* `elementsAfter`: the elements that are open after some lines.
* `Balanced`: lines whose tags open and close all elements properly.
* `Leads`: which elements are open before and after some lines. Bodies are put together from pieces
  that lead from one to another, many of which change nothing (`SelfClosed`).

The last part is about texts in which something is inserted after each occurrence of a word
(`Inserted`). It makes no tag out of a line that is none. -/

set_option autoImplicit false

namespace DocPress

/-! ## Reading tags -/

/-- The elements that tags open and close. -/
inductive Element where
  | segment
  | block
  | inlineBlock
deriving DecidableEq

inductive Tag where
  | opening (element : Element)
  | closing (element : Element)
deriving DecidableEq

/-- The tags without attributes. -/
def bareTags : List (String × Tag) :=
  [("<Segment>", .opening .segment), ("</Segment>", .closing .segment),
   ("<Section>", .opening .block), ("</Section>", .closing .block),
   ("<InlineSection>", .opening .inlineBlock), ("</InlineSection>", .closing .inlineBlock)]

/-- What a tag with attributes starts with. -/
def attributeStart : List Char := "<Section ".toList

/-- Whether a line is a tag with attributes: there is nothing after its first closing bracket. -/
def HasAttributes (line : List Char) : Prop :=
  attributeStart <+: line ∧ line.getLast? = some '>' ∧ line.count '>' = 1
deriving Decidable

/-- The tag that a line is. -/
def tag? (line : String) : Option Tag :=
  (bareTags.lookup line).or (if HasAttributes line.toList then some (.opening .block) else none)

/-- The open elements after a tag, the last one first; only the last one can be closed. -/
def Tag.elementsAfter : Tag → List Element → Option (List Element)
  | .opening e, elements => some (e :: elements)
  | .closing e, last :: others => if last = e then some others else none
  | .closing _, [] => none

/-- The open elements after some lines, if each tag among them can stand where it does. -/
def elementsAfter (elements : List Element) : List String → Option (List Element)
  | [] => some elements
  | line :: lines =>
    match tag? line with
    | none => elementsAfter elements lines
    | some tag => (tag.elementsAfter elements).bind fun now => elementsAfter now lines

/-- Lines in which each element that is opened is closed, in proper nesting, and no other. -/
def Balanced (lines : List String) : Prop := elementsAfter [] lines = some []

/-! ## Lines that are no tags -/

theorem tag?_eq_none_iff {line : String} :
    tag? line = none ↔ line ∉ bareTags.map Prod.fst ∧ ¬ HasAttributes line.toList := by
  have isBare : bareTags.lookup line = none ↔ line ∉ bareTags.map Prod.fst := by
    rw [List.lookup_eq_none_iff, List.mem_map]
    simp only [bne_iff_ne, not_exists, not_and]
    exact forall₂_congr fun row _ => ne_comm
  rw [tag?, Option.or_eq_none_iff, isBare]
  refine and_congr_right fun _ => ?_
  split <;> simp_all

/-- The first two characters of tags. -/
def tagStarts : List (List Char) := [['<', 'S'], ['<', 'I'], ['<', '/']]

/-- A text that starts no tag, whatever follows it. -/
def StartsNoTag (start : String) : Prop :=
  2 ≤ start.toList.length ∧ start.toList.take 2 ∉ tagStarts
deriving Decidable

theorem tag?_append_eq_none {start : String} (startsNoTag : StartsNoTag start) (rest : String) :
    tag? (start ++ rest) = none := by
  obtain ⟨long, apart⟩ := startsNoTag
  have sameStart : (start ++ rest).toList.take 2 = start.toList.take 2 := by
    rw [String.toList_append, List.take_append_of_le_length long]
  rw [tag?_eq_none_iff]
  constructor
  · intro isBare
    have starts : ∀ tag ∈ bareTags.map Prod.fst, tag.toList.take 2 ∈ tagStarts := by decide +kernel
    rw [← sameStart] at apart
    exact apart (starts _ isBare)
  · rintro ⟨⟨more, starts⟩, -⟩
    have isStart : (attributeStart ++ more).take 2 = ['<', 'S'] := rfl
    rw [← sameStart, ← starts, isStart] at apart
    exact apart (by decide)

/-- A line is no tag if it does not end with a closing bracket. -/
theorem tag?_eq_none_of_getLast? {line : String} (open_ : line.toList.getLast? ≠ some '>') :
    tag? line = none := by
  rw [tag?_eq_none_iff]
  refine ⟨fun isBare => ?_, fun hasAttributes => open_ hasAttributes.2.1⟩
  have ends : ∀ tag ∈ bareTags.map Prod.fst, tag.toList.getLast? = some '>' := by decide +kernel
  exact open_ (ends _ isBare)

/-! ## Pieces of bodies -/

/-- Lines before which some elements are open, and after which others are. -/
def Leads (before : List Element) (lines : List String) (after : List Element) : Prop :=
  elementsAfter before lines = some after

/-- Lines that leave open what is open, and nothing else. -/
def SelfClosed (lines : List String) : Prop := ∀ elements, Leads elements lines elements

theorem elementsAfter_append (elements : List Element) (xs ys : List String) :
    elementsAfter elements (xs ++ ys) =
      (elementsAfter elements xs).bind fun now => elementsAfter now ys := by
  induction xs generalizing elements with
  | nil => rfl
  | cons line xs inductionHypothesis =>
    rw [List.cons_append, elementsAfter, elementsAfter]
    cases tag? line with
    | none => exact inductionHypothesis elements
    | some tag =>
      rw [Option.bind_assoc]
      exact congrArg (tag.elementsAfter elements).bind (funext inductionHypothesis)

namespace Leads

variable {before between after : List Element} {line : String} {xs ys lines : List String}

theorem nil : Leads before [] before := rfl

theorem plain (isPlain : tag? line = none) (rest : Leads before lines after) :
    Leads before (line :: lines) after := by
  rw [Leads, elementsAfter, isPlain]
  exact rest

theorem opens {e : Element} (isTag : tag? line = some (.opening e))
    (rest : Leads (e :: before) lines after) : Leads before (line :: lines) after := by
  rw [Leads, elementsAfter, isTag]
  exact rest

theorem closes {e : Element} (isTag : tag? line = some (.closing e))
    (rest : Leads before lines after) : Leads (e :: before) (line :: lines) after := by
  have isLast : (Tag.closing e).elementsAfter (e :: before) = some before := if_pos rfl
  rw [Leads, elementsAfter, isTag]
  dsimp only
  rw [isLast]
  exact rest

theorem append (first : Leads before xs between) (rest : Leads between ys after) :
    Leads before (xs ++ ys) after := by
  rw [Leads, elementsAfter_append, first]
  exact rest

theorem followedBy (leads : Leads before xs after) (closed : SelfClosed ys) :
    Leads before (xs ++ ys) after := leads.append (closed after)

end Leads

namespace SelfClosed

theorem nil : SelfClosed [] := fun _ => rfl

theorem cons {line : String} {lines : List String} (plain : tag? line = none)
    (rest : SelfClosed lines) : SelfClosed (line :: lines) :=
  fun elements => .plain plain (rest elements)

theorem of_plain {lines : List String} (plain : ∀ line ∈ lines, tag? line = none) :
    SelfClosed lines := by
  induction lines with
  | nil => exact .nil
  | cons line lines inductionHypothesis =>
    rw [List.forall_mem_cons] at plain
    exact .cons plain.1 (inductionHypothesis plain.2)

theorem single {line : String} (plain : tag? line = none) : SelfClosed [line] := .cons plain .nil

theorem balanced {lines : List String} (closed : SelfClosed lines) : Balanced lines := closed []

/-- Lines may be rewritten if this makes no tag and no other line out of a tag. -/
theorem map {lines : List String} {rewrite : String → String} (closed : SelfClosed lines)
    (kept : ∀ line ∈ lines, tag? (rewrite line) = tag? line) : SelfClosed (lines.map rewrite) := by
  -- part of the lines need not be closed, so the induction is on what they leave open
  have sameElements : ∀ elements, elementsAfter elements (lines.map rewrite) =
      elementsAfter elements lines := by
    clear closed
    induction lines with
    | nil => exact fun _ => rfl
    | cons line lines inductionHypothesis =>
      rw [List.forall_mem_cons] at kept
      intro elements
      rw [List.map_cons, elementsAfter, elementsAfter, kept.1]
      simp only [inductionHypothesis kept.2]
  exact fun elements => (sameElements elements).trans (closed elements)

end SelfClosed

/-! ## Insertions -/

/-- A text in which something is inserted after occurrences of a word. -/
inductive Inserted (word added : List Char) : List Char → List Char → Prop
  | nil : Inserted word added [] []
  | char {cs rs : List Char} (c : Char) (rest : Inserted word added cs rs) :
      Inserted word added (c :: cs) (c :: rs)
  | word {cs rs : List Char} (rest : Inserted word added cs rs) :
      Inserted word added (word ++ cs) (word ++ added ++ rs)

theorem inserted_replaceFrom (w : Char) (ws added : List Char) (skip : Nat) (cs : List Char) :
    Inserted (w :: ws) added (cs.drop skip)
      (Text.replaceFrom w ws (w :: ws ++ added) skip cs) := by
  induction cs generalizing skip with
  | nil =>
    rw [List.drop_nil]
    cases skip <;> exact .nil
  | cons c cs inductionHypothesis =>
    cases skip with
    | succ skip => exact inductionHypothesis skip
    | zero =>
      rw [Text.replaceFrom, List.drop_zero]
      cases found : Text.dropWord? (w :: ws) (c :: cs) with
      | none => exact .char c (inductionHypothesis 0)
      | some rest =>
        have isWord : c :: cs = w :: ws ++ rest := Text.eq_append_of_dropWord? found
        have rest_eq : cs.drop ws.length = rest := by
          rw [show cs = ws ++ rest from (List.cons.inj isWord).2, List.drop_left]
        have later := inductionHypothesis ws.length
        rw [rest_eq] at later
        rw [isWord]
        exact .word later

/-- Replacing a word by itself and something more inserts that. -/
theorem inserted_replaceAll {word : List Char} (nonempty : word ≠ []) (added cs : List Char) :
    Inserted word added cs (Text.replaceAll word (word ++ added) cs) := by
  cases word with
  | nil => contradiction
  | cons w ws => exact inserted_replaceFrom w ws added 0 cs

/-- How a call of a constructor starts. -/
def newStart : List Char := "new".toList

namespace Inserted

variable {word added cs rs : List Char}

/-- Whether a word has no overlap with a text, at its end or anywhere within. -/
def Apart (word text : List Char) : Prop :=
  ∀ rest, rest <:+ text → rest ≠ [] → ∀ more, ¬ rest <+: word ++ more

/-- What a text starts with stays the same if no word begins in it. -/
theorem isPrefix_iff (inserted : Inserted word added cs rs) {start : List Char}
    (apart : Apart word start) : start <+: rs ↔ start <+: cs := by
  induction inserted generalizing start with
  | nil => rfl
  | char c rest inductionHypothesis =>
    cases start with
    | nil => simp
    | cons d start =>
      rw [List.cons_prefix_cons, List.cons_prefix_cons, inductionHypothesis]
      exact fun rest suffix => apart rest (suffix.trans (List.suffix_cons d start))
  | word rest _ =>
    -- neither text starts with what is left to be found, as both start with the word
    by_cases isEmpty : start = []
    · simp [isEmpty]
    · rw [List.append_assoc]
      exact iff_of_false (apart start (List.suffix_refl start) isEmpty _)
        (apart start (List.suffix_refl start) isEmpty _)

theorem eq_iff (inserted : Inserted word added cs rs) {text : List Char} (apart : Apart word text)
    (nonempty : word ≠ []) : rs = text ↔ cs = text := by
  induction inserted generalizing text with
  | nil => rfl
  | char c rest inductionHypothesis =>
    cases text with
    | nil => simp
    | cons d text =>
      rw [List.cons.injEq, List.cons.injEq, inductionHypothesis]
      exact fun rest suffix => apart rest (suffix.trans (List.suffix_cons d text))
  | @word cs rs rest _ =>
    have notWord : ∀ more, word ++ more ≠ text := by
      intro more same
      have text_ne : text ≠ [] := by simp [← same, nonempty]
      exact apart text (List.suffix_refl text) text_ne more (same ▸ List.prefix_refl _)
    rw [List.append_assoc]
    exact iff_of_false (notWord _) (notWord _)

theorem count_eq (inserted : Inserted word added cs rs) {c : Char} (free : c ∉ added) :
    rs.count c = cs.count c := by
  induction inserted with
  | nil => rfl
  | char d _ inductionHypothesis => rw [List.count_cons, List.count_cons, inductionHypothesis]
  | word _ inductionHypothesis =>
    rw [List.count_append, List.count_append, List.count_append, inductionHypothesis,
      List.count_eq_zero_of_not_mem free, Nat.add_zero]

theorem length_le (inserted : Inserted word added cs rs) : cs.length ≤ rs.length := by
  induction inserted with
  | nil => exact le_rfl
  | char c _ inductionHypothesis => simpa using inductionHypothesis
  | word _ inductionHypothesis =>
    simp only [List.length_append]
    omega

theorem eq_of_empty (inserted : Inserted word [] cs rs) : rs = cs := by
  induction inserted with
  | nil => rfl
  | char c _ inductionHypothesis => rw [inductionHypothesis]
  | word _ inductionHypothesis => rw [inductionHypothesis, List.append_nil]

/-- Nothing is inserted at the end but after a word. -/
theorem getLast?_eq (inserted : Inserted word added cs rs) (nonempty : word ≠ []) {c : Char}
    (free : c ∉ added) (last : rs.getLast? = some c) : cs.getLast? = some c := by
  -- needed for the rest of a text, hence for all of them
  have none_iff : ∀ {cs rs : List Char}, Inserted word added cs rs → (rs = [] ↔ cs = []) :=
    fun inserted => inserted.eq_iff (fun rest suffix nonempty =>
      absurd (List.suffix_nil.mp suffix) nonempty) nonempty
  induction inserted with
  | nil => exact last
  | @char cs rs d rest inductionHypothesis =>
    by_cases isEmpty : rs = []
    · rwa [(none_iff rest).mp isEmpty, ← isEmpty]
    · have notEmpty := mt (none_iff rest).mpr isEmpty
      rw [List.getLast?_cons_of_ne_nil isEmpty] at last
      rw [List.getLast?_cons_of_ne_nil notEmpty]
      exact inductionHypothesis last
  | @word cs rs rest inductionHypothesis =>
    rw [List.getLast?_append] at last ⊢
    cases ofRest : rs.getLast? with
    | some r =>
      rw [ofRest] at last inductionHypothesis
      rw [inductionHypothesis last]
      rfl
    | none =>
      -- the last character is that of the word, unless something was inserted after it
      have isEmpty := (none_iff rest).mp (List.getLast?_eq_none_iff.mp ofRest)
      rw [ofRest, Option.none_or, List.getLast?_append, Option.or_eq_some_iff] at last
      rcases last with isAdded | ⟨-, isWord⟩
      · exact absurd (List.mem_of_getLast? isAdded) free
      · rw [isEmpty, isWord]
        rfl

theorem eq_of_apart (inserted : Inserted word added cs rs) (apart : Apart word cs)
    (nonempty : word ≠ []) : rs = cs := (inserted.eq_iff apart nonempty).mpr rfl

/-- A text is apart from a word if no end of it starts like the word. -/
theorem apart_of_tails {start text : List Char} (starts : start <+: word)
    (differ : ∀ rest ∈ text.tails, rest ≠ [] → ¬ rest <+: start ∧ ¬ start <+: rest) :
    Apart word text := by
  intro rest suffix nonempty others overlaps
  have differs := differ rest ((List.mem_tails _ _).mpr suffix) nonempty
  exact (List.prefix_or_prefix_of_prefix overlaps (starts.trans (List.prefix_append word _))).elim
    differs.1 differs.2

/-- No tag comes from what is inserted into a line that is none. -/
theorem tag?_eq_none {line result : String}
    (inserted : Inserted word added line.toList result.toList) (isNew : newStart <+: word)
    (free : '>' ∉ added) (plain : tag? line = none) : tag? result = none := by
  have nonempty : word ≠ [] := by
    rintro rfl
    exact absurd (List.prefix_nil.mp isNew) (by decide)
  -- no end of a tag, or of the start of one with attributes, overlaps with a call
  have differ : ∀ text ∈ attributeStart :: bareTags.map (fun tag => tag.1.toList),
      ∀ rest ∈ text.tails, rest ≠ [] → ¬ rest <+: newStart ∧ ¬ newStart <+: rest := by
    decide +kernel
  rw [List.forall_mem_cons] at differ
  rw [tag?_eq_none_iff] at plain ⊢
  refine ⟨fun isBare => plain.1 ?_, fun ⟨starts, ends, once⟩ => plain.2 ⟨?_, ?_, ?_⟩⟩
  · obtain ⟨tag, isTag, rfl⟩ := List.mem_map.mp isBare
    have apart := apart_of_tails isNew (differ.2 _ (List.mem_map_of_mem isTag))
    rw [String.toList_inj.mp ((inserted.eq_iff apart nonempty).mp rfl)]
    exact isBare
  · exact (inserted.isPrefix_iff (apart_of_tails isNew differ.1)).mp starts
  · exact inserted.getLast?_eq nonempty free ends
  · rwa [← inserted.count_eq free]

end Inserted

end DocPress
