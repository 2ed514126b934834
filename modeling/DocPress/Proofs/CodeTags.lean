import DocPress.Proofs.FragmentTexts
import Mathlib.Data.List.Infix

/-! # Code tags of fragments

A fragment is markup: code tags that open and close, and texts between them. A tag that is not
closed, or a less-than sign in a text, would break the page that the fragment stands on.

* `CodeBalanced`: what is asked of the code tags of a text.
* `CodeNested`: the texts that are put together from texts without less-than signs and from code
  tags around such texts. They are balanced (`CodeNested.balanced`).
* `TypeExpr.Carries`: the texts of a type that come from the document.
* `TypeExpr.codeBalanced_render`: a fragment is balanced if the texts of the types that it shows
  have no less-than sign. -/

set_option autoImplicit false

namespace DocPress

/-! ## Balanced texts -/

/-- Whether a text starts with a tag that opens a piece of code, whatever its attributes are. -/
def opensCode (cs : List Char) : Bool :=
  match Text.dropWord? "<code ".toList cs with
  | some rest => (rest.dropWhile fun c => decide (c ≠ '<' ∧ c ≠ '>')).head? == some '>'
  | none => false

/-- Whether a text starts with the tag that closes a piece of code. -/
def closesCode (cs : List Char) : Bool := (Text.dropWord? "</code>".toList cs).isSome

/-- At how many places of a text something starts. -/
def placesOf (starts : List Char → Bool) (cs : List Char) : Nat := cs.tails.countP starts

/-- A text with code tags in proper nesting: no tag is closed that has not been opened, all tags
that are opened are closed, and each less-than sign belongs to one of these tags. -/
structure CodeBalanced (s : String) : Prop where
  prefixes : ∀ start, start <+: s.toList → placesOf closesCode start ≤ placesOf opensCode start
  whole : placesOf opensCode s.toList = placesOf closesCode s.toList
  others : s.toList.count '<' = placesOf opensCode s.toList + placesOf closesCode s.toList

/-! ## Counting tags -/

def openingTag (style : String) : List Char := ("<code class=\"" ++ style ++ "\">").toList

def closingTag : List Char := "</code>".toList

theorem toList_code (style s : String) :
    (Markup.code style s).toList = openingTag style ++ (s.toList ++ closingTag) := by
  have split (opening closing : String) : (opening ++ s ++ closing).toList =
      opening.toList ++ (s.toList ++ closing.toList) := by
    simp
  exact split _ _

/-- A number that tells how many tags a text has: it changes with the opening and the closing tags
of code, and not with texts that have no less-than sign. -/
structure CountsTags (count : List Char → Nat) (opening closing : Nat) : Prop where
  nil : count [] = 0
  text {text : List Char} (free : '<' ∉ text) (rest : List Char) : count (text ++ rest) = count rest
  opening {style : String} (isStyle : style ∈ Markup.styles) (rest : List Char) :
    count (openingTag style ++ rest) = opening + count rest
  closing (rest : List Char) : count (closingTag ++ rest) = closing + count rest

theorem CountsTags.text_eq_zero {count : List Char → Nat} {opening closing : Nat}
    (counts : CountsTags count opening closing) {text : List Char} (free : '<' ∉ text) :
    count text = 0 := by
  rw [← List.append_nil text, counts.text free, counts.nil]

/-- Tags start with a less-than sign, and have no other. -/
theorem openingTag_eq {style : String} (isStyle : style ∈ Markup.styles) :
    ∃ body, openingTag style = '<' :: body ∧ '<' ∉ body := by
  have tags : ∀ style ∈ Markup.styles,
      openingTag style = '<' :: (openingTag style).tail ∧ '<' ∉ (openingTag style).tail := by
    decide
  exact ⟨_, tags style isStyle⟩

theorem countsTags_count : CountsTags (List.count '<') 1 1 where
  nil := rfl
  text free rest := by
    rw [List.count_append, List.count_eq_zero_of_not_mem free, Nat.zero_add]
  opening isStyle rest := by
    obtain ⟨body, isTag, free⟩ := openingTag_eq isStyle
    rw [isTag, List.count_append, List.count_cons_self, List.count_eq_zero_of_not_mem free]
  closing rest := by
    rw [List.count_append]
    rfl

section

variable {starts : List Char → Bool}

theorem placesOf_cons (c : Char) (cs : List Char) :
    placesOf starts (c :: cs) = (if starts (c :: cs) then 1 else 0) + placesOf starts cs := by
  rw [placesOf, List.tails_cons, List.countP_cons, Nat.add_comm]
  rfl

/-- What starts at less-than signs only. -/
def StartAtLessThan (starts : List Char → Bool) : Prop :=
  starts [] = false ∧ ∀ c cs, c ≠ '<' → starts (c :: cs) = false

namespace StartAtLessThan

variable (lessThan : StartAtLessThan starts)

include lessThan

theorem placesOf_append {text : List Char} (free : '<' ∉ text) (rest : List Char) :
    placesOf starts (text ++ rest) = placesOf starts rest := by
  induction text with
  | nil => rfl
  | cons c text inductionHypothesis =>
    have first := List.ne_of_not_mem_cons free
    have others := inductionHypothesis (List.not_mem_of_not_mem_cons free)
    rw [List.cons_append, placesOf_cons, others, lessThan.2 c _ (Ne.symm first)]
    simp

theorem placesOf_tag {body : List Char} (free : '<' ∉ body) (rest : List Char) :
    placesOf starts ('<' :: body ++ rest) =
      (if starts ('<' :: body ++ rest) then 1 else 0) + placesOf starts rest := by
  rw [List.cons_append, placesOf_cons, lessThan.placesOf_append free]

/-- What is found at all opening tags or at none, and at all closing tags or at none. -/
theorem countsTags (opening closing : Bool)
    (atOpening : ∀ style ∈ Markup.styles, ∀ rest, starts (openingTag style ++ rest) = opening)
    (atClosing : ∀ rest, starts (closingTag ++ rest) = closing) :
    CountsTags (placesOf starts) (if opening then 1 else 0) (if closing then 1 else 0) where
  nil := by simp [placesOf, lessThan.1]
  text free rest := lessThan.placesOf_append free rest
  opening {style} isStyle rest := by
    obtain ⟨body, isTag, free⟩ := openingTag_eq isStyle
    have here := atOpening style isStyle rest
    rw [isTag] at here ⊢
    rw [lessThan.placesOf_tag free, here]
  closing rest := by
    have isTag : closingTag = '<' :: "/code>".toList := rfl
    have here := atClosing rest
    rw [isTag] at here ⊢
    rw [lessThan.placesOf_tag (by decide), here]

end StartAtLessThan

end

theorem countsTags_opensCode : CountsTags (placesOf opensCode) 1 0 := by
  have lessThan : StartAtLessThan opensCode := by
    refine ⟨rfl, fun c cs other => ?_⟩
    simp [opensCode, Text.dropWord?, Ne.symm other]
  apply lessThan.countsTags true false
  · intro style isStyle rest
    simp only [Markup.styles, List.mem_cons, List.not_mem_nil, or_false] at isStyle
    rcases isStyle with rfl | rfl | rfl <;> rfl
  · intro rest
    rfl

theorem countsTags_closesCode : CountsTags (placesOf closesCode) 0 1 := by
  have lessThan : StartAtLessThan closesCode := by
    refine ⟨rfl, fun c cs other => ?_⟩
    simp [closesCode, Text.dropWord?, Ne.symm other]
  apply lessThan.countsTags false true
  · intro style isStyle rest
    simp only [Markup.styles, List.mem_cons, List.not_mem_nil, or_false] at isStyle
    rcases isStyle with rfl | rfl | rfl <;> rfl
  · intro rest
    rfl

/-! ## Nested texts -/

/-- The texts that are put together from texts without less-than signs and from code tags around
such texts. -/
inductive CodeNested : String → Prop
  | plain {s : String} (free : '<' ∉ s.toList) : CodeNested s
  | append {s s' : String} (first : CodeNested s) (second : CodeNested s') : CodeNested (s ++ s')
  | code {style s : String} (isStyle : style ∈ Markup.styles) (inside : CodeNested s) :
      CodeNested (Markup.code style s)

namespace CodeNested

/-- A nested text adds as many opening tags as closing ones. -/
theorem exists_count_append {s : String} (nested : CodeNested s) :
    ∃ pairs, ∀ count opening closing, CountsTags count opening closing → ∀ rest,
      count (s.toList ++ rest) = pairs * (opening + closing) + count rest := by
  -- one pair for each code tag, whatever is counted
  induction nested with
  | plain free =>
    refine ⟨0, fun count opening closing counts rest => ?_⟩
    rw [counts.text free, Nat.zero_mul, Nat.zero_add]
  | append _ _ ofFirst ofSecond =>
    obtain ⟨first, eachFirst⟩ := ofFirst
    obtain ⟨second, eachSecond⟩ := ofSecond
    refine ⟨first + second, fun count opening closing counts rest => ?_⟩
    rw [String.toList_append, List.append_assoc, eachFirst count opening closing counts,
      eachSecond count opening closing counts, Nat.add_mul, Nat.add_assoc]
  | code isStyle _ ofInside =>
    obtain ⟨pairs, each⟩ := ofInside
    refine ⟨pairs + 1, fun count opening closing counts rest => ?_⟩
    rw [toList_code, List.append_assoc, List.append_assoc, counts.opening isStyle,
      each count opening closing counts, counts.closing, Nat.succ_mul]
    omega

/-- A start of two texts ends in the first or in the second. -/
theorem prefix_append_cases {start xs ys : List Char} (isStart : start <+: xs ++ ys) :
    start <+: xs ∨ ∃ rest, rest <+: ys ∧ start = xs ++ rest := by
  cases List.prefix_or_prefix_of_prefix isStart (List.prefix_append xs ys) with
  | inl inFirst => exact .inl inFirst
  | inr past =>
    obtain ⟨rest, rfl⟩ := past
    exact .inr ⟨rest, (List.prefix_append_right_inj xs).mp isStart, rfl⟩

theorem closings_le_openings {s : String} (nested : CodeNested s) {start : List Char}
    (isStart : start <+: s.toList) : placesOf closesCode start ≤ placesOf opensCode start := by
  induction nested generalizing start with
  | plain free =>
    have noneInStart := fun isSign => free (isStart.subset isSign)
    rw [countsTags_closesCode.text_eq_zero noneInStart]
    exact Nat.zero_le _
  | append first _ ofFirst ofSecond =>
    rw [String.toList_append] at isStart
    rcases prefix_append_cases isStart with inFirst | ⟨rest, inSecond, rfl⟩
    · exact ofFirst inFirst
    · obtain ⟨pairs, each⟩ := first.exists_count_append
      have fromSecond := ofSecond inSecond
      rw [each _ _ _ countsTags_closesCode, each _ _ _ countsTags_opensCode]
      omega
  | code isStyle inside ofInside =>
    have inOpening : ∀ style ∈ Markup.styles, ∀ start ∈ (openingTag style).inits,
        placesOf closesCode start ≤ placesOf opensCode start := by decide
    have inClosing : ∀ start ∈ closingTag.inits,
        placesOf closesCode start ≤ placesOf opensCode start + 1 := by decide
    rw [toList_code] at isStart
    rcases prefix_append_cases isStart with isOpening | ⟨behind, startsBehind, rfl⟩
    · exact inOpening _ isStyle start ((List.mem_inits _ _).mpr isOpening)
    · rw [countsTags_closesCode.opening isStyle, countsTags_opensCode.opening isStyle]
      rcases prefix_append_cases startsBehind with isInside | ⟨rest, isClosing, rfl⟩
      · have fromInside := ofInside isInside
        omega
      · obtain ⟨pairs, each⟩ := inside.exists_count_append
        have fromClosing := inClosing rest ((List.mem_inits _ _).mpr isClosing)
        rw [each _ _ _ countsTags_closesCode, each _ _ _ countsTags_opensCode]
        omega

theorem balanced {s : String} (nested : CodeNested s) : CodeBalanced s := by
  obtain ⟨pairs, each⟩ := nested.exists_count_append
  have openings := each _ _ _ countsTags_opensCode []
  have closings := each _ _ _ countsTags_closesCode []
  have signs := each _ _ _ countsTags_count []
  simp only [List.append_nil, countsTags_opensCode.nil, countsTags_closesCode.nil,
    List.count_nil] at openings closings signs
  refine ⟨fun start isStart => nested.closings_le_openings isStart, ?_, ?_⟩
  · omega
  · omega

end CodeNested

theorem framed_codeNested : Framed CodeNested where
  plain isPlain := .plain fun isSign => (isPlain _ isSign).1 rfl
  append := .append
  code := .code
  opening := .plain (by decide)
  closing := .plain (by decide)

/-! ## The texts of a document -/

/-- The label and the address of a link have no other characters than the text that they are read
from. -/
theorem DocComment.mem_of_readClientLink {s : String} {link : String × String}
    (read : readClientLink s = some link) {c : Char}
    (member : c ∈ link.1.toList ∨ c ∈ link.2.toList) : c ∈ s.toList := by
  obtain ⟨name, address, rfl, -, -, isLink⟩ := clientLink_of_read read
  have inLink : c ∈ (clientLink name address).toList := by
    rw [toList_clientLink]
    simp only [String.toList_append, List.mem_append] at member ⊢
    tauto
  cases isLink with
  | inl isLink => rwa [isLink]
  | inr isLink =>
    rw [isLink, String.toList_append]
    exact List.mem_append_left _ inLink

theorem DocComment.lt_not_mem_of_seeLink {comment : Option DocComment} {link : String × String}
    (sees : seeLink? comment = some link)
    (free : ∀ s, seeText? comment = some (.text s) → '<' ∉ s.toList) :
    '<' ∉ link.1.toList ∧ '<' ∉ link.2.toList := by
  obtain ⟨given, isGiven, isLink⟩ := Option.bind_eq_some_iff.mp sees
  obtain ⟨s, isText, read⟩ := Option.bind_eq_some_iff.mp isLink
  cases given with
  | text =>
    cases isText
    constructor
    · intro isSign
      exact free s isGiven (mem_of_readClientLink read (.inl isSign))
    · intro isSign
      exact free s isGiven (mem_of_readClientLink read (.inr isSign))
  | _ => cases isText

/-- The texts of the document that a type carries, those of the types in it left out: names, the
texts of literal and template types, the paths of declaring files, and the texts of comments that
may give a link. -/
inductive TypeExpr.Carries : TypeExpr → String → Prop
  | primitive {name : Data} : Carries (.primitive name) name.display
  | literal {text : String} : Carries (.literal (.text text)) text
  | head {head : String} {spans : List (TypeExpr × Data)} :
      Carries (.template (.text head) spans) head
  | hole {head hole tail : Data} : Carries (.template head [(.primitive hole, tail)]) hole.display
  | tail {head : Data} {hole : TypeExpr} {tail : String} :
      Carries (.template head [(hole, .text tail)]) tail
  | name {ref : Reference} : Carries (.reference ref) ref.name.display
  | source {ref : Reference} {source : String} (isSource : ref.sourcePath = some (.text source)) :
      Carries (.reference ref) source
  | parameter {parameters : List Declaration} {result : TypeExpr} {d : Declaration}
      (isParameter : d ∈ parameters) : Carries (.callable parameters result) d.name.display
  | comment {parameters : List Declaration} {result : TypeExpr} {d : Declaration} {text : String}
      (isParameter : d ∈ parameters) (sees : DocComment.seeText? d.comment = some (.text text)) :
      Carries (.callable parameters result) text

theorem Link.sourcePath_of_sourceOf {ref : Reference} {source : String}
    (isSource : sourceOf ref = .ok source) :
    source = "" ∨ ref.sourcePath = some (.text source) := by
  have isText := eq_text_of_required isSource
  cases path : ref.sourcePath.filter Data.isTrue with
  | none =>
    rw [path] at isText
    cases isText
    exact .inl rfl
  | some d =>
    rw [path] at isText
    cases isText
    exact .inr (Option.filter_eq_some_iff.mp path).1

theorem Text.lt_not_mem_escape {isMarked : Char → Bool} {cs : List Char} (free : '<' ∉ cs) :
    '<' ∉ escape isMarked cs := by
  intro isSign
  obtain ⟨c, isChar, fromChar⟩ := List.mem_flatMap.mp isSign
  have other : c ≠ '<' := by
    rintro rfl
    exact free isChar
  split at fromChar <;> simp [Ne.symm other] at fromChar

namespace TypeExpr

variable {unit : DocUnit} {unwrap : Bool} {t : TypeExpr} {shown text : String}

theorem Names.lt_not_mem (names : t.Names unit text)
    (carried : ∀ text, t.Carries text → '<' ∉ text.toList) : '<' ∉ text.toList := by
  cases names with
  | primitive => exact carried _ .primitive
  | hole => exact carried _ .hole
  | reference => exact carried _ .name
  | address isLink resolved =>
    apply (Link.leads_of_resolve resolved).lt_not_mem_href
    · intro name isName
      have free := carried _ .name
      rwa [isName] at free
    · intro source isSource
      cases Link.sourcePath_of_sourceOf isSource with
      | inl isEmpty =>
        rw [isEmpty]
        decide
      | inr isPath => exact carried _ (.source isPath)
  | parameter isParameter => exact carried _ (.parameter isParameter)
  | seeLabel isParameter sees =>
    have free := DocComment.lt_not_mem_of_seeLink sees fun s isText =>
      carried s (.comment isParameter isText)
    exact free.1
  | seeAddress isParameter sees =>
    have free := DocComment.lt_not_mem_of_seeLink sees fun s isText =>
      carried s (.comment isParameter isText)
    exact free.2

theorem Puts.lt_not_mem (puts : t.Puts unit text)
    (carried : ∀ text, t.Carries text → '<' ∉ text.toList) : '<' ∉ text.toList := by
  cases puts with
  | name names => exact names.lt_not_mem carried
  | literal =>
    rw [Text.escapeMarkdown, String.toList_ofList]
    exact Text.lt_not_mem_escape (carried _ .literal)
  | head =>
    rw [Text.escapeBraces, String.toList_ofList]
    exact Text.lt_not_mem_escape (carried _ .head)
  | tail =>
    rw [Text.escapeBraces, String.toList_ofList]
    exact Text.lt_not_mem_escape (carried _ .tail)

/-- If the texts that a type carries and those of the types that its fragment shows have no
less-than sign, then the code tags of the fragment are balanced, and it has no other less-than
sign. -/
theorem codeBalanced_render (rendered : t.render unit unwrap = .ok shown)
    (carried : ∀ s text, t.Rendered s → s.Carries text → '<' ∉ text.toList) :
    CodeBalanced shown := by
  have nested : CodeNested shown := by
    apply framed_render framed_codeNested rendered
    intro s text shows puts
    exact .plain (puts.lt_not_mem fun text => carried s text shows)
  exact nested.balanced

/-- A list of texts, or a function that changes such a list. -/
def transformOfTexts : Reference where
  name := .text "Transform"
  package := some (.text "@sst/platform")
  qualifiedName := none
  arguments := [.array (.primitive (.text "string"))]
  target := none

theorem codeBalanced_render_transformOfTexts :
    ∃ shown, (reference transformOfTexts).render settingsUnit false = .ok shown ∧
      (∀ s text, (reference transformOfTexts).Rendered s → s.Carries text → '<' ∉ text.toList) ∧
      CodeBalanced shown := by
  have rendered : ∃ shown, (reference transformOfTexts).render settingsUnit false = .ok shown :=
    ⟨_, rfl⟩
  have carried : ∀ s text, (reference transformOfTexts).Rendered s → s.Carries text →
      '<' ∉ text.toList := by
    intro s text shows carries
    rcases Relation.ReflTransGen.cases_head shows with rfl | ⟨_, displays, shows⟩
    · cases carries with
      | name => decide
      | source isSource => cases isSource
    cases displays with
    | argument language => simp [Reference.IsLanguage, transformOfTexts] at language
    | payload _ _ isFirst =>
      cases isFirst
      rcases Relation.ReflTransGen.cases_head shows with rfl | ⟨_, ⟨⟩, shows⟩
      · cases carries
      rcases Relation.ReflTransGen.cases_head shows with rfl | ⟨_, ⟨⟩, -⟩
      cases carries
      decide
  obtain ⟨shown, rendered⟩ := rendered
  exact ⟨shown, rendered, carried, codeBalanced_render rendered carried⟩

end TypeExpr

end DocPress
