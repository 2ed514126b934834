import DocPress.Page.OfExamples
import Mathlib.Data.List.Forall2
import Mathlib.Data.List.Infix

/-! # The run function of an example

The page of examples shows the body of the `run` function of each app: what is between the first
line that opens the function and the last line that ends a member, without four columns. A source
without such lines is refused. That the last end comes after the start is not checked, nor that the
four columns are blank.

* `Example.Found`: what is found between the two lines, by how they are arranged.
* `Example.Documented`: what should be shown of a source.
* `Example.documented_runFunctionOf_iff`: when this is what is shown. -/

set_option autoImplicit false

namespace DocPress.Example

variable {lines body before after front rest : List String} {line : String}

/-! ## What is between the two lines -/

theorem runStart_ne_runEnd : runStart ≠ runEnd := by decide

/-- What is found between the first `runStart` and the last `runEnd` in some lines: nothing if one
of them is missing, no lines if the end comes first, and else the lines between them. -/
inductive Found : List String → Option (List String) → Prop
  | missing {lines : List String} (absent : runStart ∉ lines ∨ runEnd ∉ lines) : Found lines none
  | reversed {front between rest : List String} (isFirst : runStart ∉ front ++ runEnd :: between)
      (isLast : runEnd ∉ between ++ runStart :: rest) :
      Found (front ++ runEnd :: (between ++ runStart :: rest)) (some [])
  | enclosed {before body after : List String} (isFirst : runStart ∉ before)
      (isLast : runEnd ∉ after) :
      Found (before ++ runStart :: (body ++ runEnd :: after)) (some body)

theorem findIdx?_eq_none_of_not_mem {x : String} (absent : x ∉ lines) :
    lines.findIdx? (· = x) = none := by
  refine List.findIdx?_eq_none_iff.mpr fun y member => ?_
  simpa using fun same : y = x => absent (same ▸ member)

theorem findIdx?_append_cons {x : String} (isFirst : x ∉ before) (rest : List String) :
    (before ++ x :: rest).findIdx? (· = x) = some before.length := by
  rw [List.findIdx?_append, findIdx?_eq_none_of_not_mem isFirst, List.findIdx?_cons]
  simp

theorem linesBetween?_eq_none (absent : runStart ∉ lines ∨ runEnd ∉ lines) :
    linesBetween? lines = none := by
  unfold linesBetween?
  rcases absent with noStart | noEnd
  · rw [findIdx?_eq_none_of_not_mem noStart]
  · rw [findIdx?_eq_none_of_not_mem (mt List.mem_reverse.mp noEnd)]
    split
    · contradiction
    · rfl

theorem linesBetween?_eq_some (starts : lines = before ++ runStart :: rest)
    (isFirst : runStart ∉ before) (ends : lines = front ++ runEnd :: after)
    (isLast : runEnd ∉ after) : linesBetween? lines = some (front.drop (before.length + 1)) := by
  have start : lines.findIdx? (· = runStart) = some before.length := by
    rw [starts, findIdx?_append_cons isFirst]
  have fromBack : lines.reverse.findIdx? (· = runEnd) = some after.length := by
    have reversed : lines.reverse = after.reverse ++ runEnd :: front.reverse := by simp [ends]
    rw [reversed, findIdx?_append_cons (mt List.mem_reverse.mp isLast), List.length_reverse]
  have untilEnd : lines.take (lines.length - 1 - after.length) = front := by
    have length_eq : lines.length - 1 - after.length = front.length := by
      rw [ends, List.length_append, List.length_cons]
      omega
    rw [length_eq, ends, List.take_left]
  rw [linesBetween?, start, fromBack]
  dsimp only
  rw [untilEnd]

theorem linesBetween?_of_enclosed (isFirst : runStart ∉ before) (isLast : runEnd ∉ after) :
    linesBetween? (before ++ runStart :: (body ++ runEnd :: after)) = some body := by
  have ends : before ++ runStart :: (body ++ runEnd :: after) =
      (before ++ runStart :: body) ++ runEnd :: after := by simp
  rw [linesBetween?_eq_some rfl isFirst ends isLast, ← List.drop_drop, List.drop_left]
  rfl

/-- A list is cut at the last place where an element is. -/
theorem exists_append_cons_of_mem {x : String} (member : x ∈ lines) :
    ∃ front after, lines = front ++ x :: after ∧ x ∉ after := by
  obtain ⟨back, front, reversed, isLast⟩ :=
    List.eq_append_cons_of_mem (List.mem_reverse.mpr member)
  refine ⟨front.reverse, back.reverse, ?_, mt List.mem_reverse.mp isLast⟩
  rw [← List.reverse_reverse lines, reversed]
  simp

theorem found_linesBetween? (lines : List String) : Found lines (linesBetween? lines) := by
  by_cases starts : runStart ∈ lines
  · by_cases ends : runEnd ∈ lines
    · obtain ⟨before, rest, isStart, isFirst⟩ := List.eq_append_cons_of_mem starts
      obtain ⟨front, after, isEnd, isLast⟩ := exists_append_cons_of_mem ends
      rcases List.append_eq_append_iff.mp (isStart.symm.trans isEnd) with
        ⟨body, rfl, isBody⟩ | ⟨between, rfl, isBetween⟩
      · -- the first start comes before the last end
        cases body with
        | nil => exact absurd (List.cons.inj isBody).1 runStart_ne_runEnd
        | cons start body =>
          obtain rfl : runStart = start := (List.cons.inj isBody).1
          have isRest : rest = body ++ runEnd :: after := (List.cons.inj isBody).2
          rw [isStart, isRest, linesBetween?_of_enclosed isFirst isLast]
          exact .enclosed isFirst isLast
      · -- the last end comes before the first start, so all lines up to it are dropped
        cases between with
        | nil => exact absurd (List.cons.inj isBetween).1.symm runStart_ne_runEnd
        | cons ending between =>
          obtain ⟨rfl, rfl⟩ := List.cons.inj isBetween
          have noLines : front.drop ((front ++ runEnd :: between).length + 1) = [] := by
            refine List.drop_eq_nil_of_le ?_
            rw [List.length_append]
            omega
          rw [linesBetween?_eq_some isStart isFirst isEnd isLast, isEnd, noLines]
          exact .reversed isFirst isLast
    · rw [linesBetween?_eq_none (.inr ends)]
      exact .missing (.inr ends)
  · rw [linesBetween?_eq_none (.inl starts)]
    exact .missing (.inl starts)

/-! ## Blank columns -/

/-- A line without up to four of the columns that it starts with, all of them blank. -/
def Dedented (line shorter : String) : Prop :=
  ∃ blanks ≤ 4, line.toList = List.replicate blanks ' ' ++ shorter.toList

/-- A line whose first four columns are blank, as far as it has so many. -/
def Indented (line : String) : Prop := ∀ c ∈ line.toList.take 4, c = ' '

theorem dedented_dedent_iff : Dedented line (dedent line) ↔ Indented line := by
  have parts : line.toList.take 4 ++ (dedent line).toList = line.toList := by
    rw [dedent, String.toList_ofList, List.take_append_drop]
  constructor
  · rintro ⟨blanks, -, isLine⟩ c member
    have areBlanks := List.append_cancel_right (parts.trans isLine)
    rw [areBlanks] at member
    exact List.eq_of_mem_replicate member
  · intro indented
    refine ⟨(line.toList.take 4).length, List.length_take_le 4 _, ?_⟩
    rw [← List.eq_replicate_of_mem indented, parts]

/-! ## Lines between a start and an end -/

/-- Some lines are between a line `runStart` and a later line `runEnd`. -/
def IsRunBody (lines body : List String) : Prop :=
  ∃ before after, lines = before ++ runStart :: (body ++ runEnd :: after)

/-- No start comes before the first one. -/
theorem length_le_of_first {before' rest' : List String} (isFirst : runStart ∉ before)
    (same : before ++ runStart :: rest = before' ++ runStart :: rest') :
    before.length ≤ before'.length := by
  rcases List.append_eq_append_iff.mp same with ⟨more, rfl, -⟩ | ⟨more, rfl, isRest⟩
  · simp
  · cases more with
    | nil => simp
    | cons start more =>
      obtain ⟨rfl, -⟩ := List.cons.inj isRest
      simp at isFirst

/-- No end comes after the last one. -/
theorem length_le_of_last {front' after' : List String} (isLast : runEnd ∉ after)
    (same : front ++ runEnd :: after = front' ++ runEnd :: after') :
    after.length ≤ after'.length := by
  rcases List.append_eq_append_iff.mp same with ⟨more, rfl, isAfter⟩ | ⟨more, rfl, isAfter⟩
  · cases more with
    | nil => rw [(List.cons.inj isAfter).2]
    | cons ending more =>
      obtain ⟨-, rfl⟩ := List.cons.inj isAfter
      simp at isLast
  · have lengths := congrArg List.length isAfter
    simp only [List.length_append, List.length_cons] at lengths
    omega

/-- The lines between the first start and the last end are the only ones between a start and an end
that are as many. -/
theorem IsRunBody.eq_of_length_eq {body' : List String} (isFirst : runStart ∉ before)
    (isLast : runEnd ∉ after) (sameLength : body'.length = body.length)
    (isRunBody : IsRunBody (before ++ runStart :: (body ++ runEnd :: after)) body') :
    body' = body := by
  obtain ⟨before', after', same⟩ := isRunBody
  have notEarlier := length_le_of_first isFirst same
  have regrouped : (before ++ runStart :: body) ++ runEnd :: after =
      (before' ++ runStart :: body') ++ runEnd :: after' := by simpa using same
  have notLater := length_le_of_last isLast regrouped
  have lengths := congrArg List.length same
  simp only [List.length_append, List.length_cons] at lengths
  have sameStart : before.length = before'.length := by omega
  have sameRest := (List.cons.inj (List.append_inj same sameStart).2).2
  exact (List.append_inj sameRest sameLength.symm).1.symm

/-- If the first start comes after the last end, no lines are between a start and a later end. -/
theorem not_isRunBody_of_reversed {between : List String}
    (isFirst : runStart ∉ front ++ runEnd :: between)
    (isLast : runEnd ∉ between ++ runStart :: rest) :
    ¬ IsRunBody (front ++ runEnd :: (between ++ runStart :: rest)) body := by
  rintro ⟨before', after', same⟩
  have byStart : (front ++ runEnd :: between) ++ runStart :: rest =
      before' ++ runStart :: (body ++ runEnd :: after') := by simpa using same
  have byEnd : front ++ runEnd :: (between ++ runStart :: rest) =
      (before' ++ runStart :: body) ++ runEnd :: after' := by simpa using same
  have notEarlier := length_le_of_first isFirst byStart
  have notLater := length_le_of_last isLast byEnd
  have lengths := congrArg List.length same
  simp only [List.length_append, List.length_cons] at notEarlier notLater lengths
  omega

/-! ## The block that is shown -/

/-- The lines of the source that a text is. -/
def linesOf (text : String) : List String :=
  sourceLines (String.ofList (Text.unifyLineEnds text.toList))

def sourceOf (lines : List String) : String := (String.singleton '\n').intercalate lines

/-- A line without line ends and tabs. -/
def IsPlain (line : String) : Prop :=
  '\n' ∉ line.toList ∧ '\r' ∉ line.toList ∧ '\t' ∉ line.toList
deriving Decidable

/-- A source with some plain lines has these lines. -/
theorem linesOf_sourceOf (nonempty : lines ≠ []) (plain : ∀ line ∈ lines, IsPlain line) :
    linesOf (sourceOf lines) = lines := by
  have free : ∀ c, c ≠ '\n' → (∀ line ∈ lines, c ∉ line.toList) → c ∉ (sourceOf lines).toList := by
    intro c notEnd notInLine member
    rcases Text.mem_intercalate member with isEnd | ⟨line, among, inLine⟩
    · exact notEnd (by simpa using isEnd)
    · exact notInLine line among inLine
  have noReturn := free '\r' (by decide) fun line among => (plain line among).2.1
  have noTab := free '\t' (by decide) fun line among => (plain line among).2.2
  rw [linesOf, Text.unifyLineEnds_of_not_mem noReturn, String.ofList_toList, sourceLines,
    Text.replaceChar_of_not_mem noTab, String.ofList_toList, sourceOf]
  exact Text.split_intercalate nonempty fun line among => (plain line among).1

def blockOf (shown : List String) : List String :=
  ["```ts title=\"sst.config.ts\""] ++ shown ++ ["```"]

theorem blockOf_injective : Function.Injective blockOf := fun _ _ same =>
  List.append_cancel_left (List.append_cancel_right same)

theorem runFunctionOf_eq (path : FilePath) (text : String) :
    runFunctionOf path (.ok text) =
      match linesBetween? (linesOf text) with
      | none => .error (.runFunctionMissing path)
      | some body => .ok (blockOf (body.map dedent)) := by
  rw [runFunctionOf, runFunction?, linesOf]
  cases linesBetween? (sourceLines (String.ofList (Text.unifyLineEnds text.toList))) <;> rfl

/-- A block that shows the body of a `run` function in some lines, each line dedented. -/
def ShowsRun (lines block : List String) : Prop :=
  ∃ body shorter, IsRunBody lines body ∧ List.Forall₂ Dedented body shorter ∧
    block = blockOf shorter

/-- What should come of the source at a path with some lines: a block that shows a `run` function or
the fault that there is none, and this fault if there is none. -/
structure Documented (path : FilePath) (lines : List String)
    (result : Except Fault (List String)) : Prop where
  showsOrFails : (∃ block, result = .ok block ∧ ShowsRun lines block) ∨
    result = .error (.runFunctionMissing path)
  fails : (¬ ∃ body, IsRunBody lines body) → result = .error (.runFunctionMissing path)

/-- Lines that are what is between the first start and the last end, all of them indented. -/
def EnclosesIndented (lines : List String) : Prop :=
  ∃ before body after, lines = before ++ runStart :: (body ++ runEnd :: after) ∧
    runStart ∉ before ∧ runEnd ∉ after ∧ ∀ line ∈ body, Indented line

theorem forall₂_dedent_iff :
    List.Forall₂ Dedented body (body.map dedent) ↔ ∀ line ∈ body, Indented line := by
  rw [List.forall₂_map_right_iff, List.forall₂_same]
  simp only [dedented_dedent_iff]

theorem not_documented_of_reversed {path : FilePath} {between block : List String}
    (isFirst : runStart ∉ front ++ runEnd :: between)
    (isLast : runEnd ∉ between ++ runStart :: rest) :
    ¬ Documented path (front ++ runEnd :: (between ++ runStart :: rest)) (.ok block) := by
  intro documented
  rcases documented.showsOrFails with ⟨_, -, body, -, isRunBody, -⟩ | failed
  · exact not_isRunBody_of_reversed isFirst isLast isRunBody
  · cases failed

theorem documented_iff_of_enclosed {path : FilePath} (isFirst : runStart ∉ before)
    (isLast : runEnd ∉ after) :
    Documented path (before ++ runStart :: (body ++ runEnd :: after))
      (.ok (blockOf (body.map dedent))) ↔ ∀ line ∈ body, Indented line := by
  rw [← forall₂_dedent_iff]
  constructor
  · intro documented
    rcases documented.showsOrFails with ⟨block, isBlock, body', shorter, isRunBody, areDedented,
      rfl⟩ | failed
    · obtain rfl : body.map dedent = shorter := blockOf_injective (Except.ok.inj isBlock)
      -- as many lines are shown as there are between the two, so these are the lines that are shown
      have sameLength := areDedented.length_eq
      rw [List.length_map] at sameLength
      obtain rfl := isRunBody.eq_of_length_eq isFirst isLast sameLength
      exact areDedented
    · cases failed
  · intro areDedented
    have isRunBody : IsRunBody (before ++ runStart :: (body ++ runEnd :: after)) body :=
      ⟨before, after, rfl⟩
    exact ⟨.inl ⟨_, rfl, body, _, isRunBody, areDedented, rfl⟩,
      fun noBody => absurd ⟨body, isRunBody⟩ noBody⟩

/-- For every text of a source, what comes of it is as it should be if and only if it lacks a line
that starts a `run` function or a line that ends a member, or if the first such start comes before
the last such end and all lines between them are blank in their first four columns. -/
theorem documented_runFunctionOf_iff (path : FilePath) (text : String) :
    Documented path (linesOf text) (runFunctionOf path (.ok text)) ↔
      (runStart ∉ linesOf text ∨ runEnd ∉ linesOf text) ∨ EnclosesIndented (linesOf text) := by
  rw [runFunctionOf_eq]
  generalize linesOf text = lines
  constructor
  · intro documented
    have found := found_linesBetween? lines
    generalize linesBetween? lines = found? at found documented
    cases found with
    | missing absent => exact .inl absent
    | reversed isFirst isLast => exact absurd documented (not_documented_of_reversed isFirst isLast)
    | enclosed isFirst isLast =>
      exact .inr ⟨_, _, _, rfl, isFirst, isLast,
        (documented_iff_of_enclosed isFirst isLast).mp documented⟩
  · rintro (absent | ⟨before, body, after, rfl, isFirst, isLast, indented⟩)
    · rw [linesBetween?_eq_none absent]
      exact ⟨.inr rfl, fun _ => rfl⟩
    · rw [linesBetween?_of_enclosed isFirst isLast]
      exact (documented_iff_of_enclosed isFirst isLast).mpr indented

/-- The lines of a source whose only end of a member comes before its `run` function. -/
def openLines : List String :=
  ["export default $config(\x7b", "  app() \x7b", "  \x7d,", "  async run() \x7b", "    start();",
    "  \x7d", "\x7d);"]

/-- The lines of a source with a text of several lines in its `run` function. -/
def pageLines : List String :=
  ["export default $config(\x7b", "  async run() \x7b", "    page = `", "hello", "`;", "  \x7d,",
    "\x7d);"]

/-- Of the one source an empty block is shown, and of the other a line that is cut off. -/
theorem empty_and_cut_runs_not_documented :
    (∀ path, runFunctionOf path (.ok (sourceOf openLines)) = .ok (blockOf []) ∧
      ¬ Documented path (linesOf (sourceOf openLines))
        (runFunctionOf path (.ok (sourceOf openLines)))) ∧
    ∀ path, runFunctionOf path (.ok (sourceOf pageLines)) = .ok (blockOf ["page = `", "o", ""]) ∧
      ¬ Documented path (linesOf (sourceOf pageLines))
        (runFunctionOf path (.ok (sourceOf pageLines))) := by
  have ofOpen : linesOf (sourceOf openLines) = openLines :=
    linesOf_sourceOf (List.cons_ne_nil _ _) (by decide +kernel)
  have ofPage : linesOf (sourceOf pageLines) = pageLines :=
    linesOf_sourceOf (List.cons_ne_nil _ _) (by decide +kernel)
  constructor
  · intro path
    have shown : runFunctionOf path (.ok (sourceOf openLines)) = .ok (blockOf []) := by
      rw [runFunctionOf_eq, ofOpen]
      rfl
    have isReversed : openLines = ["export default $config(\x7b", "  app() \x7b"] ++
        runEnd :: ([] ++ runStart :: ["    start();", "  \x7d", "\x7d);"]) := rfl
    refine ⟨shown, ?_⟩
    rw [shown, ofOpen, isReversed]
    exact not_documented_of_reversed (by decide +kernel) (by decide +kernel)
  · intro path
    have shown : runFunctionOf path (.ok (sourceOf pageLines)) =
        .ok (blockOf ["page = `", "o", ""]) := by
      rw [runFunctionOf_eq, ofPage]
      rfl
    have isEnclosed : pageLines = ["export default $config(\x7b"] ++
        runStart :: (["    page = `", "hello", "`;"] ++ runEnd :: ["\x7d);"]) := rfl
    refine ⟨shown, fun documented => ?_⟩
    rw [shown, ofPage, isEnclosed] at documented
    have indented := (documented_iff_of_enclosed (by decide +kernel) (by decide +kernel)).mp
      documented "hello" (by simp)
    exact absurd (indented 'h' (by decide)) (by decide)

end DocPress.Example
