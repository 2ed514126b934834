import DocPress.Proofs.EscapedTexts
import DocPress.Proofs.FragmentTexts

/-! # Braces in fragments

A brace in a page starts an expression, unless a backslash stands right before it. All texts that
the program puts into fragments have their braces escaped, with one exception: the text of a string
literal has only its markdown marks escaped.

* `BracesEscaped`: the texts all of whose braces are escaped.
* `TypeExpr.bracesEscaped_render_iff`: a fragment is such a text if and only if the texts of the
  string literals that it shows are. -/

set_option autoImplicit false

namespace DocPress

open Text (isBrace isMarkdownMark escape)

/-! ## Escaped braces -/

/-- A text in which a backslash stands right before each brace. -/
def BracesEscaped (s : String) : Prop :=
  ∀ before c after, s.toList = before ++ c :: after → isBrace c = true →
    before.getLast? = some '\\'

def BraceFree (s : String) : Prop := ∀ c ∈ s.toList, isBrace c = false

instance (s : String) : Decidable (BraceFree s) :=
  List.decidableBAll (isBrace · = false) s.toList

theorem isBrace_eq_false {c : Char} (isPlain : IsPlainChar c) : isBrace c = false := by
  simp [isBrace, isPlain.2]

/-- Whether the braces of a text are escaped that follows the character `last`. -/
def escapedAfter : (last : Option Char) → List Char → Bool
  | _, [] => true
  | last, c :: cs => (!isBrace c || decide (last = some '\\')) && escapedAfter (some c) cs

theorem getLast?_cons_or {c : Char} {cs : List Char} {last : Option Char} :
    (c :: cs).getLast?.or last = cs.getLast?.or (some c) := by
  simp [List.getLast?_cons]

theorem escapedAfter_iff {last : Option Char} {cs : List Char} : escapedAfter last cs = true ↔
    ∀ before c after, cs = before ++ c :: after → isBrace c = true →
      before.getLast?.or last = some '\\' := by
  induction cs generalizing last with
  | nil => simp [escapedAfter]
  | cons d cs inductionHypothesis =>
    rw [escapedAfter, Bool.and_eq_true, inductionHypothesis]
    constructor
    · rintro ⟨first, others⟩ before c after split brace
      cases before with
      | nil =>
        cases split
        simpa [brace] using first
      | cons e before =>
        cases split
        rw [getLast?_cons_or]
        exact others before c after rfl brace
    · intro each
      constructor
      · cases brace : isBrace d with
        | false => rfl
        | true => simpa using each [] d cs rfl brace
      · intro before c after split brace
        rw [← getLast?_cons_or]
        exact each (d :: before) c after (by rw [split, List.cons_append]) brace

theorem bracesEscaped_iff {s : String} : BracesEscaped s ↔ escapedAfter none s.toList = true := by
  rw [escapedAfter_iff]
  simp only [Option.or_none]
  rfl

instance (s : String) : Decidable (BracesEscaped s) := decidable_of_iff' _ bracesEscaped_iff

theorem escapedAfter_append (last : Option Char) (cs cs' : List Char) :
    escapedAfter last (cs ++ cs') =
      (escapedAfter last cs && escapedAfter (cs.getLast?.or last) cs') := by
  induction cs generalizing last with
  | nil => rfl
  | cons c cs inductionHypothesis =>
    rw [List.cons_append, escapedAfter, inductionHypothesis, escapedAfter, getLast?_cons_or,
      Bool.and_assoc]

/-- Behind another character than a backslash, the braces of a text are escaped if they are without
anything in front of it. -/
theorem escapedAfter_some {last : Char} (other : last ≠ '\\') (cs : List Char) :
    escapedAfter (some last) cs = escapedAfter none cs := by
  cases cs with
  | nil => rfl
  | cons c cs => simp [escapedAfter, other]

theorem escapedAfter_of_none (last : Option Char) {cs : List Char}
    (escaped : escapedAfter none cs = true) : escapedAfter last cs = true := by
  cases cs with
  | nil => rfl
  | cons c cs =>
    simp only [escapedAfter, reduceCtorEq, decide_false, Bool.or_false, Bool.and_eq_true] at escaped
    simp [escapedAfter, escaped]

theorem BraceFree.bracesEscaped {s : String} (free : BraceFree s) : BracesEscaped s := by
  intro before c after split brace
  have member : c ∈ s.toList := by simp [split]
  rw [free c member] at brace
  cases brace

theorem BracesEscaped.append {s s' : String} (first : BracesEscaped s)
    (second : BracesEscaped s') : BracesEscaped (s ++ s') := by
  rw [bracesEscaped_iff] at first second ⊢
  rw [String.toList_append, escapedAfter_append, first, escapedAfter_of_none _ second]
  rfl

/-- What stands in a text behind another character than a backslash. -/
theorem BracesEscaped.inside {before s after : String} {last : Char}
    (escaped : BracesEscaped (before ++ s ++ after)) (isLast : before.toList.getLast? = some last)
    (other : last ≠ '\\') : BracesEscaped s := by
  rw [bracesEscaped_iff] at escaped ⊢
  simp only [String.toList_append, escapedAfter_append, isLast, Bool.and_eq_true] at escaped
  obtain ⟨⟨-, inside⟩, -⟩ := escaped
  rwa [Option.or_none, escapedAfter_some other] at inside

/-! ## Escaping -/

theorem bracesEscaped_escapeBraces (s : String) : BracesEscaped (Text.escapeBraces s) := by
  intro before c after split brace
  rw [Text.escapeBraces, String.toList_ofList] at split
  exact Text.getLast?_of_escape (by decide) split brace

/-- Escaping the markdown marks of a text puts nothing in front of a brace. -/
theorem escapedAfter_escape_isMarkdownMark (last : Option Char) (cs : List Char) :
    escapedAfter last (escape isMarkdownMark cs) = escapedAfter last cs := by
  induction cs generalizing last with
  | nil => rfl
  | cons c cs inductionHypothesis =>
    have others := inductionHypothesis (some c)
    rw [escape] at others ⊢
    rw [List.flatMap_cons]
    cases mark : isMarkdownMark c with
    | true =>
      have backslash : isBrace '\\' = false := by decide
      have noBrace : isBrace c = false := by
        simp only [isMarkdownMark, Bool.or_eq_true, decide_eq_true_eq] at mark
        cases mark with
        | inl isStar => rw [isStar]; decide
        | inr isColon => rw [isColon]; decide
      simp [escapedAfter, noBrace, backslash, others]
    | false => simp [escapedAfter, others]

theorem bracesEscaped_escapeMarkdown_iff (s : String) :
    BracesEscaped (Text.escapeMarkdown s) ↔ BracesEscaped s := by
  rw [bracesEscaped_iff, bracesEscaped_iff, Text.escapeMarkdown, String.toList_ofList,
    escapedAfter_escape_isMarkdownMark]

/-! ## Fragments -/

theorem framed_bracesEscaped : Framed BracesEscaped where
  plain isPlain := BraceFree.bracesEscaped fun c member => isBrace_eq_false (isPlain c member)
  append := BracesEscaped.append
  code isStyle inside := by
    have styles : ∀ style ∈ Markup.styles, BraceFree ("<code class=\"" ++ style ++ "\">") := by
      decide
    have tag := (styles _ isStyle).bracesEscaped
    exact (tag.append inside).append (by decide)
  opening := by decide
  closing := by decide

namespace TypeExpr

variable {unit : DocUnit} {unwrap : Bool} {t : TypeExpr} {shown : String}

theorem Puts.bracesEscaped {text : String} (puts : t.Puts unit text)
    (names : ∀ text, t.Names unit text → BraceFree text)
    (literals : ∀ s, t = .literal (.text s) → BracesEscaped s) : BracesEscaped text := by
  cases puts with
  | name named => exact (names _ named).bracesEscaped
  | literal => exact (bracesEscaped_escapeMarkdown_iff _).mpr (literals _ rfl)
  | head | tail => exact bracesEscaped_escapeBraces _

/-- The text of a string literal stands behind a code tag, so a brace at its start is not
escaped. -/
theorem bracesEscaped_of_literal {s before after : String}
    (escaped : BracesEscaped (before ++ literalFragment (.text s) ++ after)) : BracesEscaped s := by
  have split (quote opening text closing unquote : String) :
      before ++ (quote ++ (opening ++ text ++ closing) ++ unquote) ++ after =
        (before ++ quote ++ opening) ++ text ++ (closing ++ unquote ++ after) := by
    simp only [String.append_assoc]
  -- what stands before the text ends with the `>` of a tag
  unfold literalFragment Markup.quoted Markup.code at escaped
  rw [split] at escaped
  rw [← bracesEscaped_escapeMarkdown_iff]
  apply escaped.inside _ (show '>' ≠ '\\' by decide)
  rw [String.toList_append, List.getLast?_append]
  rfl

/-- Where names and addresses have no braces, the braces of a fragment are escaped if and only if
those in the texts of all string literals that it shows are: the braces of template texts are
escaped in any case. -/
theorem bracesEscaped_render_iff (rendered : t.render unit unwrap = .ok shown)
    (names : ∀ s text, t.Rendered s → s.Names unit text → BraceFree text) :
    BracesEscaped shown ↔ ∀ text, t.Rendered (.literal (.text text)) → BracesEscaped text := by
  constructor
  · intro escaped text shows
    obtain ⟨inner, ofLiteral, before, after, rfl⟩ := shows.within rendered
    cases ofLiteral
    exact bracesEscaped_of_literal escaped
  · intro literals
    apply framed_render framed_bracesEscaped rendered
    intro s text shows puts
    apply puts.bracesEscaped fun text => names s text shows
    rintro text' rfl
    exact literals text' shows

/-- A literal text, or a template text with braces around the hole. -/
def bracedTexts : TypeExpr :=
  .union [.literal (.text "*"),
    .template (.text "\x7b") [(.primitive (.text "string"), .text "\x7d")]]

theorem bracesEscaped_render_iff_bracedTexts :
    ∃ shown, bracedTexts.render settingsUnit false = .ok shown ∧
      (∀ s text, bracedTexts.Rendered s → s.Names settingsUnit text → BraceFree text) ∧
      (BracesEscaped shown ↔
        ∀ text, bracedTexts.Rendered (.literal (.text text)) → BracesEscaped text) := by
  have rendered : ∃ shown, bracedTexts.render settingsUnit false = .ok shown := ⟨_, rfl⟩
  have names : ∀ s text, bracedTexts.Rendered s → s.Names settingsUnit text → BraceFree text := by
    intro s text shows named
    rcases Relation.ReflTransGen.cases_head shows with rfl | ⟨_, ⟨isMember⟩, shows⟩
    · cases named
    · simp only [List.mem_cons, List.not_mem_nil, or_false] at isMember
      rcases isMember with rfl | rfl
      · rcases Relation.ReflTransGen.cases_head shows with rfl | ⟨_, ⟨⟩, -⟩
        cases named
      · rcases Relation.ReflTransGen.cases_head shows with rfl | ⟨_, ⟨⟩, -⟩
        cases named
        decide
  obtain ⟨shown, rendered⟩ := rendered
  exact ⟨shown, rendered, names, bracesEscaped_render_iff rendered names⟩

/-- The braces of a string literal stand in the fragment as they are. -/
theorem literal_braces_not_escaped :
    ¬ ∀ (unit : DocUnit) (unwrap : Bool) (t : TypeExpr) (shown : String),
      t.render unit unwrap = .ok shown →
      (∀ s text, t.Rendered s → s.Names unit text → BraceFree text) → BracesEscaped shown := by
  intro each
  have names : ∀ s text, (TypeExpr.literal (.text "\x7ba\x7d")).Rendered s →
      s.Names settingsUnit text → BraceFree text := by
    intro s text shows named
    rcases Relation.ReflTransGen.cases_head shows with rfl | ⟨_, ⟨⟩, -⟩
    cases named
  have escaped := each settingsUnit false _ _ rfl names
  have notEscaped : ¬ BracesEscaped (literalFragment (.text "\x7ba\x7d")) := by decide
  exact notEscaped escaped

end TypeExpr

end DocPress
