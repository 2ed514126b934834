import DocPress.TypeExpr.Render

/-! # Escaped texts can be read back

Escaping puts one backslash before each marked character. A text may hold backslashes of its own,
also before marked characters, and it can be told from its escaped form all the same: the backslash
that was put in is always the last one before the character.

* `Text.unescape`: a text without the last backslash before each marked character.
* `Text.Escapes`: the escaped forms of a text.
* `TypeExpr.quotedTemplate_eq`: the fragment of a template text quotes the whole text, escaped.
* `TypeExpr.escapes_of_quoted`: what string literals and template texts put between quotes. -/

set_option autoImplicit false

namespace DocPress

namespace Text

variable {isMarked : Char → Bool}

/-- A text without the backslashes that stand right before marked characters. -/
def unescape (isMarked : Char → Bool) : List Char → List Char
  | [] => []
  | c :: cs =>
    if c = '\\' ∧ cs.head?.any isMarked then unescape isMarked cs else c :: unescape isMarked cs

/-- A text with a backslash right before each marked character, which is another text where these
backslashes are taken away. -/
structure Escapes (isMarked : Char → Bool) (text original : String) : Prop where
  marked : ∀ before c after, text.toList = before ++ c :: after → isMarked c = true →
    before.getLast? = some '\\'
  unescaped : unescape isMarked text.toList = original.toList

/-- No text has two originals. -/
theorem Escapes.original_unique {text original original' : String}
    (first : Escapes isMarked text original) (second : Escapes isMarked text original') :
    original = original' :=
  String.toList_inj.mp (first.unescaped.symm.trans second.unescaped)

/-! ## Escaping -/

theorem escape_cons (c : Char) (cs : List Char) :
    escape isMarked (c :: cs) = (if isMarked c then ['\\', c] else [c]) ++ escape isMarked cs :=
  List.flatMap_cons

theorem escape_append (cs cs' : List Char) :
    escape isMarked (cs ++ cs') = escape isMarked cs ++ escape isMarked cs' :=
  List.flatMap_append

theorem escape_eq_self {cs : List Char} (free : ∀ c ∈ cs, isMarked c = false) :
    escape isMarked cs = cs := by
  induction cs with
  | nil => rfl
  | cons c cs inductionHypothesis =>
    obtain ⟨unmarked, free⟩ := List.forall_mem_cons.mp free
    rw [escape_cons, inductionHypothesis free]
    simp [unmarked]

/-- An escaped text does not begin with a marked character. -/
theorem head?_escape (backslash : isMarked '\\' = false) (cs : List Char) :
    (escape isMarked cs).head?.any isMarked = false := by
  cases cs with
  | nil => rfl
  | cons c cs =>
    rw [escape_cons]
    cases marked : isMarked c with
    | true => simp [backslash]
    | false => simp [marked]

theorem unescape_escape (backslash : isMarked '\\' = false) (cs : List Char) :
    unescape isMarked (escape isMarked cs) = cs := by
  induction cs with
  | nil => rfl
  | cons c cs inductionHypothesis =>
    rw [escape_cons]
    cases marked : isMarked c with
    | true =>
      have notBackslash : c ≠ '\\' := by
        rintro rfl
        rw [backslash] at marked
        cases marked
      simp [unescape, marked, notBackslash, inductionHypothesis]
    | false =>
      -- a backslash of the text itself is never followed by a marked character
      simp [unescape, head?_escape backslash, inductionHypothesis]

theorem getLast?_of_escape (backslash : isMarked '\\' = false) {cs before after : List Char}
    {c : Char} (split : escape isMarked cs = before ++ c :: after) (marked : isMarked c = true) :
    before.getLast? = some '\\' := by
  induction cs generalizing before with
  | nil => simp [escape] at split
  | cons d cs inductionHypothesis =>
    rw [escape_cons] at split
    cases dMarked : isMarked d with
    | true =>
      simp only [dMarked, ↓reduceIte, List.cons_append, List.nil_append] at split
      match before with
      | [] =>
        cases split
        rw [backslash] at marked
        cases marked
      | [b] =>
        cases split
        rfl
      | b :: b' :: before =>
        simp only [List.cons_append, List.cons.injEq] at split
        have isLast := inductionHypothesis split.2.2
        rw [List.getLast?_cons_cons, List.getLast?_cons, isLast]
        rfl
    | false =>
      simp only [dMarked, Bool.false_eq_true, ↓reduceIte, List.cons_append, List.nil_append]
        at split
      match before with
      | [] =>
        cases split
        rw [dMarked] at marked
        cases marked
      | b :: before =>
        simp only [List.cons_append, List.cons.injEq] at split
        have isLast := inductionHypothesis split.2
        rw [List.getLast?_cons, isLast]
        rfl

theorem escapes_escape (backslash : isMarked '\\' = false) (s : String) :
    Escapes isMarked (String.ofList (escape isMarked s.toList)) s where
  marked := by
    intro before c after split marked
    rw [String.toList_ofList] at split
    exact getLast?_of_escape backslash split marked
  unescaped := by rw [String.toList_ofList, unescape_escape backslash]

theorem isMarkdownMark_eq : isMarkdownMark = ['*', ':'].contains := by
  funext c
  simp [isMarkdownMark]

theorem isBrace_eq : isBrace = ['\x7b', '\x7d'].contains := by
  funext c
  simp [isBrace]

theorem escapes_escapeMarkdown (s : String) : Escapes ['*', ':'].contains (escapeMarkdown s) s :=
  isMarkdownMark_eq ▸ escapes_escape (by decide) s

theorem escapes_escapeBraces (s : String) :
    Escapes ['\x7b', '\x7d'].contains (escapeBraces s) s :=
  isBrace_eq ▸ escapes_escape (by decide) s

theorem escapeBraces_append (s s' : String) :
    escapeBraces (s ++ s') = escapeBraces s ++ escapeBraces s' := by
  simp only [escapeBraces, String.toList_append, escape_append, String.ofList_append]

theorem escapeBraces_eq_self {s : String} (noOpening : '\x7b' ∉ s.toList)
    (noClosing : '\x7d' ∉ s.toList) : escapeBraces s = s := by
  have free : ∀ c ∈ s.toList, isBrace c = false := by
    intro c member
    have notOpening : c ≠ '\x7b' := fun isOpening => noOpening (isOpening ▸ member)
    have notClosing : c ≠ '\x7d' := fun isClosing => noClosing (isClosing ▸ member)
    simp [isBrace, notOpening, notClosing]
  rw [escapeBraces, escape_eq_self free, String.ofList_toList]

end Text

open Text (Escapes escapeBraces escapeMarkdown)

theorem Markup.quoted_injective : Function.Injective Markup.quoted := by
  intro s s' same
  unfold Markup.quoted Markup.code at same
  simpa [String.append_assoc] using same

namespace TypeExpr

/-- The text that a template text shows for a hole with no braces in its name: the parts around the
hole, and the name of the hole in braces after a dollar sign. -/
theorem quotedTemplate_eq {hole : String} (noOpening : '\x7b' ∉ hole.toList)
    (noClosing : '\x7d' ∉ hole.toList) (head tail : String) :
    quotedTemplate head hole tail =
      Markup.quoted (escapeBraces (head ++ "$\x7b" ++ hole ++ "\x7d" ++ tail)) := by
  have opening : escapeBraces "$\x7b" = "$\\\x7b" := by decide
  have closing : escapeBraces "\x7d" = "\\\x7d" := by decide
  rw [quotedTemplate]
  simp only [Text.escapeBraces_append, Text.escapeBraces_eq_self noOpening noClosing, opening,
    closing]

/-- The text that a string literal puts between quotes is the literal with each asterisk and each
colon escaped, and the text of a template is the head, the hole in braces and the tail with each
brace escaped, where the name of the hole has no braces: the original is what is left where the
backslash before each such character is taken away. So two string literals are never shown alike. -/
theorem escapes_of_quoted (unit : DocUnit) (unwrap : Bool) :
    (∀ s, ∃ text, (literal (.text s)).render unit unwrap = .ok (Markup.quoted text) ∧
      Escapes ['*', ':'].contains text s) ∧
    (∀ head hole tail, '\x7b' ∉ hole.toList → '\x7d' ∉ hole.toList → ∃ text,
      (template (.text head) [(.primitive (.text hole), .text tail)]).render unit unwrap =
        .ok (Markup.quoted text) ∧
      Escapes ['\x7b', '\x7d'].contains text (head ++ "$\x7b" ++ hole ++ "\x7d" ++ tail)) ∧
    ∀ s s', (literal (.text s)).render unit unwrap = (literal (.text s')).render unit unwrap →
      s = s' := by
  have ofLiteral (s : String) :
      (literal (.text s)).render unit unwrap = .ok (Markup.quoted (escapeMarkdown s)) := by
    rw [render]
    rfl
  refine ⟨fun s => ⟨_, ofLiteral s, Text.escapes_escapeMarkdown s⟩, ?_, ?_⟩
  · intro head hole tail noOpening noClosing
    refine ⟨_, ?_, Text.escapes_escapeBraces _⟩
    rw [← quotedTemplate_eq noOpening noClosing]
    rfl
  · intro s s' same
    rw [ofLiteral, ofLiteral, Except.ok.injEq] at same
    have sameText := Markup.quoted_injective same
    have sameEscapes := Text.escapes_escapeMarkdown s'
    rw [← sameText] at sameEscapes
    exact (Text.escapes_escapeMarkdown s).original_unique sameEscapes

/-- A literal with a backslash before an asterisk, and a template with one before a brace. -/
theorem escapes_of_quoted_backslash :
    (∃ text, (literal (.text "\\*")).render ⟨.text "unit", [], none, none⟩ false =
      .ok (Markup.quoted text) ∧ Escapes ['*', ':'].contains text "\\*") ∧
    ('\x7b' ∉ "string".toList ∧ '\x7d' ∉ "string".toList) ∧
    ∃ text, (template (.text "\\\x7b") [(.primitive (.text "string"), .text "\x7d")]).render
        ⟨.text "unit", [], none, none⟩ false = .ok (Markup.quoted text) ∧
      Escapes ['\x7b', '\x7d'].contains text "\\\x7b$\x7bstring\x7d\x7d" := by
  have noBraces : '\x7b' ∉ "string".toList ∧ '\x7d' ∉ "string".toList := by decide
  obtain ⟨ofLiteral, ofTemplate, -⟩ := escapes_of_quoted ⟨.text "unit", [], none, none⟩ false
  exact ⟨ofLiteral "\\*", noBraces,
    ofTemplate "\\\x7b" "string" "\x7d" noBraces.1 noBraces.2⟩

end TypeExpr

end DocPress
