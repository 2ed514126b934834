/-! # Escaping with a backslash

Marked characters get a backslash put before them; nothing else changes. -/

set_option autoImplicit false

namespace DocPress.Text

/-- A text with a backslash before each marked character. -/
def escape (isMarked : Char → Bool) (cs : List Char) : List Char :=
  cs.flatMap fun c => if isMarked c then ['\\', c] else [c]

/-- The characters that would start emphasis or a directive in markdown. -/
def isMarkdownMark (c : Char) : Bool := decide (c = '*') || decide (c = ':')

/-- The braces, which would start an expression in a page. -/
def isBrace (c : Char) : Bool := decide (c = '\x7b') || decide (c = '\x7d')

def escapeMarkdown (s : String) : String := String.ofList (escape isMarkdownMark s.toList)

def escapeBraces (s : String) : String := String.ofList (escape isBrace s.toList)

end DocPress.Text
