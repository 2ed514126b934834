/-! # A place in a YAML text

A cursor holds the rest of a text, with the number of the next character, its line and its column,
and moves forward one character at a time.

Lines and columns are counted by line feeds alone. The next-line character and the two separators of
Unicode end a line where scalars and gaps are read; the separators are no gap between words and do
not end a comment. A byte order mark takes no column. -/

set_option autoImplicit false

namespace DocPress.Yaml

/-- Whether a character ends the line of a comment. -/
def endsComment (c : Char) : Bool := c = '\n' || c = '\r' || c = '\x85'

def isBreak (c : Char) : Bool := endsComment c || c = '\u2028' || c = '\u2029'

def isSpace (c : Char) : Bool := c = ' ' || c = '\t'

/-- Whether a character parts words. -/
def isGap (c : Char) : Bool := isSpace c || endsComment c

/-- What a line end stands for in a scalar. -/
def breakValue (c : Char) : Char := if c = '\u2028' ∨ c = '\u2029' then c else '\n'

def isAllowed (c : Char) : Bool :=
  let n := c.toNat
  n = 9 || n = 10 || n = 13 || (decide (0x20 ≤ n) && decide (n ≤ 0x7E)) || n = 0x85
    || (decide (0xA0 ≤ n) && decide (n ≤ 0xFFFD)) || decide (0x10000 ≤ n)

structure Cursor where
  rest : List Char
  index : Nat
  line : Nat
  column : Nat

namespace Cursor

def start (text : List Char) : Cursor := ⟨text, 0, 0, 0⟩

def peek (c : Cursor) (n : Nat) : Option Char := c.rest[n]?

def looksAt (c : Cursor) (n : Nat) (p : Char → Bool) : Bool := (c.peek n).any p

def isAt (c : Cursor) (n : Nat) (x : Char) : Bool := c.peek n = some x

/-- Whether a gap or the end of the text is `n` places ahead. -/
def isGapAt (c : Cursor) (n : Nat) : Bool := (c.peek n).all isGap

def endsAt (c : Cursor) (p : Char → Bool) : Bool := (c.peek 0).all p

def next (c : Cursor) : Cursor :=
  match c.rest with
  | [] => c
  | x :: rest =>
    if x = '\n' then ⟨rest, c.index + 1, c.line + 1, 0⟩
    else ⟨rest, c.index + 1, c.line, if x = '\ufeff' then c.column else c.column + 1⟩

def skip (c : Cursor) : Nat → Cursor
  | 0 => c
  | n + 1 => c.next.skip n

def skipWhile (c : Cursor) (p : Char → Bool) : Cursor := c.skip (c.rest.takeWhile p).length

def skipComment (c : Cursor) : Cursor :=
  if c.isAt 0 '#' then c.skipWhile fun x => !endsComment x else c

/-- Whether a document marker is next, wherever it stands. -/
def looksAtMarker (c : Cursor) : Bool :=
  c.isGapAt 3 && (c.rest.take 3 = ['-', '-', '-'] || c.rest.take 3 = ['.', '.', '.'])

def atMarker (c : Cursor) : Bool := c.column = 0 && c.looksAtMarker

end Cursor

end DocPress.Yaml
