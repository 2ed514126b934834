import DocPress.Json.Parser
import DocPress.Yaml.Cursor
import DocPress.Yaml.Fault
import DocPress.Yaml.Tag

/-! # Reading YAML scalars

Scalars are plain, between single or double quotes, or blocks of lines. In all but literal blocks a
single line end between two parts of the text becomes a space, and of several the first is dropped;
the two separators of Unicode are kept.

Every reader gives the text of the scalar and the cursor after it, or what is wrong with it. -/

set_option autoImplicit false

namespace DocPress.Yaml

namespace Scalar

/-! ## Gaps -/

/-- Reads the line ends after the first one between two parts of a scalar, with the characters of a
property around them; `acc` holds what they stand for, in reverse. Stops at a document marker, and
says whether there is one. -/
def readBreaks (isFiller : Char → Bool) : (fuel : Nat) → (acc : List Char) → Cursor →
    List Char × Bool × Cursor
  | 0, acc, c => (acc, false, c)
  | fuel + 1, acc, c =>
    if c.looksAtMarker then (acc, true, c)
    else
      let c := c.skipWhile isFiller
      match c.peek 0 with
      | some x =>
        if isBreak x then readBreaks isFiller fuel (breakValue x :: acc) c.next else (acc, false, c)
      | none => (acc, false, c)

/-- What the line ends between two parts of a scalar stand for, in reverse: the first of them, and
the others, which are in reverse. -/
def joint (first : Char) (others : List Char) : List Char :=
  if breakValue first = '\n' then (if others.isEmpty then [' '] else others)
  else others ++ [breakValue first]

/-! ## Quoted scalars -/

def escapeValue? : Char → Option Char
  | '0' => some '\x00'
  | 'a' => some '\x07'
  | 'b' => some '\x08'
  | 't' => some '\t'
  | '\t' => some '\t'
  | 'n' => some '\n'
  | 'v' => some '\x0b'
  | 'f' => some '\x0c'
  | 'r' => some '\r'
  | 'e' => some '\x1b'
  | ' ' => some ' '
  | '"' => some '"'
  | '/' => some '/'
  | '\\' => some '\\'
  | 'N' => some '\x85'
  | '_' => some '\xa0'
  | 'L' => some '\u2028'
  | 'P' => some '\u2029'
  | _ => none

def escapeWidth? : Char → Option Nat
  | 'x' => some 2
  | 'u' => some 4
  | 'U' => some 8
  | _ => none

def hexNumber? (cs : List Char) : Option Nat :=
  cs.foldl (fun n c => n.bind fun n => (Json.hexValue? c).map (16 * n + ·)) (some 0)

/-- The second half of a surrogate pair, if its escape is next. -/
def lowHalf? (c : Cursor) : Option Nat :=
  match c.rest with
  | '\\' :: 'u' :: rest =>
    if (rest.take 4).length = 4 then (hexNumber? (rest.take 4)).filter Json.isLowHalf else none
  | _ => none

/-- Reads the code of an escape: `width` hexadecimal digits. Two codes that are the halves of a
surrogate pair are read as one character, and the replacement character stands for a half that is
alone. -/
def readCode (width : Nat) (c : Cursor) : Except Fault (Char × Cursor) :=
  let digits := c.rest.take width
  match hexNumber? digits with
  | none => .error .malformed
  | some n =>
    let c := c.skip width
    if digits.length < width then .error .malformed
    else if 0x80000000 ≤ n then .error .escapeTooLarge
    else if 0x110000 ≤ n then .error .characterUnknown
    else if n.isValidChar then .ok (Char.ofNat n, c)
    else
      match lowHalf? c with
      | some low =>
        if Json.isHighHalf n then .ok (Json.ofHalves n low, c.skip 6) else .ok ('\ufffd', c)
      | none => .ok ('\ufffd', c)

def readQuotedGap (c : Cursor) : Except Fault (List Char × Cursor) :=
  let spaces := c.rest.takeWhile isSpace
  let c := c.skip spaces.length
  match c.peek 0 with
  | some x =>
    if isBreak x then
      let (others, atMarker, c) := readBreaks isSpace (c.rest.length + 1) [] c.next
      if atMarker then .error .malformed else .ok (joint x others, c)
    else .ok (spaces.reverse, c)
  | none => .error .malformed

/-- Reads an escape after its backslash, and gives what it stands for, in reverse. An escaped line
end joins two lines. -/
def readEscape (c : Cursor) : Except Fault (List Char × Cursor) :=
  match c.peek 0 with
  | none => .error .malformed
  | some e =>
    if isBreak e then
      let (others, atMarker, c) := readBreaks isSpace (c.rest.length + 1) [] c.next
      if atMarker then .error .malformed else .ok (others, c)
    else
      match escapeValue? e, escapeWidth? e with
      | some v, _ => .ok ([v], c.next)
      | none, some width => (readCode width c.next).map fun r => ([r.1], r.2)
      | none, none => .error .malformed

def readQuoted (isDouble : Bool) : (fuel : Nat) → (acc : List Char) → Cursor →
    Except Fault (String × Cursor)
  | 0, _, _ => .error .malformed
  | fuel + 1, acc, c =>
    match c.peek 0 with
    | none => .error .malformed
    | some x =>
      if isSpace x || isBreak x then do
        let (text, c) ← readQuotedGap c
        readQuoted isDouble fuel (text ++ acc) c
      else if isDouble && x = '\\' then do
        let (text, c) ← readEscape c.next
        readQuoted isDouble fuel (text ++ acc) c
      else if !isDouble && x = '\'' && c.isAt 1 '\'' then
        readQuoted isDouble fuel ('\'' :: acc) (c.skip 2)
      else if x = (if isDouble then '"' else '\'') then .ok (String.ofList acc.reverse, c.next)
      else readQuoted isDouble fuel (x :: acc) c.next

/-! ## Plain scalars -/

def isFlowMark (x : Char) : Bool :=
  x = ',' || x = '[' || x = ']' || x = '\x7b' || x = '\x7d'

/-- The part of a plain scalar at the front of a text, up to the next gap or mark. A colon is part
of it unless a gap follows, and a question mark is, except inside brackets in the older version. -/
def plainPart (version : Version) (inFlow : Bool) : List Char → List Char
  | [] => []
  | x :: rest =>
    let isPart :=
      if x = ':' then !rest.head?.all isGap
      else if x = '?' then version = .v1_2 || !inFlow
      else !isGap x && !(inFlow && isFlowMark x)
    if isPart then x :: plainPart version inFlow rest else []

/-- Reads the gap after a part of a plain scalar. Gives what it stands for, in reverse, and whether
it reaches over a line end; before a document marker it stands for nothing. -/
def readPlainGap (c : Cursor) : List Char × Bool × Cursor :=
  let spaces := c.rest.takeWhile (· = ' ')
  let c := c.skip spaces.length
  match c.peek 0 with
  | some x =>
    if isBreak x then
      let (others, atMarker, c) := readBreaks (· = ' ') (c.rest.length + 1) [] c.next
      (if atMarker then [] else joint x others, true, c)
    else (spaces, false, c)
  | none => (spaces, false, c)

/-- Reads a plain scalar that is indented by `indent` at least. `acc` holds the text read and
`spaces` what the gap after it stands for, both in reverse; `isBroken` says whether the gap reaches
over a line end, and is given back for the last gap. -/
def readPlain (version : Version) (inFlow : Bool) (indent : Int) : (fuel : Nat) →
    (acc spaces : List Char) → (isBroken : Bool) → Cursor → String × Bool × Cursor
  | 0, acc, _, isBroken, c => (String.ofList acc.reverse, isBroken, c)
  | fuel + 1, acc, spaces, isBroken, c =>
    let part := if c.isAt 0 '#' then [] else plainPart version inFlow c.rest
    if part.isEmpty then (String.ofList acc.reverse, isBroken, c)
    else
      let acc := part.reverse ++ spaces ++ acc
      let (spaces, isBroken, c) := readPlainGap (c.skip part.length)
      if spaces.isEmpty || (!inFlow && decide ((c.column : Int) < indent)) then
        (String.ofList acc.reverse, isBroken, c)
      else readPlain version inFlow indent fuel acc spaces isBroken c

/-! ## Blocks of lines -/

/-- What happens to the line ends at the end of a block: all dropped, one kept, or all kept. -/
inductive Chomping where
  | strip
  | clip
  | keep
deriving DecidableEq

def chomping? (x : Char) : Option Chomping :=
  if x = '+' then some .keep else if x = '-' then some .strip else none

/-- The indentation that a character of a header gives; zero is none. -/
def indentation? (x : Char) : Option Nat :=
  if '0' ≤ x ∧ x ≤ '9' then some (x.toNat - 48) else none

/-- Reads the header of a block up to the end of its line: what happens to the line ends at the end
of the block, and how far it is indented if the header says so. -/
def readHeader (c : Cursor) : Except Fault (Chomping × Option Nat × Cursor) :=
  let first := (c.peek 0).getD '\n'
  let second := (c.peek 1).getD '\n'
  let (chomping, indent, c) :=
    match chomping? first, indentation? first with
    | some m, _ =>
      match indentation? second with
      | some n => (m, some n, c.skip 2)
      | none => (m, none, c.next)
    | none, some n =>
      match chomping? second with
      | some m => (m, some n, c.skip 2)
      | none => (.clip, some n, c.next)
    | none, none => (.clip, none, c)
  if indent = some 0 || !c.endsAt fun x => x = ' ' || isBreak x then .error .malformed
  else
    let c := (c.skipWhile (· = ' ')).skipComment
    if c.endsAt endsComment then .ok (chomping, indent, c.next) else .error .malformed

/-- Reads the empty lines before a block whose indentation is not known. `acc` holds their ends, in
reverse, `widest` is the widest indentation seen and `first` that of the first empty line. -/
def readFirstLines : (fuel : Nat) → (acc : List Char) → (widest : Nat) →
    (first : Option Nat) → Cursor → List Char × Nat × Option Nat × Cursor
  | 0, acc, widest, first, c => (acc, widest, first, c)
  | fuel + 1, acc, widest, first, c =>
    let c := c.skipWhile (· = ' ')
    let widest := max widest c.column
    match c.peek 0 with
    | some x =>
      if isBreak x then
        readFirstLines fuel (breakValue x :: acc) widest (first.or (some c.column)) c.next
      else (acc, widest, first, c)
    | none => (acc, widest, first, c)

/-- Reads empty lines of a block that is indented by `indent`, and the indentation of the line after
them; `acc` holds their ends, in reverse. -/
def readEmptyLines (indent : Nat) : (fuel : Nat) → (acc : List Char) → Cursor →
    List Char × Cursor
  | 0, acc, c => (acc, c)
  | fuel + 1, acc, c =>
    let c := c.skip (min (c.rest.takeWhile (· = ' ')).length (indent - c.column))
    match c.peek 0 with
    | some x =>
      if isBreak x then readEmptyLines indent fuel (breakValue x :: acc) c.next else (acc, c)
    | none => (acc, c)

/-- Reads the lines of a block that is indented by `indent`. `acc` holds the text read, `lineEnd`
the end of its last line and `empty` those of the empty lines after it, all in reverse;
`wasIndented` says whether the last line began with a space. A block that may be without indentation
ends at a document marker. -/
def readLines (isLiteral mayBeFlush : Bool) (indent : Nat) : (fuel : Nat) → (acc : List Char) →
    (lineEnd : List Char) → (empty : List Char) → (wasIndented : Bool) → Cursor →
    List Char × List Char × List Char × Cursor
  | 0, acc, lineEnd, empty, _, c => (acc, lineEnd, empty, c)
  | fuel + 1, acc, lineEnd, empty, wasIndented, c =>
    let isFirst := acc.isEmpty && lineEnd.isEmpty
    if c.column = indent && !c.rest.isEmpty && (isFirst || !(mayBeFlush && c.atMarker)) then
      let isIndented := c.looksAt 0 isSpace
      let folds := !isLiteral && lineEnd = ['\n'] && !wasIndented && !isIndented
      let joint := if folds then (if empty.isEmpty then [' '] else empty) else empty ++ lineEnd
      let line := c.rest.takeWhile fun x => !endsComment x
      let c := c.skip line.length
      let lineEnd := ((c.peek 0).map breakValue).toList
      let (empty, c) := readEmptyLines indent (c.rest.length + 1) [] c.next
      readLines isLiteral mayBeFlush indent fuel (line.reverse ++ joint ++ acc) lineEnd empty
        isIndented c
    else (acc, lineEnd, empty, c)

def readBlock (isLiteral : Bool) (parent : Int) (c : Cursor) : Except Fault (String × Cursor) := do
  let (chomping, indent, c) ← readHeader c
  let least := (parent + 1).toNat
  let (empty, indent, c) ←
    match indent with
    | some n =>
      let indent := max 1 least + n - 1
      let (empty, c) := readEmptyLines indent (c.rest.length + 1) [] c
      .ok (empty, indent, c)
    | none =>
      let (empty, widest, first, c) := readFirstLines (c.rest.length + 1) [] 0 none c
      if first.any fun n => decide (0 < n) && decide (n < widest) then .error .malformed
      else .ok (empty, max least widest, c)
  let (acc, lineEnd, empty, c) :=
    readLines isLiteral (least = 0 && indent = 0) indent (c.rest.length + 1) [] [] empty false c
  let acc := if chomping = .strip then acc else lineEnd ++ acc
  let acc := if chomping = .keep then empty ++ acc else acc
  return (String.ofList acc.reverse, c)

end Scalar

end DocPress.Yaml
