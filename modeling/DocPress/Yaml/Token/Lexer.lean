import DocPress.Numeral
import DocPress.Yaml.Token
import DocPress.Yaml.Token.Scalar

/-! # From YAML texts to tokens

The lexer goes over a text once. It keeps the columns of the open blocks, the open brackets, and for
each depth of brackets the place at which a key may have started: a key is known as one only when
the colon after it is met, and its token is then put before what has been read since.

* `Lexer.step`: reads one token, with the block tokens that go with it.
* `Token.ofText`: the tokens of a text, up to the place at which it breaks the rules. -/

set_option autoImplicit false

namespace DocPress.Yaml

/-- A place at which a key may have started. -/
structure KeyStart where
  /-- How many tokens stand before the key. -/
  tokens : Nat
  index : Nat
  line : Nat
  column : Nat
  /-- Whether nothing but a key can stand there. -/
  isRequired : Bool

structure Bracket where
  isMap : Bool
  /-- Where a key may have started outside the bracket. -/
  keyStart : Option KeyStart

structure Lexer where
  cursor : Cursor
  /-- The tokens read, the last first. -/
  tokens : List Token
  /-- The version of the document, and the one that a line before it has given. -/
  version : Version
  announced : Version
  /-- The column of the innermost open block, and those of the others. -/
  indent : Int
  outer : List Int
  keyAllowed : Bool
  keyStart : Option KeyStart
  brackets : List Bracket

namespace Lexer

def start (text : List Char) : Lexer :=
  { cursor := .start text
    tokens := []
    version := .v1_2
    announced := .v1_2
    indent := -1
    outer := []
    keyAllowed := true
    keyStart := none
    brackets := [] }

def inFlow (s : Lexer) : Bool := !s.brackets.isEmpty

def push (s : Lexer) (t : Token) : Lexer := { s with tokens := t :: s.tokens }

/-- Adds a token before those that were read after the first `n`. -/
def insertAt (s : Lexer) (n : Nat) (t : Token) : Lexer :=
  let later := s.tokens.length - n
  { s with tokens := s.tokens.take later ++ t :: s.tokens.drop later }

def skip (s : Lexer) (n : Nat) : Lexer := { s with cursor := s.cursor.skip n }

/-! ## Starts of keys -/

/-- Forgets where a key may have started; one that is required must not be forgotten. -/
def dropKeyStart (s : Lexer) : Except Fault Lexer :=
  if s.keyStart.any KeyStart.isRequired then .error .malformed else .ok { s with keyStart := none }

def noteKeyStart (s : Lexer) : Except Fault Lexer :=
  if s.keyAllowed then do
    let s ← s.dropKeyStart
    return { s with
      keyStart := some
        { tokens := s.tokens.length
          index := s.cursor.index
          line := s.cursor.line
          column := s.cursor.column
          isRequired := !s.inFlow && decide (s.indent = (s.cursor.column : Int)) } }
  else .ok s

/-- Whether a start lies on the line of a cursor and not too far back. -/
def isFresh (c : Cursor) (k : KeyStart) : Bool := k.line = c.line && c.index ≤ k.index + 1024

/-- Forgets a start that can no longer be that of a key. -/
def expire (c : Cursor) (start : Option KeyStart) : Except Fault (Option KeyStart) :=
  if start.any fun k => !isFresh c k && k.isRequired then .error .malformed
  else .ok (start.filter (isFresh c))

def expireKeyStarts (s : Lexer) : Except Fault Lexer := do
  let keyStart ← expire s.cursor s.keyStart
  let brackets ← s.brackets.mapM fun b =>
    return { b with keyStart := ← expire s.cursor b.keyStart }
  return { s with keyStart, brackets }

/-- Whether a key may have started somewhere before. -/
def mayBeInKey (s : Lexer) : Bool :=
  s.keyStart.isSome || s.brackets.any fun b => b.keyStart.isSome

/-! ## Blocks -/

/-- Opens a block at a column if it is further in than the present one; its token stands before
those read after the first `n`. -/
def openBlock (s : Lexer) (column : Nat) (n : Nat) (t : Token) : Lexer :=
  if s.inFlow || decide ((column : Int) ≤ s.indent) then s
  else
    let s := s.insertAt n t
    { s with indent := column, outer := s.indent :: s.outer }

/-- Closes the blocks among `outer` that are further in than a column. -/
def closeFrom (column : Int) (s : Lexer) : (outer : List Int) → Lexer
  | [] => s
  | o :: outer =>
    if column < s.indent then
      closeFrom column { s with tokens := .blockEnd :: s.tokens, indent := o, outer } outer
    else s

def closeBlocks (s : Lexer) (column : Int) : Lexer :=
  if s.inFlow then s else closeFrom column s s.outer

def endBlocks (s : Lexer) : Except Fault Lexer := do
  let s ← (s.closeBlocks (-1)).dropKeyStart
  return { s with keyAllowed := false }

/-! ## Gaps -/

/-- Goes on to the next token, over spaces, comments and line ends, and inside brackets over
tabs. -/
def skipGap : (fuel : Nat) → Lexer → Lexer
  | 0, s => s
  | fuel + 1, s =>
    let c := (s.cursor.skipWhile fun x => x = ' ' || (s.inFlow && x = '\t')).skipComment
    if c.looksAt 0 isBreak then
      skipGap fuel { s with cursor := c.next, keyAllowed := s.keyAllowed || !s.inFlow }
    else { s with cursor := c }

/-! ## Lines before a document -/

def atWordEnd (c : Cursor) : Bool := c.endsAt fun x => x = ' ' || isBreak x

def isDirectiveChar (x : Char) : Bool := x.isAlphanum || "-_:.".toList.contains x

def readVersionNumber (c : Cursor) : Except Fault (Nat × Cursor) :=
  let ds := c.rest.takeWhile Char.isDigit
  if ds.isEmpty then .error .malformed
  else if Numeral.maxDigits < ds.length then .error .notANumeral
  else .ok (ds.foldl (fun n d => 10 * n + (d.toNat - 48)) 0, c.skip ds.length)

def isHandleChar (x : Char) : Bool := x.isAlphanum || x = '-' || x = '_'

def readHandle (c : Cursor) : Except Fault (String × Cursor) :=
  if !c.isAt 0 '!' then .error .malformed
  else if c.isAt 1 ' ' then .ok ("!", c.next)
  else
    let name := (c.rest.drop 1).takeWhile isHandleChar
    let after := c.skip (name.length + 1)
    if after.isAt 0 '!' then .ok (String.ofList ('!' :: name ++ ['!']), after.next)
    else .error .malformed

/-- The bytes that escapes with percent signs at the front of a text write, and what follows
them. -/
def escapedBytes? : List Char → Option (List Nat × List Char)
  | '%' :: a :: b :: rest => do
    let high ← Json.hexValue? a
    let low ← Json.hexValue? b
    let (bytes, rest) ← escapedBytes? rest
    return ((16 * high + low) :: bytes, rest)
  | '%' :: _ => none
  | rest => some ([], rest)

def isUtf8 (bytes : List Nat) : Bool :=
  ByteArray.validateUTF8 ⟨(bytes.map UInt8.ofNat).toArray⟩

def isTagChar (version : Version) (x : Char) : Bool :=
  x.isAlphanum || "-;/?:@&=+$,_.!~*'()[]%".toList.contains x || (version = .v1_2 && x = '#')

/-- Whether the escapes in a text are all whole and each row of them is the form of a text. -/
def escapesAreSound : (fuel : Nat) → List Char → Bool
  | 0, _ => true
  | _, [] => true
  | fuel + 1, x :: rest =>
    if x = '%' then
      match escapedBytes? (x :: rest) with
      | some (bytes, rest) => isUtf8 bytes && escapesAreSound fuel rest
      | none => false
    else escapesAreSound fuel rest

def readTagText (version : Version) (c : Cursor) : Except Fault (String × Cursor) :=
  let text := c.rest.takeWhile (isTagChar version)
  if text.isEmpty || !escapesAreSound text.length text then .error .malformed
  else .ok (String.ofList text, c.skip text.length)

def readDirective (version : Version) (c : Cursor) : Except Fault (Token × Cursor) := do
  let name := c.rest.takeWhile isDirectiveChar
  let c := c.skip name.length
  if name.isEmpty || !atWordEnd c then .error .malformed
  else if name = "YAML".toList then
    let (major, c) ← readVersionNumber (c.skipWhile (· = ' '))
    if !c.isAt 0 '.' then .error .malformed
    let (minor, c) ← readVersionNumber c.next
    if !atWordEnd c then .error .malformed
    return (.version major minor, c)
  else if name = "TAG".toList then
    let (handle, c) ← readHandle (c.skipWhile (· = ' '))
    if !c.isAt 0 ' ' then .error .malformed
    let (front, c) ← readTagText version (c.skipWhile (· = ' '))
    if !atWordEnd c then .error .malformed
    return (.tagHandle handle front, c)
  else return (.directive, c.skipWhile fun x => !endsComment x)

def directive (s : Lexer) : Except Fault Lexer := do
  let s ← s.endBlocks
  let (token, c) ← readDirective s.version s.cursor.next
  let c := (c.skipWhile (· = ' ')).skipComment
  if !c.endsAt endsComment then .error .malformed
  let announced := if token = .version 1 1 then .v1_1 else s.announced
  return { s with cursor := c.next, announced }.push token

def documentMark (s : Lexer) (t : Token) : Except Fault Lexer := do
  let s ← s.endBlocks
  let version := if t = .documentStart then s.announced else s.version
  return ({ s with version }.skip 3).push t

/-! ## Marks -/

def openFlow (s : Lexer) (isMap : Bool) (t : Token) : Except Fault Lexer := do
  let s ← s.noteKeyStart
  return ({ s with
    brackets := ⟨isMap, s.keyStart⟩ :: s.brackets
    keyStart := none
    keyAllowed := true }.skip 1).push t

def closeFlow (s : Lexer) (t : Token) : Except Fault Lexer := do
  let s ← s.dropKeyStart
  let keyStart := s.brackets.head?.bind Bracket.keyStart
  return ({ s with keyStart, brackets := s.brackets.tail, keyAllowed := false }.skip 1).push t

def flowEntry (s : Lexer) : Except Fault Lexer := do
  let s ← s.dropKeyStart
  return ({ s with keyAllowed := true }.skip 1).push .flowEntry

def blockEntry (s : Lexer) : Except Fault Lexer := do
  if !s.inFlow && !s.keyAllowed then .error .malformed
  let s := s.openBlock s.cursor.column s.tokens.length .blockListStart
  let s ← s.dropKeyStart
  return ({ s with keyAllowed := true }.skip 1).push .blockEntry

def explicitKey (s : Lexer) : Except Fault Lexer := do
  if !s.inFlow && !s.keyAllowed then .error .malformed
  let s := s.openBlock s.cursor.column s.tokens.length .blockMapStart
  let s ← s.dropKeyStart
  return ({ s with keyAllowed := !s.inFlow }.skip 1).push .key

def value (s : Lexer) : Except Fault Lexer :=
  match s.keyStart with
  | some k =>
    let s := s.insertAt k.tokens .key
    let s := s.openBlock k.column k.tokens .blockMapStart
    .ok (({ s with keyStart := none, keyAllowed := false }.skip 1).push .value)
  | none => do
    if !s.inFlow && !s.keyAllowed then .error .malformed
    let s := s.openBlock s.cursor.column s.tokens.length .blockMapStart
    return ({ s with keyAllowed := !s.inFlow }.skip 1).push .value

/-! ## Names and tags -/

def isNameChar (x : Char) : Bool :=
  let n := x.toNat
  ((decide (0x21 ≤ n) && decide (n ≤ 0x7E)) || decide (0xA0 ≤ n)) && x ≠ '\ufeff'
    && !Scalar.isFlowMark x

def named (s : Lexer) (make : String → Token) : Except Fault Lexer := do
  let s ← s.noteKeyStart
  let name := (s.cursor.rest.drop 1).takeWhile isNameChar
  let c := s.cursor.skip (name.length + 1)
  if name.isEmpty || c.isAt 0 '\ufeff' then .error .malformed
  return { s with cursor := c, keyAllowed := false }.push (make (String.ofList name))

def readTag (version : Version) (c : Cursor) : Except Fault (Token × Cursor) := do
  let (short, c) := if c.isAt 1 '!' then ("!!", c.next) else ("!", c)
  let next := c.next
  if next.isAt 0 '<' then
    let (suffix, c) ← readTagText version next.next
    if c.isAt 0 '>' then return (.tag none suffix, c.next) else .error .malformed
  else if next.endsAt isGap then return (.tag none short, next)
  else
    let word := next.rest.takeWhile fun x => x ≠ ' ' && !isBreak x
    let (handle, c) ← if word.contains '!' then readHandle c else pure (short, next)
    let (suffix, c) ← readTagText version c
    return (.tag (some handle) suffix, c)

def tag (s : Lexer) : Except Fault Lexer := do
  let s ← s.noteKeyStart
  let (token, c) ← readTag s.version s.cursor
  if !atWordEnd c then .error .malformed
  return { s with cursor := c, keyAllowed := false }.push token

/-! ## Scalars -/

def quoted (s : Lexer) (isDouble : Bool) : Except Fault Lexer := do
  let s ← s.noteKeyStart
  let c := s.cursor.next
  let (text, c) ← Scalar.readQuoted isDouble (c.rest.length + 1) [] c
  return { s with cursor := c, keyAllowed := false }.push (.scalar text false)

def plain (s : Lexer) : Except Fault Lexer := do
  let s ← s.noteKeyStart
  let (text, isBroken, c) := Scalar.readPlain s.version s.inFlow (s.indent + 1)
    (s.cursor.rest.length + 1) [] [] false s.cursor
  return { s with cursor := c, keyAllowed := isBroken }.push (.scalar text true)

def block (s : Lexer) (isLiteral : Bool) : Except Fault Lexer := do
  let s ← s.dropKeyStart
  let (text, c) ← Scalar.readBlock isLiteral s.indent s.cursor.next
  return { s with cursor := c, keyAllowed := true }.push (.scalar text false)

/-! ## Steps -/

/-- Whether a colon that is next stands before a value. Inside brackets it does so without a gap
after it too, except as the part of an item of a list, and except after another colon while what
has been read may still be a key. -/
def startsValue (s : Lexer) (inKey : Bool) : Bool :=
  s.cursor.isGapAt 1
    || (match s.version, s.brackets with
        | _, [] => false
        | .v1_1, _ => true
        | .v1_2, b :: _ => b.isMap && !(inKey && s.tokens.head? = some .value))

/-- Whether a plain scalar can start with the next character. -/
def startsPlain (s : Lexer) (x : Char) : Bool :=
  let c := s.cursor
  if x = '-' then !c.isGapAt 1
  else if x = '?' then !s.inFlow && !c.isGapAt 1
  else if x = ':' then
    (!s.inFlow && !c.isGapAt 1) || (s.inFlow && s.version = .v1_2 && !c.looksAt 1 isSpace)
  else !(isSpace x || isBreak x || ",[]\x7b\x7d#&*!|>'\"%@`".toList.contains x)

/-- Reads one token after a gap, with the block tokens that go with it. -/
def step (s : Lexer) (inKey : Bool) (x : Char) : Except Fault Lexer :=
  let c := s.cursor
  if c.column = 0 && x = '%' then s.directive
  else if c.atMarker then s.documentMark (if x = '-' then .documentStart else .documentEnd)
  else if x = '[' then s.openFlow false .flowListStart
  else if x = '\x7b' then s.openFlow true .flowMapStart
  else if x = ']' then s.closeFlow .flowListEnd
  else if x = '\x7d' then s.closeFlow .flowMapEnd
  else if x = ',' then s.flowEntry
  else if x = '-' && c.isGapAt 1 then s.blockEntry
  else if x = '?' && (s.inFlow || c.isGapAt 1) then s.explicitKey
  else if x = ':' && s.startsValue inKey then s.value
  else if x = '*' then s.named .alias
  else if x = '&' then s.named .anchor
  else if x = '!' then s.tag
  else if x = '|' && !s.inFlow then s.block true
  else if x = '>' && !s.inFlow then s.block false
  else if x = '\'' then s.quoted false
  else if x = '"' then s.quoted true
  else if s.startsPlain x then s.plain
  else .error .malformed

/-- The tokens of the rest of the text after those read, up to the place at which it breaks the
rules. -/
def run : (fuel : Nat) → Lexer → List Token
  | 0, s => s.tokens.reverse
  | fuel + 1, s =>
    let after : Except Fault (Lexer × Bool) := do
      let s ← s.expireKeyStarts
      let inKey := s.mayBeInKey
      let s ← (s.skipGap (s.cursor.rest.length + 1)).expireKeyStarts
      let s := s.closeBlocks s.cursor.column
      match s.cursor.peek 0 with
      | none => return (← s.endBlocks, true)
      | some x => return (← s.step inKey x, false)
    match after with
    | .error fault => (s.push (.fault fault)).tokens.reverse
    | .ok (s, isDone) => if isDone then s.tokens.reverse else run fuel s

end Lexer

/-- The tokens of a text, up to the place at which it breaks the rules. A byte order mark at its
start is passed over. -/
def Token.ofText (text : List Char) : List Token :=
  if text.all isAllowed then
    let start := Lexer.start text
    let start := if text.head? = some '\ufeff' then start.skip 1 else start
    Lexer.run (text.length + 2) start
  else [.fault .malformed]

end DocPress.Yaml
