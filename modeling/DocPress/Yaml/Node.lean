import DocPress.Json.Parser
import DocPress.Yaml.Scalar
import DocPress.Yaml.Token

/-! # YAML nodes

The nodes that the tokens of a document form: scalars, lists and maps, each with the tag of its
kind. Nodes are known by their places, in the order in which they begin. An alias is the place of
the node that its anchor names, and this node may be one around it.

* `Nodes`: the nodes of a document and their anchors.
* `Nodes.ofTokens`: the document of a row of tokens.

The readers take a bound on the number of nested steps and give the tokens left over and the nodes
known so far. -/

set_option autoImplicit false

namespace DocPress.Yaml

inductive Node where
  | scalar (tag : Tag) (text : String)
  | list (tag : Tag) (items : List Nat)
  | map (tag : Tag) (entries : List (Nat × Nat))

def Node.tag : Node → Tag
  | scalar tag _ => tag
  | list tag _ => tag
  | map tag _ => tag

/-- The nodes of a document by their places, and the places that anchors name, the latest first. -/
structure Nodes where
  nodes : Array Node
  names : List (String × Nat)

structure TagRules where
  version : Version
  handles : List (String × String)

namespace TagRules

def standardHandles : List (String × String) := [("!", "!"), ("!!", Tag.standardFront)]

def unescape : List Char → List Char
  | [] => []
  | '%' :: a :: b :: cs =>
    match Json.hexValue? a, Json.hexValue? b with
    | some high, some low => Char.ofNat (16 * high + low) :: unescape cs
    | _, _ => '%' :: unescape (a :: b :: cs)
  | c :: cs => c :: unescape cs

def nameOf? (rules : TagRules) (handle : Option String) (suffix : String) : Option String :=
  let suffix := String.ofList (unescape suffix.toList)
  match handle with
  | none => some suffix
  | some handle => (rules.handles.lookup handle).map fun front => front ++ suffix

/-- The tag of a node with a tag of that name or with none, where `standard` is the tag of a node
whose tag says nothing. -/
def tagOf (name : Option String) (standard : Tag) : Tag :=
  match name with
  | none => standard
  | some name => if name = Tag.nonspecific then standard else Tag.ofName name

/-- The tag of a scalar. One that is plain, or whose tag leaves its kind open, has the tag of its
form. -/
def tagOfScalar (rules : TagRules) (name : Option String) (text : String) (isPlain : Bool) : Tag :=
  if isPlain || name.isSome then tagOf name (Scalar.tagOf rules.version text) else .text

end TagRules

namespace Nodes

def empty : Nodes := ⟨#[], []⟩

def add (node : Node) (ns : Nodes) : Nat × Nodes :=
  (ns.nodes.size, { ns with nodes := ns.nodes.push node })

def addAbsent (ns : Nodes) : Nat × Nodes := ns.add (.scalar .null "")

def bind (anchor : Option String) (place : Nat) (ns : Nodes) : Nodes :=
  match anchor with
  | some a => { ns with names := (a, place) :: ns.names }
  | none => ns

/-- Puts a node at a place that was kept for it while its content was read. -/
def put (place : Nat) (node : Node) (ns : Nodes) : Nodes :=
  { ns with nodes := ns.nodes.setIfInBounds place node }

/-! ## Reading -/

/-- What is wrong where no token of a row of tokens fits: that the text ends its tokens there, or
else that the first of them is out of place. -/
def faultAt : List Token → Fault
  | .fault f :: _ => f
  | _ => .malformed

def properties : List Token → Option String × Option (Option String × String) × List Token
  | .anchor a :: .tag h s :: ts => (some a, some (h, s), ts)
  | .tag h s :: .anchor a :: ts => (some a, some (h, s), ts)
  | .anchor a :: ts => (some a, none, ts)
  | .tag h s :: ts => (none, some (h, s), ts)
  | ts => (none, none, ts)

/-- Whether the front of tokens ends what came before, so that a node left out there is absent. -/
def endsAt (marks : List Token) : List Token → Bool
  | [] => true
  | t :: _ => marks.contains t

mutual
/-- Reads a node. Lists and maps by indentation are allowed with `inBlock`; a list whose items are
not indented further is allowed with `unindented`. -/
def read (rules : TagRules) (inBlock unindented : Bool) : (fuel : Nat) → List Token → Nodes →
    Except Fault (Nat × List Token × Nodes)
  | 0, _, _ => .error .malformed
  | fuel + 1, tokens, ns =>
    match tokens with
    | .alias name :: rest =>
      match ns.names.lookup name with
      | some place => .ok (place, rest, ns)
      | none => .error .malformed
    | _ => do
      let (anchor, tag, rest) := properties tokens
      let name ←
        match tag with
        | none => .ok none
        | some (handle, suffix) =>
          match rules.nameOf? handle suffix with
          | some name => .ok (some name)
          | none => .error .malformed
      -- the place of a collection is named before its content is read
      let (place, opened) := ns.addAbsent
      let opened := opened.bind anchor place
      let asList (r : List Nat × List Token × Nodes) : Nat × List Token × Nodes :=
        (place, r.2.1, r.2.2.put place (.list (TagRules.tagOf name .list) r.1))
      let asMap (r : List (Nat × Nat) × List Token × Nodes) : Nat × List Token × Nodes :=
        (place, r.2.1, r.2.2.put place (.map (TagRules.tagOf name .map) r.1))
      let asScalar (text : String) (isPlain : Bool) (rest : List Token) :
          Nat × List Token × Nodes :=
        (place, rest, opened.put place (.scalar (rules.tagOfScalar name text isPlain) text))
      match rest with
      | .scalar text isPlain :: rest => return asScalar text isPlain rest
      | .flowListStart :: rest => return asList (← readFlowItems rules fuel true rest opened)
      | .flowMapStart :: rest => return asMap (← readFlowEntries rules fuel true rest opened)
      | .blockListStart :: items =>
        if inBlock then
          let (items, rest, ns) ← readItems rules true fuel items opened
          match rest with
          | .blockEnd :: rest => return asList (items, rest, ns)
          | _ => .error (faultAt rest)
        else return ← readEmpty rest asScalar (anchor.isSome || name.isSome)
      | .blockMapStart :: entries =>
        if inBlock then return asMap (← readEntries rules fuel entries opened)
        else return ← readEmpty rest asScalar (anchor.isSome || name.isSome)
      | .blockEntry :: _ =>
        if unindented then return asList (← readItems rules false fuel rest opened)
        else return ← readEmpty rest asScalar (anchor.isSome || name.isSome)
      | _ => return ← readEmpty rest asScalar (anchor.isSome || name.isSome)

def readEmpty (rest : List Token)
    (asScalar : String → Bool → List Token → Nat × List Token × Nodes) (isMarked : Bool) :
    Except Fault (Nat × List Token × Nodes) :=
  if isMarked then .ok (asScalar "" true rest) else .error (faultAt rest)

def readUnless (rules : TagRules) (inBlock unindented : Bool) (marks : List Token) :
    (fuel : Nat) → List Token → Nodes → Except Fault (Nat × List Token × Nodes)
  | 0, _, _ => .error .malformed
  | fuel + 1, tokens, ns =>
    if endsAt marks tokens then
      let (place, ns) := ns.addAbsent
      .ok (place, tokens, ns)
    else read rules inBlock unindented fuel tokens ns

def readValue (rules : TagRules) (inBlock unindented : Bool) (marks : List Token) :
    (fuel : Nat) → List Token → Nodes → Except Fault (Nat × List Token × Nodes)
  | 0, _, _ => .error .malformed
  | fuel + 1, tokens, ns =>
    match tokens with
    | .value :: rest => readUnless rules inBlock unindented marks fuel rest ns
    | rest =>
      let (place, ns) := ns.addAbsent
      .ok (place, rest, ns)

def readItems (rules : TagRules) (isIndented : Bool) : (fuel : Nat) → List Token → Nodes →
    Except Fault (List Nat × List Token × Nodes)
  | 0, _, _ => .error .malformed
  | fuel + 1, tokens, ns =>
    match tokens with
    | .blockEntry :: rest => do
      let ends : List Token :=
        if isIndented then [.blockEntry, .blockEnd] else [.blockEntry, .key, .value, .blockEnd]
      let (item, rest, ns) ← readUnless rules true false ends fuel rest ns
      let (items, rest, ns) ← readItems rules isIndented fuel rest ns
      return (item :: items, rest, ns)
    | rest => .ok ([], rest, ns)

/-- Reads the entries of a map by indentation, and the end of its block. In the newer version a key
may be left out. -/
def readEntries (rules : TagRules) : (fuel : Nat) → List Token → Nodes →
    Except Fault (List (Nat × Nat) × List Token × Nodes)
  | 0, _, _ => .error .malformed
  | fuel + 1, tokens, ns => do
    let ends := [.key, .value, .blockEnd]
    match tokens with
    | .key :: rest =>
      let (key, rest, ns) ← readUnless rules true true ends fuel rest ns
      let (value, rest, ns) ← readValue rules true true ends fuel rest ns
      let (entries, rest, ns) ← readEntries rules fuel rest ns
      return ((key, value) :: entries, rest, ns)
    | .value :: rest =>
      if rules.version = .v1_1 then .error .malformed
      let (key, ns) := ns.addAbsent
      let (value, rest, ns) ← readUnless rules true true ends fuel rest ns
      let (entries, rest, ns) ← readEntries rules fuel rest ns
      return ((key, value) :: entries, rest, ns)
    | .blockEnd :: rest => return ([], rest, ns)
    | _ => .error (faultAt tokens)

/-- Reads the items of a list between brackets, and the bracket that ends it. A key among them
starts a map of one entry. -/
def readFlowItems (rules : TagRules) : (fuel : Nat) → (isFirst : Bool) → List Token → Nodes →
    Except Fault (List Nat × List Token × Nodes)
  | 0, _, _, _ => .error .malformed
  | fuel + 1, isFirst, tokens, ns =>
    match tokens with
    | .flowListEnd :: rest => .ok ([], rest, ns)
    | _ => do
      let rest ←
        match isFirst, tokens with
        | true, tokens => .ok tokens
        | false, .flowEntry :: rest => .ok rest
        | false, _ => .error (faultAt tokens)
      match rest with
      | .flowListEnd :: rest => return ([], rest, ns)
      | .key :: rest =>
        let (key, rest, ns) ←
          readUnless rules false false [.value, .flowEntry, .flowListEnd] fuel rest ns
        let (value, rest, ns) ←
          readValue rules false false [.flowEntry, .flowListEnd] fuel rest ns
        let (item, ns) := ns.add (.map .map [(key, value)])
        let (items, rest, ns) ← readFlowItems rules fuel false rest ns
        return (item :: items, rest, ns)
      | rest =>
        let (item, rest, ns) ← read rules false false fuel rest ns
        let (items, rest, ns) ← readFlowItems rules fuel false rest ns
        return (item :: items, rest, ns)

/-- Reads the entries of a map between braces, and the brace that ends it. In the newer version a
key may be left out. -/
def readFlowEntries (rules : TagRules) : (fuel : Nat) → (isFirst : Bool) → List Token → Nodes →
    Except Fault (List (Nat × Nat) × List Token × Nodes)
  | 0, _, _, _ => .error .malformed
  | fuel + 1, isFirst, tokens, ns =>
    match tokens with
    | .flowMapEnd :: rest => .ok ([], rest, ns)
    | _ => do
      let ends := [.flowEntry, .flowMapEnd]
      let rest ←
        match isFirst, tokens with
        | true, tokens => .ok tokens
        | false, .flowEntry :: rest => .ok rest
        | false, _ => .error (faultAt tokens)
      match rest with
      | .flowMapEnd :: rest => return ([], rest, ns)
      | .key :: rest =>
        let (key, rest, ns) ← readUnless rules false false (.value :: ends) fuel rest ns
        let (value, rest, ns) ← readValue rules false false ends fuel rest ns
        let (entries, rest, ns) ← readFlowEntries rules fuel false rest ns
        return ((key, value) :: entries, rest, ns)
      | .value :: rest =>
        if rules.version = .v1_1 then .error .malformed
        let (key, ns) := ns.addAbsent
        let (value, rest, ns) ← readUnless rules false false ends fuel rest ns
        let (entries, rest, ns) ← readFlowEntries rules fuel false rest ns
        return ((key, value) :: entries, rest, ns)
      | rest =>
        let (key, rest, ns) ← read rules false false fuel rest ns
        let (value, ns) := ns.addAbsent
        let (entries, rest, ns) ← readFlowEntries rules fuel false rest ns
        return ((key, value) :: entries, rest, ns)
end

/-! ## Documents -/

def rulesOf : (version : Option (Nat × Nat)) → (handles : List (String × String)) → List Token →
    Except Fault (TagRules × List Token)
  | version, handles, .version major minor :: rest =>
    if version.isSome || major ≠ 1 then .error .malformed
    else rulesOf (some (major, minor)) handles rest
  | version, handles, .tagHandle handle front :: rest =>
    if (handles.lookup handle).isSome then .error .malformed
    else rulesOf version ((handle, front) :: handles) rest
  | version, handles, .directive :: rest => rulesOf version handles rest
  | _, _, .fault f :: _ => .error f
  | version, handles, rest =>
    let handles := handles ++ TagRules.standardHandles
    match version with
    | none => .ok (⟨.v1_2, handles⟩, rest)
    | some (_, minor) =>
      if minor = 1 then .ok (⟨.v1_1, handles⟩, rest)
      else if minor = 2 then .ok (⟨.v1_2, handles⟩, rest)
      else .error .versionUnknown

def readStart (tokens : List Token) : Except Fault (TagRules × List Token) := do
  let (rules, rest) ← rulesOf none [] tokens
  match rest with
  | .documentStart :: rest => return (rules, rest)
  | _ => .error (faultAt rest)

def isBetween (t : Token) : Bool := t.isDirective || t = .documentStart || t = .documentEnd

/-- The node of the first document among tokens, with the rules of the document, the tokens after it
and all nodes that it is made of. -/
def readDocument (tokens : List Token) : Except Fault (Nat × TagRules × List Token × Nodes) := do
  let fuel := 5 * tokens.length + 5
  let (rules, rest, isOpen) ←
    if tokens.head?.any fun t => t.isDirective || t = .documentStart then
      (readStart tokens).map fun r => (r.1, r.2, true)
    else pure (⟨.v1_2, TagRules.standardHandles⟩, tokens, false)
  if isOpen && rest.head?.all isBetween then
    let (top, ns) := empty.addAbsent
    return (top, rules, rest, ns)
  else
    let (top, rest, ns) ← read rules true false fuel rest empty
    return (top, rules, rest, ns)

/-- Whether nothing follows a document but a mark that ends it, or several of them in the older
version. -/
def endOfDocument (rules : TagRules) (tokens : List Token) : Except Fault Unit :=
  let rest :=
    if rules.version = .v1_1 then tokens.dropWhile (· = .documentEnd)
    else if tokens.head? = some .documentEnd then tokens.drop 1
    else tokens
  if rest.isEmpty then .ok ()
  else do
    -- the lines before a second document are read before it is refused
    let _ ← rulesOf none [] rest
    .error .malformed

/-- The document of a row of tokens: the place of its node, all of its nodes, and the version it is
written in. The node is absent if there is no document; only one is allowed. -/
def ofTokens (tokens : List Token) : Except Fault (Nat × Array Node × Version) := do
  if tokens.isEmpty then
    let (top, ns) := empty.addAbsent
    return (top, ns.nodes, .v1_2)
  let (top, rules, rest, ns) ← readDocument tokens
  endOfDocument rules rest
  return (top, ns.nodes, rules.version)

end Nodes

end DocPress.Yaml
