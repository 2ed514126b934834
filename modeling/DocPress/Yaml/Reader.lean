import DocPress.Yaml.Node
import DocPress.Yaml.Token.Lexer

/-! # Reading YAML

The value of a document is made from its nodes, each of them once. A collection is made without
content and waits in line until it is filled; the collections in it wait behind it. But a key is
filled at once, with all that is in it, and what is met again inside itself there is nothing.

A map must not have a key twice. The entries of the maps at the key `<<` are merged into a map,
before its own; then a later entry takes the place of an earlier one.

* `Build`: what is made of nodes, or the first fault.
* `Build.value`, `Build.fill`: the value of a node, and the content of a collection.
* `Yaml.parse`: the document of a text. -/

set_option autoImplicit false

namespace DocPress.Yaml

structure Progress where
  nodes : Array Node
  collections : Array Collection
  made : List (Nat × Value)
  /-- The nodes of a key that are being made. -/
  begun : List Nat
  /-- The nodes of the collections that are to be filled, with the places of these. -/
  waiting : List (Nat × Nat)
  merged : List Nat

/-- What is made from nodes, unless there is a fault. -/
abbrev Build (α : Type) : Type := StateT Progress (Except Fault) α

namespace Build

def node (n : Nat) : Build Node := do return (← get).nodes[n]?.getD (.scalar .null "")

def entries (n : Nat) : Build (List (Nat × Nat)) := do
  match ← node n with
  | .map _ es => return es
  | _ => return []

def putNode (n : Nat) (content : Node) : Build Unit :=
  modify fun p => { p with nodes := p.nodes.setIfInBounds n content }

def putEntries (n : Nat) (es : List (Nat × Nat)) : Build Unit := do
  putNode n (.map (← node n).tag es)

def newCollection (empty : Collection) : Build Nat :=
  modifyGet fun p => (p.collections.size, { p with collections := p.collections.push empty })

def putCollection (place : Nat) (c : Collection) : Build Unit :=
  modify fun p => { p with collections := p.collections.setIfInBounds place c }

/-! ## Merging -/

/-- Splits entries at the first whose key is to be merged: those before it, its value, and those
after it. -/
def splitMerge? (nodes : Array Node) :
    List (Nat × Nat) → Option (List (Nat × Nat) × Nat × List (Nat × Nat))
  | [] => none
  | (k, v) :: es =>
    if (nodes[k]?.map Node.tag) = some .merge then some ([], v, es)
    else (splitMerge? nodes es).map fun (before, value, after) => ((k, v) :: before, value, after)

/-- The tag of a default value stands for a text at the key of an entry. -/
def textKey (k : Nat) : Build Unit := do
  match ← node k with
  | .scalar .default text => putNode k (.scalar .text text)
  | .list .default items => putNode k (.list .text items)
  | .map .default es => putNode k (.map .text es)
  | _ => return

/-- Puts the entries to be merged into a map before its own; `found` are those found so far. Entries
can be merged at one key only. Each step takes away such a key, which bounds the number of steps. -/
def flatten : (bound : Nat) → (n : Nat) → (found : List (Nat × Nat)) → Build Unit
  | 0, _, _ => throw .malformed
  | bound + 1, n, found => do
    let es ← entries n
    match splitMerge? (← get).nodes es with
    | none =>
      es.forM fun e => textKey e.1
      if !found.isEmpty then
        putEntries n (found ++ es)
        modify fun p => { p with merged := n :: p.merged }
    | some (before, v, after) =>
      if !found.isEmpty then throw .malformed
      putEntries n (before ++ after)
      match ← node v with
      | .map _ _ =>
        flatten bound v []
        flatten bound n (← entries v)
      | .list _ items =>
        -- of the maps of a list the last comes first
        let found ← items.mapM fun i => do
          match ← node i with
          | .map _ _ =>
            flatten bound i []
            entries i
          | _ => throw .malformed
        flatten bound n found.reverse.flatten
      | .scalar _ _ => throw .malformed

/-! ## Scalars and keys -/

/-- The text of a node that is taken for a scalar; a map has that of its default value. -/
def scalarText : (bound : Nat) → Nat → Build String
  | 0, _ => throw .malformed
  | bound + 1, n => do
    match ← node n with
    | .scalar _ text => return text
    | .list _ _ => throw .malformed
    | .map _ es =>
      let nodes := (← get).nodes
      match es.find? fun e => (nodes[e.1]?.map Node.tag) = some .default with
      | some (_, v) => scalarText bound v
      | none => throw .malformed

def emptyOf? : Tag → Option Collection
  | .list | .pairs => some (.list [])
  | .map => some (.map false [])
  | .orderedMap => some (.map true [])
  | .set => some (.set [])
  | _ => none

def itemKey? (collections : Array Collection) : Value → Option Key
  | .key k => some k
  | .collection place =>
    match collections[place]? with
    | some (.pair (.key first) (.key second)) => some (.tuple [first, second])
    | _ => none

/-- The key that a value is, where a list becomes a tuple. A tuple that holds collections is found
to be no key only when it is looked up. -/
def keyOf : Value → Build (Option Key)
  | .key k => return some k
  | .collection place => do
    let collections := (← get).collections
    match collections[place]? with
    | some (.list items) => return (items.mapM (itemKey? collections)).map .tuple
    | _ => throw .malformed

/-- A key that is looked up among those of entries. One that is there is the fault `repeated`, if
there is one. -/
def checkKey (repeated : Option Fault) (es : List (Key × Value)) (key : Option Key) :
    Build Key := do
  match key with
  | none => throw .keyNotFixed
  | some key =>
    match repeated with
    | some fault => if es.any fun e => e.1.same key then throw fault else return key
    | none => return key

/-! ## Filling collections -/

section

variable (make : (inKey : Bool) → Nat → Build Value) (inKey : Bool)

def mapEntries (repeated : Option Fault) :
    List (Nat × Nat) → List (Key × Value) → Build (List (Key × Value))
  | [], es => return es
  | (k, v) :: rest, es => do
    let key ← keyOf (← make true k)
    let value ← make inKey v
    mapEntries repeated rest (Key.insert (← checkKey repeated es key) value es)

def entriesOf (n : Nat) : Build (List (Key × Value)) := do
  let nodes := (← get).nodes
  let bound := nodes.foldl (fun | bound, .map _ es => bound + es.length | bound, _ => bound) 1
  flatten bound n []
  let repeated := if (← get).merged.contains n then none else some Fault.malformed
  mapEntries make inKey repeated (← entries n) []

def onlyEntry (n : Nat) : Build (Nat × Nat) := do
  match ← node n with
  | .map _ [e] => return e
  | _ => throw .malformed

def orderedEntries : List Nat → List (Key × Value) → Build (List (Key × Value))
  | [], es => return es
  | n :: rest, es => do
    let (k, v) ← onlyEntry n
    let key :=
      match ← make inKey k with
      | .key key => some key
      | .collection _ => none
    let key ← checkKey (some .orderedKeyRepeated) es key
    orderedEntries rest (es ++ [(key, ← make inKey v)])

def pairOf (n : Nat) : Build Value := do
  let (k, v) ← onlyEntry n
  let first ← make inKey k
  let second ← make inKey v
  return .collection (← newCollection (.pair first second))

def content (n : Nat) : Build Collection := do
  let own ← node n
  match own, own.tag with
  | .list _ items, .list => return .list (← items.mapM (make inKey))
  | .list _ items, .pairs => return .list (← items.mapM (pairOf make inKey))
  | .list _ items, .orderedMap => return .map true (← orderedEntries make inKey items [])
  | .map _ _, .map => return .map false (← entriesOf make inKey n)
  | .map _ _, .set => return .set ((← entriesOf make inKey n).map Prod.fst)
  | _, _ => throw .malformed

def fill (n place : Nat) : Build Unit := do putCollection place (← content make inKey n)

end

/-! ## Values -/

def scalar (version : Version) (n : Nat) : Build Value := do
  match ← node n with
  | .map .timestamp _ => throw .malformed
  | own =>
    let text ← scalarText ((← get).nodes.size + 1) n
    match Scalar.value version own.tag text with
    | .ok key => return .key key
    | .error fault => throw fault

/-- The value of a node, in a key or not. The nodes that are begun in a key are different ones, so
that their number bounds the number of nested steps. -/
def value (version : Version) : (bound : Nat) → (inKey : Bool) → Nat → Build Value
  | 0, _, _ => throw .malformed
  | bound + 1, inKey, n => do
    match (← get).made.lookup n with
    | some value => return value
    | none =>
      if (← get).begun.contains n then return .key .null
      modify fun p => { p with begun := n :: p.begun }
      let value ←
        match emptyOf? (← node n).tag with
        | none => scalar version n
        | some empty =>
          let place ← newCollection empty
          if inKey then fill (value version bound) true n place
          else modify fun p => { p with waiting := p.waiting ++ [(n, place)] }
          pure (.collection place)
      modify fun p => { p with made := (n, value) :: p.made, begun := p.begun.erase n }
      return value

/-- Fills the collections that wait, in order, and those that come to wait. Each node waits once. -/
def fillWaiting (version : Version) : (bound : Nat) → Build Unit
  | 0 => return
  | bound + 1 => do
    match (← get).waiting with
    | [] => return
    | (n, place) :: waiting =>
      modify fun p => { p with waiting }
      fill (value version ((← get).nodes.size + 1)) false n place
      fillWaiting version bound

def document (version : Version) (n : Nat) : Build Graph := do
  let size := (← get).nodes.size
  let top ← value version (size + 1) false n
  fillWaiting version (size + 1)
  return ⟨(← get).collections.toList, top⟩

end Build

def parse (text : String) : Except Fault Graph := do
  let (top, nodes, version) ← Nodes.ofTokens (Token.ofText text.toList)
  (Build.document version top).run' ⟨nodes, #[], [], [], [], []⟩

end DocPress.Yaml
