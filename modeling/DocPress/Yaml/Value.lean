import DocPress.Binary64
import DocPress.Yaml.Bytes
import DocPress.Yaml.Timestamp

/-! # What a YAML document holds

Keys are scalars and tuples of keys. Lists, maps and the other collections stand at places of a
graph, and a value is a key or the place of a collection. So a collection can stand in several
places of a document, and inside itself.

* `Key.same`: whether two keys are the same.
* `Graph`: a document, with its collections by place.
* `Graph.list?`, `Graph.map?`: what a value holds as a list or as a map.
* `Key.display`, `Graph.display?`: the form of a value as a text. -/

set_option autoImplicit false

namespace DocPress.Yaml

inductive Key where
  | null
  | bool (value : Bool)
  | int (value : Int)
  | float (value : Binary64)
  | text (value : String)
  | bytes (value : List Nat)
  | timestamp (value : Timestamp)
  | tuple (items : List Key)
deriving Inhabited

/-- A key, or the collection at a place. -/
inductive Value where
  | key (key : Key)
  | collection (place : Nat)
deriving Inhabited

instance : Coe Key Value := ⟨.key⟩

inductive Collection where
  | list (items : List Value)
  | pair (first second : Value)
  | set (members : List Key)
  /-- A map. Its entries are shown as pairs if it is marked as ordered; all keep their order. -/
  | map (isOrdered : Bool) (entries : List (Key × Value))

structure Graph where
  collections : List Collection
  top : Value

/-! ## Keys -/

namespace Key

def isTrue : Key → Bool
  | null => false
  | bool b => b
  | int n => n ≠ 0
  | float x => !x.isZero
  | text s => s ≠ ""
  | bytes bs => !bs.isEmpty
  | timestamp _ => true
  | tuple ks => !ks.isEmpty

/-- The whole number that a key counts as. -/
def number? : Key → Option Int
  | bool b => some (if b then 1 else 0)
  | int n => some n
  | float x => x.toInt?
  | _ => none

mutual
/-- Whether two keys are the same. Truth values and numbers are compared as numbers, and tuples item
by item. -/
def same : Key → Key → Bool
  | null, null => true
  | text s, text t => s = t
  | bytes b, bytes c => b = c
  | timestamp s, timestamp t => s.same t
  | float x, float y => x = y || (x.toInt?.isSome && x.toInt? = y.toInt?)
  | tuple ks, tuple ls => allSame ks ls
  | k, l => k.number?.isSome && k.number? = l.number?

def allSame : List Key → List Key → Bool
  | [], [] => true
  | k :: ks, l :: ls => k.same l && allSame ks ls
  | _, _ => false
end

/-- Sets the value of a key, at the place of the key if it is there and at the end if not. -/
def insert (key : Key) (value : Value) : List (Key × Value) → List (Key × Value)
  | [] => [(key, value)]
  | (k, v) :: es => if k.same key then (k, value) :: es else (k, v) :: insert key value es

/-- The value of the first entry whose key is the text `key`. -/
def lookup? (key : String) : List (Key × Value) → Option Value
  | [] => none
  | (text k, v) :: es => if k = key then some v else lookup? key es
  | _ :: es => lookup? key es

def commas (pieces : List String) : String := ", ".intercalate pieces

mutual
def inspect : Key → String
  | null => "None"
  | bool b => if b then "True" else "False"
  | int n => Numeral.ofInt n
  | float x => x.text
  | text s => Text.quoted s
  | bytes bs => Bytes.inspect bs
  | timestamp t => t.inspect
  | tuple [k] => "(" ++ k.inspect ++ ",)"
  | tuple ks => "(" ++ commas (inspectAll ks) ++ ")"

def inspectAll : List Key → List String
  | [] => []
  | k :: ks => k.inspect :: inspectAll ks
end

def display : Key → String
  | text s => s
  | timestamp t => t.display
  | k => k.inspect

mutual
/-- Whether a key has a textual form: whole numbers in it are not too long for numerals. -/
def isWritable : Key → Bool
  | int n => Numeral.isWritable n
  | tuple ks => areWritable ks
  | _ => true

def areWritable : List Key → Bool
  | [] => true
  | k :: ks => k.isWritable && areWritable ks
end

def inspect? (k : Key) : Option String := if k.isWritable then some k.inspect else none

def display? (k : Key) : Option String := if k.isWritable then some k.display else none

end Key

/-! ## Collections -/

namespace Collection

def isEmpty : Collection → Bool
  | list xs => xs.isEmpty
  | pair _ _ => false
  | set ks => ks.isEmpty
  | map _ es => es.isEmpty

def list? : Collection → Option (List Value)
  | list items => some items
  | _ => none

def map? : Collection → Option (List (Key × Value))
  | map _ es => some es
  | _ => none

/-- What stands for a collection inside itself. -/
def ellipsis : Collection → String
  | list _ => "[...]"
  | pair _ _ => "(...)"
  | set _ => "set(...)"
  | map false _ => "\x7b...\x7d"
  | map true _ => "..."

/-- The textual form of a collection, where `inspect` gives those of the values in it. -/
def inspectWith (inspect : Value → Option String) : Collection → Option String
  | list xs => do return "[" ++ Key.commas (← xs.mapM inspect) ++ "]"
  | pair x y => do return "(" ++ Key.commas [← inspect x, ← inspect y] ++ ")"
  | set [] => some "set()"
  | set ks => do return "\x7b" ++ Key.commas (← ks.mapM Key.inspect?) ++ "\x7d"
  | map false es => do
    let pieces ← es.mapM fun e => do return (← e.1.inspect?) ++ ": " ++ (← inspect e.2)
    return "\x7b" ++ Key.commas pieces ++ "\x7d"
  | map true [] => some "ordereddict()"
  | map true es => do
    let pieces ← es.mapM fun e => do
      return "(" ++ (← e.1.inspect?) ++ ", " ++ (← inspect e.2) ++ ")"
    return "ordereddict([" ++ Key.commas pieces ++ "])"

end Collection

namespace Graph

variable (g : Graph)

/-- The collection at a place. All places of a graph that is read have one. -/
def collection (place : Nat) : Collection := g.collections[place]?.getD (.list [])

def isTrue : Value → Bool
  | .key k => k.isTrue
  | .collection place => !(g.collection place).isEmpty

def list? : Value → Option (List Value)
  | .key _ => none
  | .collection place => (g.collection place).list?

def map? : Value → Option (List (Key × Value))
  | .key _ => none
  | .collection place => (g.collection place).map?

def placesOutside (around : List Nat) : List Nat :=
  (List.range g.collections.length).filter (· ∉ around)

theorem length_placesOutside_cons_lt {around : List Nat} {place : Nat}
    (isOutside : place ∈ g.placesOutside around) :
    (g.placesOutside (place :: around)).length < (g.placesOutside around).length := by
  have others : g.placesOutside (place :: around) =
      (g.placesOutside around).filter (· ≠ place) := by
    simp [placesOutside, List.filter_filter]
  rw [others]
  exact List.length_filter_lt_length_iff_exists.mpr ⟨place, isOutside, by simp⟩

/-- The textual form of a value inside the collections at the places `around`, if there is one. A
collection inside itself is left out. -/
def inspect? (around : List Nat) : Value → Option String
  | .key k => k.inspect?
  | .collection place =>
    if _ : place ∈ g.placesOutside around then
      (g.collection place).inspectWith fun v => inspect? (place :: around) v
    else some (g.collection place).ellipsis
termination_by (g.placesOutside around).length
decreasing_by exact g.length_placesOutside_cons_lt ‹_›

def display? : Value → Option String
  | .key k => k.display?
  | v => g.inspect? [] v

end Graph

end DocPress.Yaml
