import DocPress.Binary64
import DocPress.Text.Quoted

/-! # Plain data

What a JSON document holds: nothing, a truth value, a number, a text, a list, or a map from texts to
values in the order in which they were written. Whole numbers and floating-point numbers are kept
apart, and whole numbers have any size.

Two values are equal if they are written alike, up to the spelling of texts and numbers; this is
decidable. A text can stand for the value that it is.

* `isTrue`: whether a value counts as present. Nothing, `false`, zeros, and empty texts, lists and
  maps do not.
* `field?`: the value at a key of a map.
* `text?`: the text that a value is.
* `display`: the textual form of a value, a text standing for itself; `inspect` is the form of a
  value inside a list or a map, where a text is quoted. -/

set_option autoImplicit false

namespace DocPress

inductive Data where
  | null
  | bool (value : Bool)
  | int (value : Int)
  | float (value : Binary64)
  | text (value : String)
  | list (items : List Data)
  | map (entries : List (String × Data))
deriving Inhabited

namespace Data

instance : Coe String Data := ⟨text⟩

/-! ## Equality -/

mutual
def equals : Data → Data → Bool
  | null, null => true
  | bool a, bool b => a = b
  | int a, int b => a = b
  | float a, float b => a = b
  | text a, text b => a = b
  | list as, list bs => equalItems as bs
  | map as, map bs => equalEntries as bs
  | _, _ => false

def equalItems : List Data → List Data → Bool
  | [], [] => true
  | a :: as, b :: bs => equals a b && equalItems as bs
  | _, _ => false

def equalEntries : List (String × Data) → List (String × Data) → Bool
  | [], [] => true
  | (k, a) :: as, (l, b) :: bs => decide (k = l) && equals a b && equalEntries as bs
  | _, _ => false
end

mutual
theorem equals_iff : ∀ {a b : Data}, equals a b = true ↔ a = b
  | null, b => by cases b <;> simp [equals]
  | bool a, b => by cases b <;> simp [equals]
  | int a, b => by cases b <;> simp [equals]
  | float a, b => by cases b <;> simp [equals]
  | text a, b => by cases b <;> simp [equals]
  | list as, b => by cases b <;> simp [equals, equalItems_iff]
  | map as, b => by cases b <;> simp [equals, equalEntries_iff]

theorem equalItems_iff : ∀ {as bs : List Data}, equalItems as bs = true ↔ as = bs
  | [], bs => by cases bs <;> simp [equalItems]
  | a :: as, bs => by cases bs <;> simp [equalItems, equals_iff, equalItems_iff]

theorem equalEntries_iff : ∀ {as bs : List (String × Data)},
    equalEntries as bs = true ↔ as = bs
  | [], bs => by cases bs <;> simp [equalEntries]
  | (k, a) :: as, bs => by
    rcases bs with _ | ⟨⟨l, b⟩, bs⟩
    · simp [equalEntries]
    · simp [equalEntries, equals_iff, equalEntries_iff, and_assoc]
end

instance : DecidableEq Data := fun a b => decidable_of_iff (equals a b = true) equals_iff

/-! ## Parts -/

/-- Whether a value counts as present. -/
def isTrue : Data → Bool
  | null => false
  | bool b => b
  | int n => n ≠ 0
  | float x => !x.isZero
  | text s => s ≠ ""
  | list xs => !xs.isEmpty
  | map es => !es.isEmpty

def field? (key : String) : Data → Option Data
  | map es => es.lookup key
  | _ => none

def text? : Data → Option String
  | text s => some s
  | _ => none

/-- The whole number that a value equals. -/
def toInt? : Data → Option Int
  | bool b => some (if b then 1 else 0)
  | int n => some n
  | float x => x.toInt?
  | _ => none

/-- Whether a value can be looked up or be the member of a set. -/
def isKey : Data → Bool
  | list _ | map _ => false
  | _ => true

def isIn (texts : List String) (d : Data) : Bool := d.text?.any texts.contains

/-- The value at a key if it counts as present. -/
def present? (key : String) (d : Data) : Option Data :=
  (d.field? key).filter isTrue

/-! ## Textual forms -/

mutual
/-- The textual form of a value inside a list or a map. -/
def inspect : Data → String
  | null => "None"
  | bool b => if b then "True" else "False"
  | int n => Numeral.ofInt n
  | float x => x.text
  | text s => Text.quoted s
  | list xs => "[" ++ ", ".intercalate (inspectItems xs) ++ "]"
  | map es => "\x7b" ++ ", ".intercalate (inspectEntries es) ++ "\x7d"

def inspectItems : List Data → List String
  | [] => []
  | x :: xs => x.inspect :: inspectItems xs

def inspectEntries : List (String × Data) → List String
  | [] => []
  | (k, v) :: es => (Text.quoted k ++ ": " ++ v.inspect) :: inspectEntries es
end

/-- The textual form of a value that stands alone. -/
def display : Data → String
  | text s => s
  | d => d.inspect

end Data

end DocPress
