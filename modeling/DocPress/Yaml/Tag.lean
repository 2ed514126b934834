/-! # Versions and tags

A tag says what kind of value a node has. The standard tags belong to the kinds of values that are
known; of all other tags nothing is known but that they are no standard ones. -/

set_option autoImplicit false

namespace DocPress.Yaml

/-- The versions of the format. They differ in how plain scalars are read, and in where the colon
and the question mark are part of one. -/
inductive Version where
  | v1_1
  | v1_2
deriving DecidableEq

/-- The kind of value that a node has. -/
inductive Tag where
  | null
  | bool
  | int
  | float
  | text
  | timestamp
  | binary
  | list
  | map
  | set
  | orderedMap
  | pairs
  /-- The tag of a key whose value is merged into a map. -/
  | merge
  /-- The tag of the key at which a map has its own value. -/
  | default
  | unknown
deriving DecidableEq

namespace Tag

def standardFront : String := "tag:yaml.org,2002:"

/-- The standard tags by the ends of their names. -/
def standard : List (String × Tag) :=
  [("null", null), ("bool", bool), ("int", int), ("float", float), ("str", text),
   ("timestamp", timestamp), ("binary", binary), ("seq", list), ("map", map), ("set", set),
   ("omap", orderedMap), ("pairs", pairs), ("merge", merge), ("value", default)]

def ofName (name : String) : Tag :=
  ((standard.find? fun t => standardFront ++ t.1 = name).map Prod.snd).getD unknown

/-- The name of the tag that leaves the kind of a node open. -/
def nonspecific : String := "!"

end Tag

end DocPress.Yaml
