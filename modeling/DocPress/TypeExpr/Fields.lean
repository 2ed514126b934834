import DocPress.Declaration

/-! # The fields nested in a type

A page documents every field that is reached through a type: the visible fields of an object type,
each followed by the fields reached through its own type, one level deeper. Unions, arrays and type
arguments are passed through without a new level, and an array adds `[]` to the path.

A field is told apart from others by its `Place`, the way that leads to it in the tree of
declarations. Two fields at different places are different even if they look alike. -/

set_option autoImplicit false

namespace DocPress

inductive Step where
  /-- To a declaration of a unit, a member of a declaration, or a field of an object type. -/
  | child (index : Nat)
  | type
  | getter
  /-- From a type to a member of a union, or to a type argument. -/
  | part (index : Nat)
  | element
deriving DecidableEq

/-- The way from a unit down to a declaration or a type, the last step first. -/
abbrev Place := List Step

/-- A field that is documented: its level of nesting, the dotted path that leads to it, its place,
and the field. -/
structure FieldEntry where
  depth : Nat
  path : String
  place : Place
  field : Declaration

namespace TypeExpr

/-- The generic types of the language from keys to values, whose values are documented under
`[]`. -/
def dictionaries : List String := ["Record", "Map", "ReadonlyMap"]

/-- Whether a reference is one to a dictionary type. A name that is no text is that of none. -/
def isDictionary (package : Option Data) (name : Data) : Bool :=
  package = some (.text "typescript") && name.isIn dictionaries

end TypeExpr

mutual
def TypeExpr.fields (place : Place) (path : String) (depth : Nat) : TypeExpr → List FieldEntry
  | .union members => TypeExpr.fieldsOfParts place path depth 0 members
  | .array element => element.fields (.element :: place) (path ++ "[]") depth
  | .reference ref => ref.fields place path depth
  | .object fields => Declaration.fieldsOf place path depth 0 fields
  | .primitive _ => []
  | .literal _ => []
  | .template _ _ => []
  | .tuple _ => []
  | .callable _ _ => []
  | .other _ => []

def Reference.fields (place : Place) (path : String) (depth : Nat) :
    Reference → List FieldEntry
  | ⟨name, package, _, arguments, _⟩ =>
    if TypeExpr.isDictionary package name then
      TypeExpr.fieldsOfDictionary place path depth 0 arguments
    else TypeExpr.fieldsOfParts place path depth 0 arguments

/-- The fields reached through several types; `index` is the number of those before them. -/
def TypeExpr.fieldsOfParts (place : Place) (path : String) (depth index : Nat) :
    List TypeExpr → List FieldEntry
  | [] => []
  | t :: ts =>
    t.fields (.part index :: place) path depth
      ++ TypeExpr.fieldsOfParts place path depth (index + 1) ts

/-- The fields reached through the type arguments of a dictionary, of which the last is that of the
values. -/
def TypeExpr.fieldsOfDictionary (place : Place) (path : String) (depth index : Nat) :
    List TypeExpr → List FieldEntry
  | [] => []
  | [t] => t.fields (.part index :: place) (path ++ "[]") depth
  | t :: ts =>
    t.fields (.part index :: place) path depth
      ++ TypeExpr.fieldsOfDictionary place path depth (index + 1) ts

/-- The entries of fields that are not hidden, each followed by those nested in it. -/
def Declaration.fieldsOf (place : Place) (path : String) (depth index : Nat) :
    List Declaration → List FieldEntry
  | [] => []
  | d :: ds =>
    (if d.isHidden then []
      else
        ⟨depth, path, .child index :: place, d⟩
          :: d.nestedFields (.child index :: place) (path ++ "." ++ d.name.display) (depth + 1))
      ++ Declaration.fieldsOf place path depth (index + 1) ds

def Declaration.nestedFields (place : Place) (path : String) (depth : Nat) :
    Declaration → List FieldEntry
  | ⟨_, kind, _, _, type, _, getter, _, _, _⟩ =>
    match kind with
    | .propertyDecl => TypeExpr.fieldsOfOptional (.type :: place) path depth type
    | .accessorDecl =>
      match getter with
      | some ⟨_, _, result, _⟩ => TypeExpr.fieldsOfOptional (.getter :: place) path depth result
      | none => []
    | _ => []

def TypeExpr.fieldsOfOptional (place : Place) (path : String) (depth : Nat) :
    Option TypeExpr → List FieldEntry
  | none => []
  | some t => t.fields place path depth
end

end DocPress
