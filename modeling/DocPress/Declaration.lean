import DocPress.Comment

/-! # Declarations and types

The documented declarations of a program and the types that they are declared with. The two hold
each other: a declaration has a type, and an object or function type has declarations.

Names and paths are texts in all documents but malformed ones; they are kept as the document has
them, and shown in their textual form.

* `DeclKind`: the kinds of declarations that are documented.
* `TypeExpr`, `Reference`, `Declaration`, `CallSignature`: the trees.
* `DocUnit`: the declarations of one source module, documented together. -/

set_option autoImplicit false

namespace DocPress

inductive DeclKind where
  | moduleDecl
  | namespaceDecl
  | variableDecl
  | functionDecl
  | classDecl
  | interfaceDecl
  | constructorDecl
  | propertyDecl
  | methodDecl
  | parameterDecl
  | typeLiteralDecl
  | accessorDecl
  | typeAliasDecl
deriving DecidableEq

namespace DeclKind

def all : List DeclKind :=
  [moduleDecl, namespaceDecl, variableDecl, functionDecl, classDecl, interfaceDecl,
   constructorDecl, propertyDecl, methodDecl, parameterDecl, typeLiteralDecl, accessorDecl,
   typeAliasDecl]

def code : DeclKind → Nat
  | moduleDecl => 2
  | namespaceDecl => 4
  | variableDecl => 32
  | functionDecl => 64
  | classDecl => 128
  | interfaceDecl => 256
  | constructorDecl => 512
  | propertyDecl => 1024
  | methodDecl => 2048
  | parameterDecl => 32768
  | typeLiteralDecl => 65536
  | accessorDecl => 262144
  | typeAliasDecl => 2097152

def ofCode? (n : Int) : Option DeclKind := all.find? fun k => (k.code : Int) = n

theorem ofCode?_code (k : DeclKind) : ofCode? k.code = some k := by
  cases k <;> rfl

end DeclKind

structure Modifiers where
  isOptional : Bool := false
  isStatic : Bool := false
  isPublic : Bool := false
  isPrivate : Bool := false
  isProtected : Bool := false
  isExternal : Bool := false
deriving DecidableEq

inductive Literal where
  | null
  | bool (value : Bool)
  | int (value : Int)
  | float (value : Binary64)
  | text (value : String)
deriving DecidableEq

/-- Where the target of a reference is declared: a file of the project, or a file below
`node_modules` for a target of another package. -/
structure Origin where
  sourcePath : Option Data
deriving DecidableEq

mutual
inductive TypeExpr where
  | primitive (name : Data)
  | literal (value : Literal)
  /-- A template text: each span is an interpolated type and the text after it. -/
  | template (head : Data) (spans : List (TypeExpr × Data))
  | union (members : List TypeExpr)
  | array (element : TypeExpr)
  | tuple (elements : List TypeExpr)
  | reference (ref : Reference)
  | object (fields : List Declaration)
  | callable (parameters : List Declaration) (result : TypeExpr)
  /-- A type of a form that has no rendering, known by its tag only. -/
  | other (tag : String)

/-- A named reference to another declaration, with type arguments. -/
structure Reference where
  name : Data
  package : Option Data
  qualifiedName : Option Data
  arguments : List TypeExpr
  target : Option Origin

structure Declaration where
  name : Data
  kind : DeclKind
  modifiers : Modifiers
  comment : Option DocComment
  type : Option TypeExpr
  signatures : List CallSignature
  getter : Option CallSignature
  children : List Declaration
  sourcePath : Option Data
  defaultValue : Option Data

/-- A signature that a function, method, constructor or accessor is called with. -/
structure CallSignature where
  name : Data
  parameters : List Declaration
  result : Option TypeExpr
  comment : Option DocComment
end

def Reference.sourcePath (r : Reference) : Option Data := r.target.bind Origin.sourcePath

namespace Declaration

/-- Whether the own comment of a declaration hides it. -/
def isHidden (d : Declaration) : Bool := d.comment.any DocComment.hides

def childrenOfKind (d : Declaration) (k : DeclKind) : List Declaration :=
  d.children.filter fun c => c.kind = k

/-- The name as it is shown: an optional declaration has a question mark after it. -/
def displayName (d : Declaration) : String :=
  d.name.display ++ (if d.modifiers.isOptional then "?" else "")

/-- The type that a declaration is documented with: that of its getter if it is an accessor with
one, and its own type otherwise. -/
def declaredType? (d : Declaration) : Option TypeExpr :=
  match d.kind, d.getter with
  | .accessorDecl, some g => g.result
  | _, _ => d.type

/-- The type whose fields are nested under a declaration that is itself a field: the result of the
first signature of a method, the result of the getter of an accessor, and the own type of any other
declaration. -/
def nestedType? (d : Declaration) : Option TypeExpr :=
  match d.kind with
  | .methodDecl => d.signatures.head?.bind CallSignature.result
  | .accessorDecl => d.getter.bind CallSignature.result
  | _ => d.type

end Declaration

/-- The declarations of one source module. -/
structure DocUnit where
  name : Data
  declarations : List Declaration
  sourcePath : Option Data
  comment : Option DocComment

namespace DocUnit

def ofKind (u : DocUnit) (k : DeclKind) : List Declaration :=
  u.declarations.filter fun d => d.kind = k

def interfaces (u : DocUnit) : List Declaration := u.ofKind .interfaceDecl

def interface? (u : DocUnit) (name : Data) : Option Declaration :=
  u.interfaces.find? fun i => i.name = name

/-- The functions whose first signature is not marked as internal. -/
def functions (u : DocUnit) : List Declaration :=
  (u.ofKind .functionDecl).filter fun f =>
    !(f.signatures.head?.bind CallSignature.comment).any DocComment.isInternal

def class? (u : DocUnit) : Option Declaration := (u.ofKind .classDecl).head?

/-- The first namespace of a unit as a unit of its own, or the unit itself when it has none. A
namespace without a source file is taken to be in the file of the unit. -/
def innermost (u : DocUnit) : DocUnit :=
  match (u.ofKind .namespaceDecl).head? with
  | none => u
  | some n =>
    { name := n.name
      declarations := n.children
      sourcePath := (n.sourcePath.filter Data.isTrue).or u.sourcePath
      comment := n.comment }

end DocUnit

end DocPress
