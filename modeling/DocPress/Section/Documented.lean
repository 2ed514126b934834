import DocPress.TypeExpr.Fields
import DocPress.TypeExpr.Render

/-! # What documents a declaration

A declaration is documented by its own comment and type, or, if it is a method or an accessor nested
in another, by those of a signature. This module also finds the declarations of a unit together with
their places. -/

set_option autoImplicit false

namespace DocPress

/-- What a section shows of a declaration or signature: its name, comment and type. -/
structure Documented where
  name : Data
  comment : Option DocComment
  type : Option TypeExpr

/-- What documents a signature; its type is that of its result. -/
def CallSignature.documented (s : CallSignature) : Documented := ⟨s.name, s.comment, s.result⟩

namespace Declaration

def documented (d : Declaration) : Documented := ⟨d.name, d.comment, d.declaredType?⟩

/-- What documents a declaration that is nested in another: the first signature of a method, the
getter of an accessor, and the declaration itself otherwise. -/
def documentedNested (d : Declaration) : Documented :=
  match d.kind, d.signatures, d.getter with
  | .methodDecl, s :: _, _ => s.documented
  | .accessorDecl, _, some g => g.documented
  | _, _, _ => d.documented

def hasNested (d : Declaration) : Bool :=
  !(TypeExpr.fieldsOfOptional [] "" 0 d.nestedType?).isEmpty

def located (place : Place) (d : Declaration) : List (Place × Declaration) :=
  d.children.zipIdx.map fun m => (.child m.2 :: place, m.1)

def firstSignature (d : Declaration) : Except Fault CallSignature :=
  match d.signatures with
  | [] => .error (.signatureMissing d.name.display)
  | s :: _ => .ok s

end Declaration

namespace DocUnit

def located (u : DocUnit) : List (Place × Declaration) :=
  u.declarations.zipIdx.map fun d => ([.child d.2], d.1)

def locatedOfKind (u : DocUnit) (k : DeclKind) : List (Place × Declaration) :=
  u.located.filter fun d => d.2.kind = k

def locatedClass (u : DocUnit) : Except Fault (Place × Declaration) :=
  match (u.locatedOfKind .classDecl).head? with
  | some c => .ok c
  | none => .error (.classMissing u.name.display)

def requiredClass (u : DocUnit) : Except Fault Declaration := do return (← u.locatedClass).2

def requiredComment (u : DocUnit) : Except Fault DocComment :=
  match u.comment with
  | some c => .ok c
  | none => .error (.commentMissing u.name.display)

def requiredSource (u : DocUnit) : Except Fault String :=
  match u.sourcePath.filter Data.isTrue with
  | some path => path.required .inspected
  | none => .error (.sourceMissing u.name.display)

end DocUnit

namespace CommentPart

/-- The text of a row of comment parts, whose texts have to be texts. -/
def join (parts : List CommentPart) : Except Fault String :=
  match nonText? parts with
  | some value => .error (.notText value .joined)
  | none => .ok (textOf parts)

end CommentPart

namespace DocComment

def summaryLine (c : DocComment) : Except Fault String := CommentPart.join c.summary

def exampleLines (c : DocComment) : Except Fault (List String) :=
  c.exampleTags.mapM fun b => CommentPart.join b.content

end DocComment

namespace Documented

/-- The fragment of the type: the link that the comment gives, or the type itself. -/
def renderType (unit : DocUnit) (unwrap : Bool) (o : Documented) : Except Fault String :=
  match DocComment.typeLink? o.comment with
  | .error fault => .error fault
  | .ok (some link) => .ok link
  | .ok none => TypeExpr.renderDeclared unit unwrap o.name o.type

/-- The description: the summary of the comment, if it has parts. -/
def description (o : Documented) : Except Fault (List String) :=
  match o.comment with
  | none => .ok []
  | some c => if c.summary.isEmpty then .ok [] else do return [← c.summaryLine]

def examples (o : Documented) : Except Fault (List String) :=
  match o.comment with
  | none => .ok []
  | some c => c.exampleLines

end Documented

end DocPress
