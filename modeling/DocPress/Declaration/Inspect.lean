import DocPress.Declaration
import DocPress.Text.Quoted

/-! # The textual form of types and declarations

Messages show the type or reference that they are about in full. A record is written as
`Name(field=value, ...)` with all its fields, a list as `()`, `(a,)` or `(a, b)`, an absent value as
`None`. -/

set_option autoImplicit false

namespace DocPress

namespace Inspect

def record (name : String) (fields : List (String × String)) : String :=
  name ++ "(" ++ ", ".intercalate (fields.map fun f => f.1 ++ "=" ++ f.2) ++ ")"

def tuple : List String → String
  | [x] => "(" ++ x ++ ",)"
  | xs => "(" ++ ", ".intercalate xs ++ ")"

def bool (b : Bool) : String := if b then "True" else "False"

def optional : Option Data → String
  | none => "None"
  | some d => d.inspect

def kindName : DeclKind → String
  | .moduleDecl => "MODULE"
  | .namespaceDecl => "NAMESPACE"
  | .variableDecl => "VARIABLE"
  | .functionDecl => "FUNCTION"
  | .classDecl => "CLASS"
  | .interfaceDecl => "INTERFACE"
  | .constructorDecl => "CONSTRUCTOR"
  | .propertyDecl => "PROPERTY"
  | .methodDecl => "METHOD"
  | .parameterDecl => "PARAMETER"
  | .typeLiteralDecl => "TYPE_LITERAL"
  | .accessorDecl => "ACCESSOR"
  | .typeAliasDecl => "TYPE_ALIAS"

def kind (k : DeclKind) : String :=
  "<SymbolKind." ++ kindName k ++ ": " ++ Numeral.ofNat k.code ++ ">"

def literal : Literal → String
  | .null => "None"
  | .bool b => bool b
  | .int n => Numeral.ofInt n
  | .float x => x.text
  | .text s => Text.quoted s

def modifiers (m : Modifiers) : String :=
  record "Flags"
    [("optional", bool m.isOptional), ("static", bool m.isStatic), ("public", bool m.isPublic),
     ("private", bool m.isPrivate), ("protected", bool m.isProtected),
     ("external", bool m.isExternal)]

def tagSet (s : TagSet) : String :=
  match s.tags.map Text.quoted ++ s.others.map Data.inspect with
  | [] => "frozenset()"
  | members => "frozenset(\x7b" ++ ", ".intercalate members ++ "\x7d)"

def parts (ps : List CommentPart) : String :=
  tuple (ps.map fun p =>
    record "CommentPart" [("kind", p.kind.inspect), ("text", p.text.inspect)])

def comment (c : DocComment) : String :=
  record "Comment"
    [("summary", parts c.summary),
     ("block_tags", tuple (c.blockTags.map fun b =>
        record "BlockTag" [("tag", b.tag.inspect), ("content", parts b.content)])),
     ("modifier_tags", tagSet c.modifierTags)]

def optionalComment : Option DocComment → String
  | none => "None"
  | some c => comment c

def origin : Option Origin → String
  | none => "None"
  | some o => record "SymbolRef" [("source_path", optional o.sourcePath)]

end Inspect

open Inspect

mutual
def TypeExpr.inspect : TypeExpr → String
  | .primitive name => record "Primitive" [("name", name.inspect)]
  | .literal value => record "LiteralValue" [("value", Inspect.literal value)]
  | .template head spans =>
    record "TemplateLiteral"
      [("head", head.inspect), ("spans", tuple (TypeExpr.inspectSpans spans))]
  | .union members => record "Union" [("members", tuple (TypeExpr.inspectAll members))]
  | .array element => record "ArrayOf" [("element", element.inspect)]
  | .tuple elements => record "TupleOf" [("elements", tuple (TypeExpr.inspectAll elements))]
  | .reference ref => ref.inspect
  | .object fields => record "InlineObject" [("fields", tuple (Declaration.inspectAll fields))]
  | .callable parameters result =>
    record "CallableSignature"
      [("params", tuple (Declaration.inspectAll parameters)), ("returns", result.inspect)]
  | .other tag => record "OpaqueType" [("kind", Text.quoted tag)]

def Reference.inspect : Reference → String
  | ⟨name, package, qualifiedName, arguments, target⟩ =>
    record "Reference"
      [("name", name.inspect), ("package", optional package),
       ("qualified_name", optional qualifiedName),
       ("type_arguments", tuple (TypeExpr.inspectAll arguments)), ("target", origin target)]

def Declaration.inspect : Declaration → String
  | ⟨name, kind, modifiers, comment, type, signatures, getter, children, sourcePath,
      defaultValue⟩ =>
    record "Symbol"
      [("name", name.inspect), ("kind", Inspect.kind kind),
       ("flags", Inspect.modifiers modifiers), ("comment", optionalComment comment),
       ("type", TypeExpr.inspectOptional type),
       ("signatures", tuple (CallSignature.inspectAll signatures)),
       ("get_signature", CallSignature.inspectOptional getter),
       ("children", tuple (Declaration.inspectAll children)),
       ("source_path", optional sourcePath), ("default_value", optional defaultValue)]

def CallSignature.inspect : CallSignature → String
  | ⟨name, parameters, result, comment⟩ =>
    record "Signature"
      [("name", name.inspect), ("parameters", tuple (Declaration.inspectAll parameters)),
       ("returns", TypeExpr.inspectOptional result), ("comment", optionalComment comment)]

def TypeExpr.inspectAll : List TypeExpr → List String
  | [] => []
  | t :: ts => t.inspect :: TypeExpr.inspectAll ts

def TypeExpr.inspectSpans : List (TypeExpr × Data) → List String
  | [] => []
  | (t, s) :: spans => tuple [t.inspect, s.inspect] :: TypeExpr.inspectSpans spans

def TypeExpr.inspectOptional : Option TypeExpr → String
  | none => "None"
  | some t => t.inspect

def Declaration.inspectAll : List Declaration → List String
  | [] => []
  | d :: ds => d.inspect :: Declaration.inspectAll ds

def CallSignature.inspectAll : List CallSignature → List String
  | [] => []
  | s :: ss => s.inspect :: CallSignature.inspectAll ss

def CallSignature.inspectOptional : Option CallSignature → String
  | none => "None"
  | some s => s.inspect
end

end DocPress
