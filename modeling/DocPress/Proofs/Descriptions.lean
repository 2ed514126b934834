import DocPress.Declaration

/-! # Descriptions of declarations

A reflection document describes a declaration by an object of what is known of it. This module
defines the description of a declaration, with those of the types, signatures and comments that it
holds, and says what stands at each key.

* `Declaration.document`, `TypeExpr.document`: the description of a declaration and of a type.
* `Declaration.Describable`: the declarations that a document can describe.
* `DocUnit.project`: the document of several units. -/

set_option autoImplicit false

namespace DocPress

/-! ## Parts without types -/

namespace Data

/-- The map of those values that there are. -/
def ofEntries (entries : List (String × Option Data)) : Data :=
  .map (entries.filterMap fun e => e.2.map (Prod.mk e.1))

@[simp] theorem field?_ofEntries_nil {key : String} : (ofEntries []).field? key = none := rfl

@[simp] theorem field?_ofEntries_cons {key k : String} {v : Option Data}
    {entries : List (String × Option Data)} : (ofEntries ((k, v) :: entries)).field? key =
      if key = k then v.or ((ofEntries entries).field? key)
      else (ofEntries entries).field? key := by
  cases v with
  | none => simp [ofEntries, field?]
  | some v =>
    by_cases isKey : key = k
    · simp [ofEntries, field?, isKey]
    · have other : (key == k) = false := by simpa using isKey
      simp [ofEntries, field?, List.lookup_cons, isKey, other]

end Data

namespace CommentPart

def document (p : CommentPart) : Data := .map [("kind", p.kind), ("text", p.text)]

end CommentPart

namespace BlockTag

def document (b : BlockTag) : Data :=
  .map [("tag", b.tag), ("content", .list (b.content.map CommentPart.document))]

end BlockTag

namespace DocComment

def document (c : DocComment) : Data :=
  .map
    [("summary", .list (c.summary.map CommentPart.document)),
      ("blockTags", .list (c.blockTags.map BlockTag.document)),
      ("modifierTags", .list (c.modifierTags.tags.map .text ++ c.modifierTags.others))]

end DocComment

namespace Modifiers

/-- The mark of a modifier that is set. -/
def mark (isSet : Bool) : Option Data := if isSet then some (.bool true) else none

def document (m : Modifiers) : Data :=
  .ofEntries
    [("isOptional", mark m.isOptional), ("isStatic", mark m.isStatic),
      ("isPublic", mark m.isPublic), ("isPrivate", mark m.isPrivate),
      ("isProtected", mark m.isProtected), ("isExternal", mark m.isExternal)]

end Modifiers

namespace Literal

/-- The description of the value of a literal type. -/
def document : Literal → Data
  | null => .null
  | bool b => .bool b
  | int n => .int n
  | float x => .float x
  | text s => .text s

end Literal

def Origin.document (o : Origin) : Data := .ofEntries [("sourceFileName", o.sourcePath)]

def Data.sourcesOf (path : Data) : Data := .list [.map [("fileName", path)]]

/-! ## Types, signatures and declarations -/

mutual
def TypeExpr.document : TypeExpr → Data
  | .primitive name => .map [("type", "intrinsic"), ("name", name)]
  | .literal l => .map [("type", "literal"), ("value", l.document)]
  | .template head spans =>
    .map [("type", "templateLiteral"), ("head", head),
      ("tail", .list (TypeExpr.spanDocuments spans))]
  | .union members => .map [("type", "union"), ("types", .list (TypeExpr.documents members))]
  | .array element => .map [("type", "array"), ("elementType", element.document)]
  | .tuple elements => .map [("type", "tuple"), ("elements", .list (TypeExpr.documents elements))]
  | .reference r => r.document
  | .object fields =>
    .map
      [("type", "reflection"),
        ("declaration", .map [("children", .list (Declaration.documents fields))])]
  | .callable parameters result =>
    .map
      [("type", "reflection"),
        ("declaration", .map [("signatures", .list [.map
          [("name", "__type"), ("parameters", .list (Declaration.documents parameters)),
            ("type", result.document)]])])]
  | .other tag => .map [("type", tag)]

def Reference.document : Reference → Data
  | ⟨name, package, qualifiedName, arguments, target⟩ =>
    .ofEntries
      [("type", some "reference"), ("name", some name), ("package", package),
        ("qualifiedName", qualifiedName),
        ("typeArguments", some (.list (TypeExpr.documents arguments))),
        ("target", target.map Origin.document)]

def Declaration.document : Declaration → Data
  | ⟨name, kind, modifiers, comment, type, signatures, getter, children, sourcePath,
      defaultValue⟩ =>
    .ofEntries
      [("name", some name), ("kind", some (.int kind.code)), ("flags", some modifiers.document),
        ("comment", comment.map DocComment.document),
        -- `Option.map` would hide that the type is a part of the declaration
        ("type", match type with | none => none | some t => some t.document),
        ("signatures", some (.list (CallSignature.documents signatures))),
        ("getSignature", match getter with | none => none | some g => some g.document),
        ("children", some (.list (Declaration.documents children))),
        ("sources", sourcePath.map Data.sourcesOf), ("defaultValue", defaultValue)]

def CallSignature.document : CallSignature → Data
  | ⟨name, parameters, result, comment⟩ =>
    .ofEntries
      [("name", some name), ("parameters", some (.list (Declaration.documents parameters))),
        ("type", match result with | none => none | some t => some t.document),
        ("comment", comment.map DocComment.document)]

def TypeExpr.documents : List TypeExpr → List Data
  | [] => []
  | t :: ts => t.document :: TypeExpr.documents ts

def TypeExpr.spanDocuments : List (TypeExpr × Data) → List Data
  | [] => []
  | (t, s) :: spans => .list [t.document, s] :: TypeExpr.spanDocuments spans

def Declaration.documents : List Declaration → List Data
  | [] => []
  | d :: ds => d.document :: Declaration.documents ds

def CallSignature.documents : List CallSignature → List Data
  | [] => []
  | s :: ss => s.document :: CallSignature.documents ss
end

namespace TypeExpr

theorem documents_eq_map (ts : List TypeExpr) : documents ts = ts.map document := by
  induction ts with
  | nil => rfl
  | cons t ts inductionHypothesis => rw [documents, inductionHypothesis, List.map_cons]

theorem spanDocuments_eq_map (spans : List (TypeExpr × Data)) :
    spanDocuments spans = spans.map fun span => .list [span.1.document, span.2] := by
  induction spans with
  | nil => rfl
  | cons span spans inductionHypothesis =>
    obtain ⟨t, s⟩ := span
    rw [spanDocuments, inductionHypothesis, List.map_cons]

theorem isTrue_document (t : TypeExpr) : t.document.isTrue = true := by
  cases t with
  | reference r =>
    cases r
    rfl
  | _ => rfl

end TypeExpr

theorem Reference.document_eq (r : Reference) : r.document =
    .ofEntries
      [("type", some "reference"), ("name", some r.name), ("package", r.package),
        ("qualifiedName", r.qualifiedName),
        ("typeArguments", some (.list (TypeExpr.documents r.arguments))),
        ("target", r.target.map Origin.document)] := by
  cases r
  rfl

theorem Reference.fields_document (r : Reference) :
    r.document.field? "type" = some (.text "reference") ∧
      r.document.field? "name" = some r.name ∧ r.document.field? "package" = r.package ∧
      r.document.field? "qualifiedName" = r.qualifiedName ∧
      r.document.field? "typeArguments" = some (.list (TypeExpr.documents r.arguments)) ∧
      r.document.field? "target" = r.target.map Origin.document := by
  simp [document_eq]

namespace CallSignature

theorem documents_eq_map (ss : List CallSignature) : documents ss = ss.map document := by
  induction ss with
  | nil => rfl
  | cons s ss inductionHypothesis => rw [documents, inductionHypothesis, List.map_cons]

theorem document_eq (s : CallSignature) : s.document =
    .ofEntries
      [("name", some s.name), ("parameters", some (.list (Declaration.documents s.parameters))),
        ("type", s.result.map TypeExpr.document),
        ("comment", s.comment.map DocComment.document)] := by
  obtain ⟨name, parameters, _ | result, comment⟩ := s <;> rfl

theorem fields_document (s : CallSignature) :
    s.document.field? "name" = some s.name ∧
      s.document.field? "parameters" = some (.list (Declaration.documents s.parameters)) ∧
      s.document.field? "type" = s.result.map TypeExpr.document ∧
      s.document.field? "comment" = s.comment.map DocComment.document := by
  simp [document_eq]

end CallSignature

namespace Declaration

theorem documents_eq_map (ds : List Declaration) : documents ds = ds.map document := by
  induction ds with
  | nil => rfl
  | cons d ds inductionHypothesis => rw [documents, inductionHypothesis, List.map_cons]

theorem document_eq (d : Declaration) : d.document =
    .ofEntries
      [("name", some d.name), ("kind", some (.int d.kind.code)),
        ("flags", some d.modifiers.document), ("comment", d.comment.map DocComment.document),
        ("type", d.type.map TypeExpr.document),
        ("signatures", some (.list (CallSignature.documents d.signatures))),
        ("getSignature", d.getter.map CallSignature.document),
        ("children", some (.list (documents d.children))),
        ("sources", d.sourcePath.map Data.sourcesOf), ("defaultValue", d.defaultValue)] := by
  obtain ⟨name, kind, modifiers, comment, _ | type, signatures, _ | getter, children, sourcePath,
    defaultValue⟩ := d <;> rfl

theorem fields_document (d : Declaration) :
    d.document.field? "name" = some d.name ∧
      d.document.field? "kind" = some (.int d.kind.code) ∧
      d.document.field? "flags" = some d.modifiers.document ∧
      d.document.field? "comment" = d.comment.map DocComment.document ∧
      d.document.field? "type" = d.type.map TypeExpr.document ∧
      d.document.field? "signatures" = some (.list (CallSignature.documents d.signatures)) ∧
      d.document.field? "getSignature" = d.getter.map CallSignature.document ∧
      d.document.field? "children" = some (.list (documents d.children)) ∧
      d.document.field? "sources" = d.sourcePath.map Data.sourcesOf ∧
      d.document.field? "defaultValue" = d.defaultValue := by
  simp [document_eq]

end Declaration

/-! ## Declarations that can be described -/

/-- The tags of the types that have a form of their own. -/
def TypeExpr.formTags : List String :=
  ["intrinsic", "literal", "templateLiteral", "union", "array", "tuple", "reference", "reflection"]

mutual
/-- The types that a document can describe. What stands for a type without a form is its tag, so
that it is not the tag of a form. -/
inductive TypeExpr.Describable : TypeExpr → Prop where
  | primitive {name : Data} : TypeExpr.Describable (.primitive name)
  | literal {l : Literal} : TypeExpr.Describable (.literal l)
  | template {head : Data} {spans : List (TypeExpr × Data)}
      (holes : ∀ t s, (t, s) ∈ spans → t.Describable) : TypeExpr.Describable (.template head spans)
  | union {members : List TypeExpr} (each : ∀ t ∈ members, t.Describable) :
      TypeExpr.Describable (.union members)
  | array {element : TypeExpr} (inner : element.Describable) :
      TypeExpr.Describable (.array element)
  | tuple {elements : List TypeExpr} (each : ∀ t ∈ elements, t.Describable) :
      TypeExpr.Describable (.tuple elements)
  | reference {r : Reference} (inner : r.Describable) : TypeExpr.Describable (.reference r)
  | object {fields : List Declaration} (each : ∀ f ∈ fields, f.Describable) :
      TypeExpr.Describable (.object fields)
  | callable {parameters : List Declaration} {result : TypeExpr}
      (each : ∀ p ∈ parameters, p.Describable) (inner : result.Describable) :
      TypeExpr.Describable (.callable parameters result)
  | other {tag : String} (unknown : tag ∉ TypeExpr.formTags) : TypeExpr.Describable (.other tag)

/-- The references that a document can describe: the target is declared in a file that is known,
or it is unknown. -/
inductive Reference.Describable : Reference → Prop where
  | mk {r : Reference} (package : r.package ≠ some .null)
      (qualifiedName : r.qualifiedName ≠ some .null) (each : ∀ t ∈ r.arguments, t.Describable)
      (target : ∀ o ∈ r.target, ∃ path : String, o.sourcePath = some (.text path)) :
      Reference.Describable r

inductive Declaration.Describable : Declaration → Prop where
  | mk {d : Declaration} (type : ∀ t ∈ d.type, t.Describable)
      (signatures : ∀ s ∈ d.signatures, s.Describable) (getter : ∀ g ∈ d.getter, g.Describable)
      (children : ∀ c ∈ d.children, c.Describable) (sourcePath : d.sourcePath ≠ some .null)
      (defaultValue : d.defaultValue ≠ some .null) : Declaration.Describable d

inductive CallSignature.Describable : CallSignature → Prop where
  | mk {s : CallSignature} (parameters : ∀ p ∈ s.parameters, p.Describable)
      (result : ∀ t ∈ s.result, t.Describable) : CallSignature.Describable s
end

/-! ## Units -/

namespace DocUnit

def document (u : DocUnit) : Data :=
  .ofEntries
    [("name", some u.name), ("kind", some (.int DeclKind.moduleDecl.code)),
      ("comment", u.comment.map DocComment.document),
      ("children", some (.list (Declaration.documents u.declarations))),
      ("sources", u.sourcePath.map Data.sourcesOf)]

def project (units : List DocUnit) : Data := .map [("children", .list (units.map document))]

/-- The units that a document can describe. -/
structure Describable (u : DocUnit) : Prop where
  declarations : ∀ d ∈ u.declarations, d.Describable
  sourcePath : u.sourcePath ≠ some .null

theorem fields_document (u : DocUnit) :
    u.document.field? "name" = some u.name ∧
      u.document.field? "kind" = some (.int 2) ∧
      u.document.field? "comment" = u.comment.map DocComment.document ∧
      u.document.field? "children" = some (.list (Declaration.documents u.declarations)) ∧
      u.document.field? "sources" = u.sourcePath.map Data.sourcesOf := by
  simp [document, DeclKind.code]

end DocUnit

/-! ## What a declaration holds is smaller than the declaration -/

theorem TypeExpr.sizeOf_lt_of_mem_spans {t : TypeExpr} {s : Data}
    {spans : List (TypeExpr × Data)} (isSpan : (t, s) ∈ spans) : sizeOf t < sizeOf spans := by
  have smaller := List.sizeOf_lt_of_mem isSpan
  rw [Prod.mk.sizeOf_spec] at smaller
  omega

namespace Declaration

theorem sizeOf_type_lt {d : Declaration} {t : TypeExpr} (type : t ∈ d.type) :
    sizeOf t < sizeOf d := by
  cases d
  cases type
  simp only [mk.sizeOf_spec, Option.some.sizeOf_spec]
  omega

theorem sizeOf_signature_lt {d : Declaration} {s : CallSignature}
    (isSignature : s ∈ d.signatures) : sizeOf s < sizeOf d := by
  have smaller := List.sizeOf_lt_of_mem isSignature
  cases d
  dsimp only at smaller
  rw [mk.sizeOf_spec]
  omega

theorem sizeOf_getter_lt {d : Declaration} {g : CallSignature} (getter : g ∈ d.getter) :
    sizeOf g < sizeOf d := by
  cases d
  cases getter
  simp only [mk.sizeOf_spec, Option.some.sizeOf_spec]
  omega

theorem sizeOf_child_lt {d c : Declaration} (isChild : c ∈ d.children) : sizeOf c < sizeOf d := by
  have smaller := List.sizeOf_lt_of_mem isChild
  cases d
  dsimp only at smaller
  rw [mk.sizeOf_spec]
  omega

end Declaration

namespace CallSignature

theorem sizeOf_parameter_lt {s : CallSignature} {p : Declaration}
    (isParameter : p ∈ s.parameters) : sizeOf p < sizeOf s := by
  have smaller := List.sizeOf_lt_of_mem isParameter
  cases s
  dsimp only at smaller
  rw [mk.sizeOf_spec]
  omega

theorem sizeOf_result_lt {s : CallSignature} {t : TypeExpr} (result : t ∈ s.result) :
    sizeOf t < sizeOf s := by
  cases s
  cases result
  simp only [mk.sizeOf_spec, Option.some.sizeOf_spec]
  omega

end CallSignature

end DocPress
