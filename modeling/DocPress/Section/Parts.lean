import DocPress.Anchor
import DocPress.Section
import DocPress.Section.Documented

/-! # The parts of sections

The lines that sections are made of, and the two passes over the fields nested in a type: the list
of links to them, which gives out their anchors, and the sections that the links lead to.

Building a section may fail, and it may give out anchors. The anchors that were given out before a
failure stay given out. -/

set_option autoImplicit false

namespace DocPress

/-- What builds sections: it may fail, and it works on the registry of the anchors of a page. -/
abbrev Compile (α : Type) : Type := ExceptT Fault (StateM (Anchors Place)) α

namespace Compile

def anchor (place : Place) (path : String) (name : Data) : Compile String :=
  fun registry =>
    let (anchor, registry) := registry.assign place path name.display
    (.ok anchor, registry)

end Compile

namespace Section

def typeLines (type : String) : List String :=
  ["<InlineSection>", "**Type** " ++ type, "</InlineSection>"]

def codeSpan (text : String) : String :=
  let bare := Text.replaceChar '`' [] text.toList
  let escaped := Text.replaceChar '\x7d' "&rcub;".toList
    (Text.replaceChar '\x7b' "&lcub;".toList bare)
  Markup.code "primitive" (String.ofList escaped)

/-- The lines on the default value that a comment names: a value if the tag holds a single code
span, and text otherwise. -/
def defaultLines (comment : Option DocComment) : Except Fault (List String) := do
  match comment.bind fun c => c.findTag? "@default" with
  | none => return []
  | some tag =>
    let shown ←
      match tag.content with
      | [⟨.text "code", text⟩] => do pure (codeSpan (← text.required .inspected))
      | content => CommentPart.join content
    return ["", "<InlineSection>", "**Default** " ++ shown, "</InlineSection>"]

def returnLines (unit : DocUnit) (s : CallSignature) : Except Fault (List String) := do
  let type ← s.documented.renderType unit false
  return ["", "<InlineSection>", "**Returns** " ++ type, "</InlineSection>"]

def languageDocs : String :=
  "https://developer.mozilla.org/en-US/docs/Web/JavaScript/Reference/Global_Objects/JSON/"

/-- The types shown for some parameters of global functions in place of their own, by function and
parameter. -/
def parameterTypes : List ((String × String) × String) :=
  [(("$jsonParse", "reviver"),
     Markup.typeLink "JSON.parse reviver" (languageDocs ++ "parse#reviver")),
   (("$jsonStringify", "replacer"),
     Markup.typeLink "JSON.stringify replacer" (languageDocs ++ "stringify#replacer")),
   (("$transform", "resource"), "<code class=\"type\">Component Class</code>"),
   (("$transform", "cb"), "<code class=\"type\">(args, opts, name) => void</code>")]

def parameterType? (owner parameter : Data) : Option String :=
  match owner, parameter with
  | .text owner, .text parameter => parameterTypes.lookup (owner, parameter)
  | _, _ => none

def parameterLines (unit : DocUnit) (owner : Data) (p : Declaration) :
    Except Fault (List String) := do
  let type ←
    match parameterType? owner p.name with
    | some type => .ok type
    | none => p.documented.renderType unit false
  let name ← p.parameterName
  let description ← p.documented.description
  return ("- <p>" ++ Markup.code "key" name ++ " " ++ type ++ "</p>") :: description

def parameterBlock (unit : DocUnit) (owner : Data) (title : String) (s : CallSignature) :
    Except Fault (List String) := do
  if s.parameters.isEmpty then return []
  let lines ← s.parameters.mapM (parameterLines unit owner)
  return ["", "<Section type=\"parameters\">", title] ++ lines.flatten ++ ["</Section>"]

def signatureBlock (shown : String) : List String :=
  ["<Section type=\"signature\">", "```ts", shown, "```", "</Section>"]

/-- What is shown before the name of a method: the name of the class, if it is one of the class
itself. -/
def methodOwner (unit : DocUnit) (method : Declaration) : Except Fault String := do
  if method.modifiers.isStatic then return (← unit.requiredClass).name.display ++ "."
  else return ""

def ofMethod (unit : DocUnit) (method : Declaration) (title : String) (level : Int)
    (anchor parent : Option String) (parametersTitle : String) : Except Fault (List Section) := do
  if method.kind ≠ .methodDecl then return []
  let s ← method.firstSignature
  let owner ← methodOwner unit method
  let shown ← s.render
  let parameters ← parameterBlock unit method.name parametersTitle s
  let returns ← returnLines unit s
  let description ← s.documented.description
  let examples ← s.documented.examples
  let body :=
    ["<Segment>"] ++ signatureBlock (owner ++ shown) ++ parameters ++ returns ++ description
      ++ [""] ++ examples ++ ["</Segment>"]
  return [{ title, level, body, anchor, parent }]

def methodTitle (method : Declaration) : String :=
  (if method.modifiers.isStatic then "static " else "") ++ method.displayName

/-! ## Nested fields -/

/-- What stands after the link to a nested field: its type, if fields are nested in it. -/
def bulletType (unit : DocUnit) (e : FieldEntry) : Except Fault String := do
  if e.field.hasNested then return " " ++ (← e.field.documentedNested.renderType unit false)
  else return ""

/-- The line that links to a nested field by its anchor; the type is given as it is shown. -/
def bulletLine (e : FieldEntry) (anchor type : String) : String :=
  String.join (List.replicate e.depth "  ") ++ "- <p>[" ++ Markup.code "key" e.field.displayName
    ++ "](#" ++ anchor ++ ")" ++ type ++ "</p>"

def bullet (unit : DocUnit) (e : FieldEntry) : Compile String := do
  let type ← (bulletType unit e : Except Fault String)
  let anchor ← Compile.anchor e.place e.path e.field.name
  return bulletLine e anchor type

/-- The lines that link to nested fields, in order. Their anchors are given out here. -/
def bullets (unit : DocUnit) : List FieldEntry → Compile (List String)
  | [] => pure []
  | e :: es => do
    let first ← bullet unit e
    let rest ← bullets unit es
    return first :: rest

/-- The level of the section of a nested field: all fields of nested objects share one. -/
def nestedLevel (depth : Nat) : Int := if depth = 0 then 4 else 5

def ofEntry (unit : DocUnit) (e : FieldEntry) (anchor : String) : Except Fault (List Section) := do
  if e.field.kind = .methodDecl then
    ofMethod unit e.field e.field.displayName (nestedLevel e.depth) (some anchor)
      (some (e.path ++ ".")) "**Parameters**"
  else
    let shown := e.field.documentedNested
    let type ← shown.renderType unit false
    let default ← defaultLines e.field.comment
    let description ← shown.description
    let examples ← shown.examples
    let body :=
      ["<Segment>", "<Section type=\"parameters\">"] ++ typeLines type ++ ["</Section>"]
        ++ default ++ description ++ [""] ++ examples ++ ["</Segment>"]
    return [
      { title := e.field.displayName
        level := nestedLevel e.depth
        body
        anchor := some anchor
        parent := some (e.path ++ ".") }]

/-- The section of a nested field; it has the anchor that its bullet links to. -/
def ofField (unit : DocUnit) (e : FieldEntry) : Compile (List Section) := do
  let anchor ← Compile.anchor e.place e.path e.field.name
  (ofEntry unit e anchor : Except Fault (List Section))

def ofFields (unit : DocUnit) : List FieldEntry → Compile (List Section)
  | [] => pure []
  | e :: es => do
    let first ← ofField unit e
    let rest ← ofFields unit es
    return first ++ rest

/-- The fields nested in the type of something documented, whose type stands at a place. -/
def nestedFields (place : Place) (o : Documented) (name : String) : List FieldEntry :=
  TypeExpr.fieldsOfOptional place name 0 o.type

def nestedBullets (unit : DocUnit) (place : Place) (o : Documented) (name : String) :
    Compile (List String) :=
  bullets unit (nestedFields place o name)

def nestedSections (unit : DocUnit) (place : Place) (o : Documented) (name : String) :
    Compile (List Section) :=
  ofFields unit (nestedFields place o name)

def typeBlock (unit : DocUnit) (place : Place) (o : Documented) (name : String) :
    Compile (List String) := do
  let type ← (o.renderType unit false : Except Fault String)
  let links ← nestedBullets unit place o name
  return ["<Section type=\"parameters\">"] ++ typeLines type ++ links ++ ["</Section>"]

end Section

end DocPress
