import DocPress.Link
import DocPress.Markup
import DocPress.Text.Escape

/-! # Rendering types

A type is rendered as a fragment of page markup. References to wrapper types are rendered by the
rule of the wrapper, all others as links.

* `ReferenceForm`: the rule that a reference is rendered by, which depends on its package and name.
* `TypeExpr.render`: the fragment of a type. With `unwrap` the wrappers of values that arrive later
  are left out and only their payload is shown.
* `Declaration.renderType`: the fragment of a declared type, for which a `@see` tag may give a link
  instead. -/

set_option autoImplicit false

namespace DocPress

open Markup (code typeLink quoted unionSeparator generic)

/-- The rule by which a reference is rendered. -/
inductive ReferenceForm where
  | languageGeneric
  /-- A type, or a function that changes its arguments. -/
  | transform
  /-- A value that arrives later, under a label. -/
  | later (label : String)
  /-- A value or one that arrives later, under a label. -/
  | input (label : String)
  | passThrough
  | fixed (style text : String)
  | link
  /-- No rule, as the package or the name cannot be looked up. -/
  | misnamed (value : Data)
deriving DecidableEq

namespace ReferenceForm

/-- The wrappers of values that arrive later, by package and name, with their labels. -/
def laterWrappers : List ((String × String) × String) :=
  [(("@pulumi/pulumi", "Input"), "Input"),
   (("@pulumi/pulumi", "Output"), "Output"),
   (("@pulumi/pulumi", "OutputInstance"), "Output")]

/-- The wrappers that always show their label, by package and name. -/
def inputWrappers : List ((String × String) × String) :=
  [(("@sst/platform", "Input"), "Input")]

def passThroughNames : List String := ["Unwrap", "UnwrappedObject", "UnwrappedArray"]

def fixedInPackage : List ((String × String) × (String × String)) :=
  [(("@pulumi/pulumi", "T"), ("primitive", "T")),
   (("sst", "T"), ("primitive", "string")),
   (("@sst/platform", "Resource"), ("type", "Resource")),
   (("@sst/platform", "Constructor"), ("type", "Constructor"))]

def fixedAnywhere : List (String × (String × String)) :=
  [("FunctionArn", ("primitive", "\"arn:aws:lambda:$&#123;string&#125;\"")),
   ("SsrSite", ("primitive", "All SSR sites"))]

/-- The rule for a name of a package, unless it is the language itself. -/
def ofName (package : Option String) (name : String) : ReferenceForm :=
  let key := (package.getD "", name)
  if name = "Transform" then transform
  else
    match laterWrappers.lookup key with
    | some label => later label
    | none =>
      match inputWrappers.lookup key with
      | some label => input label
      | none =>
        if passThroughNames.contains name then passThrough
        else
          match (package.bind fun p => fixedInPackage.lookup (p, name)).or
              (fixedAnywhere.lookup name) with
          | some (style, text) => fixed style text
          | none => link

/-- What keeps the tables from being searched for a reference: a package or a name that is no key.
No table is searched for `Transform`, and where a wrapper shows only its payload, a package that
does not count as present is not searched for. -/
def misfit? (package : Option Data) (name : Data) : Option Data :=
  if name = .text "Transform" then none
  else
    let searched := package.filter fun p => p.isTrue || !name.isIn passThroughNames
    (searched.toList ++ [name]).find? fun d => !d.isKey

def of (package : Option Data) (name : Data) : ReferenceForm :=
  if package = some (.text "typescript") then languageGeneric
  else
    match misfit? package name, name with
    | some value, _ => misnamed value
    | none, .text name => ofName (package.bind Data.text?) name
    | none, _ => link

end ReferenceForm

/-- Whether the value of a literal type has a textual form; a whole number may be too long for a
numeral. -/
def Literal.isWritable : Literal → Bool
  | int n => Numeral.isWritable n
  | _ => true

namespace TypeExpr

def literalFragment : Literal → String
  | .bool b => code "primitive" (if b then "true" else "false")
  | .null => quoted "null"
  | .text s => quoted (Text.escapeMarkdown s)
  | .int n => quoted (Numeral.ofInt n)
  | .float x => quoted x.text

def renderLiteral (value : Literal) : Except Fault String :=
  if value.isWritable then .ok (literalFragment value) else .error .numberTooLong

def quotedTemplate (head hole tail : String) : String :=
  quoted (Text.escapeBraces head ++ "$\\\x7b" ++ hole ++ "\\\x7d" ++ Text.escapeBraces tail)

def renderTemplate (head hole tail : Data) : Except Fault String := do
  let before ← head.required .inspected
  let after ← tail.required .inspected
  return quotedTemplate before hole.display after

/-- Whether a type is a union, which an array puts between parentheses. -/
def isUnion : TypeExpr → Bool
  | union _ => true
  | _ => false

def isTuple : TypeExpr → Bool
  | tuple _ => true
  | _ => false

def arrayOf (isUnion : Bool) (element : String) : String :=
  if isUnion then code "symbol" "(" ++ element ++ code "symbol" ")[]"
  else element ++ code "symbol" "[]"

def transformOf (payload : String) : String :=
  payload ++ unionSeparator ++ code "symbol" "(" ++ code "primitive" "args" ++ code "symbol" ": "
    ++ payload ++ code "symbol" ", " ++ code "primitive" "opts" ++ code "symbol" ": "
    ++ typeLink "ComponentResourceOptions" Link.resourceOptionsUrl ++ code "symbol" ", "
    ++ code "primitive" "name" ++ code "symbol" ": " ++ code "primitive" "string"
    ++ code "symbol" ")" ++ code "symbol" " => " ++ code "primitive" "void"

def renderLink (unit : DocUnit) (ref : Reference) : Except Fault String :=
  match Link.resolve unit ref with
  | .ok target => .ok (typeLink (target.label?.getD ref.name.display) target.href)
  | .error fault => .error fault

end TypeExpr

/-- A parameter as signatures show it: three full stops before a rest parameter, a question mark
after an optional one. A default value makes a parameter optional, and only an empty object may be
one. -/
def Declaration.parameterName (d : Declaration) : Except Fault String :=
  let default := d.defaultValue.filter Data.isTrue
  match default.filter fun v => v ≠ .text "\x7b\x7d" with
  | some other => .error (.parameterDefault d.name.display other.display)
  | none =>
    .ok ((if d.type.any TypeExpr.isTuple then "..." else "") ++ d.name.display
      ++ (if d.modifiers.isOptional || default.isSome then "?" else ""))

/-- Reads a link to a type of a service client: its label in brackets, its address in parentheses,
and nothing else but a line feed at the end. The label is as long as it can be. -/
def DocComment.readClientLink (s : String) : Option (String × String) :=
  match Text.dropWord? "[".toList (Text.dropFinalLineFeed s.toList) with
  | none => none
  | some inner =>
    match Text.dropWord? "@aws-sdk/client-".toList inner with
    | none => none
    | some rest =>
      if rest.contains '\n' || rest.getLast? ≠ some ')' then none
      else
        match rest.dropLast with
        | [] => none
        | first :: rest =>
          -- the last character of the address is kept apart, so that it is not empty
          match Text.cutLast? "](".toList rest.dropLast, rest.getLast? with
          | some (name, address), some last =>
            some ("@aws-sdk/client-" ++ String.ofList (first :: name),
              String.ofList (address ++ [last]))
          | _, _ => none

/-- The link that the comment of a declaration gives for its type: the first `@see` tag, if it
holds nothing but a link to a type of a service client. -/
def DocComment.typeLink? (comment : Option DocComment) : Except Fault (Option String) :=
  match comment.bind fun c => c.findTag? "@see" with
  | some ⟨_, [part]⟩ => do
    let text ← part.text.required .searched
    return (DocComment.readClientLink text).map fun link => typeLink link.1 link.2
  | _ => .ok none

mutual
/-- The fragment of a type. With `unwrap` a wrapper of a later value shows only its payload. -/
def TypeExpr.render (unit : DocUnit) (unwrap : Bool) : TypeExpr → Except Fault String
  | .primitive name => .ok (code "primitive" name.display)
  | .literal value => TypeExpr.renderLiteral value
  | .template head spans =>
    match spans with
    | [(.primitive hole, tail)] => TypeExpr.renderTemplate head hole tail
    | _ => .error (.unsupportedType (.template head spans) (some .notOneHole))
  | .union members => do
    let members ← TypeExpr.renderAll unit unwrap members
    return unionSeparator.intercalate members
  | .array element => do
    let rendered ← element.render unit unwrap
    return TypeExpr.arrayOf element.isUnion rendered
  | .tuple [] => .error (.unsupportedType (.tuple []) (some .emptyTuple))
  | .tuple (element :: _) => do
    let rendered ← element.render unit unwrap
    return TypeExpr.arrayOf false rendered
  | .reference ref => ref.render unit unwrap
  | .object [] => .error (.unsupportedType (.object []) (some .noFields))
  | .object (_ :: _) => .ok (code "primitive" "Object")
  | .callable parameters result => do
    let parameters ← Declaration.renderParameters unit unwrap parameters
    let result ← result.render unit unwrap
    return code "primitive" ("(" ++ ", ".intercalate parameters ++ ") => " ++ result)
  | .other tag => .error (.unsupportedType (.other tag) none)

def Reference.render (unit : DocUnit) (unwrap : Bool) : Reference → Except Fault String
  | ⟨name, package, qualifiedName, arguments, target⟩ =>
    let ref : Reference := ⟨name, package, qualifiedName, arguments, target⟩
    match ReferenceForm.of package name with
    | .languageGeneric =>
      match arguments with
      | [] => .ok (code "primitive" name.display)
      | _ => do
        let arguments ← TypeExpr.renderAll unit unwrap arguments
        return generic name.display (", ".intercalate arguments)
    | .transform => do
      return TypeExpr.transformOf (← TypeExpr.renderFirst unit unwrap ref arguments)
    | .later label => do
      let payload ← TypeExpr.renderFirst unit unwrap ref arguments
      return (if unwrap then payload else generic label payload)
    | .input label => do
      return generic label (← TypeExpr.renderFirst unit unwrap ref arguments)
    | .passThrough => TypeExpr.renderFirst unit unwrap ref arguments
    | .fixed style text => .ok (code style text)
    | .link => TypeExpr.renderLink unit ref
    | .misnamed value => .error (.notText value .lookedUp)

def TypeExpr.renderAll (unit : DocUnit) (unwrap : Bool) :
    List TypeExpr → Except Fault (List String)
  | [] => .ok []
  | t :: ts => do
    let first ← t.render unit unwrap
    let rest ← TypeExpr.renderAll unit unwrap ts
    return first :: rest

/-- The fragment of the first type argument of the wrapper `ref`. -/
def TypeExpr.renderFirst (unit : DocUnit) (unwrap : Bool) (ref : Reference) :
    List TypeExpr → Except Fault String
  | [] => .error (.unsupportedType (.reference ref) (some (.argumentMissing ref.name.display)))
  | t :: _ => t.render unit unwrap

/-- The fragment of the declared type of a declaration or signature of a name. -/
def TypeExpr.renderDeclared (unit : DocUnit) (unwrap : Bool) (name : Data) :
    Option TypeExpr → Except Fault String
  | none => .error (.typeMissing name.display)
  | some t => t.render unit unwrap

def Declaration.renderType (unit : DocUnit) (unwrap : Bool) : Declaration → Except Fault String
  | ⟨name, kind, _, comment, type, _, getter, _, _, _⟩ =>
    match DocComment.typeLink? comment with
    | .error fault => .error fault
    | .ok (some link) => .ok link
    | .ok none =>
      match kind, getter with
      | .accessorDecl, some ⟨_, _, result, _⟩ => TypeExpr.renderDeclared unit unwrap name result
      | _, _ => TypeExpr.renderDeclared unit unwrap name type

def Declaration.renderParameters (unit : DocUnit) (unwrap : Bool) :
    List Declaration → Except Fault (List String)
  | [] => .ok []
  | d :: ds => do
    let name ← d.parameterName
    let type ← d.renderType unit unwrap
    let rest ← Declaration.renderParameters unit unwrap ds
    return (name ++ ": " ++ type) :: rest
end

/-- A signature as pages show it: its name and its parameters, without types. -/
def CallSignature.render (s : CallSignature) : Except Fault String := do
  let parameters ← s.parameters.mapM Declaration.parameterName
  return s.name.display ++ "(" ++ ", ".intercalate parameters ++ ")"

end DocPress
