import DocPress.Section.Parts

/-! # The sections of the class of a unit

The groups of sections that document a component class: its constructor, its properties, its
methods, and what it gives to those who link to it. -/

set_option autoImplicit false

namespace DocPress.Section

/-- For some classes the methods that come before all others. -/
abbrev BuilderMethods := List (String × List String)

def defaultBuilderMethods : BuilderMethods :=
  [("StepFunctions", ["task", "choice", "parallel", "map", "pass", "succeed", "fail", "wait"])]

/-- Members with the methods of the given names put before all others; both groups keep their
order. -/
def buildersFirst (names : List String) (ms : List Declaration) : List Declaration :=
  let isBuilder (m : Declaration) : Bool := m.kind = .methodDecl && m.name.isIn names
  ms.filter isBuilder ++ ms.filter fun m => !isBuilder m

def constructorSection (unit : DocUnit) : Except Fault (List Section) := do
  let cls ← unit.requiredClass
  match cls.childrenOfKind .constructorDecl with
  | [] => throw (.constructorMissing cls.name.display)
  | c :: _ =>
    let s ← c.firstSignature
    let shown ← s.render
    let parameters ← parameterBlock unit c.name "#### Parameters" s
    return [
      { title := "Constructor"
        level := 2
        body := ["", "<Segment>"] ++ signatureBlock shown ++ parameters ++ ["</Segment>"] }]

/-! ## Methods -/

/-- Whether the class documents a method: one of its own that others may call, with a signature
whose comment does not hide it. -/
def isShownMethod (m : Declaration) : Bool :=
  !m.modifiers.isExternal && !m.modifiers.isPrivate && !m.modifiers.isProtected
    && match m.signatures with
      | [] => false
      | s :: _ => !s.comment.any DocComment.hides

def classMethods (unit : DocUnit) (builders : BuilderMethods) :
    Except Fault (List Declaration) := do
  let cls ← unit.requiredClass
  let names := (cls.name.text?.bind fun name => builders.lookup name).getD []
  return buildersFirst names ((cls.childrenOfKind .methodDecl).filter isShownMethod)

def methods (unit : DocUnit) (builders : BuilderMethods) : Except Fault (List Section) := do
  let ms ← classMethods unit builders
  if ms.isEmpty then return []
  let sections ← ms.mapM fun m =>
    ofMethod unit m (methodTitle m) 3 none none "#### Parameters"
  return headingOnly "Methods" 2 :: sections.flatten

/-! ## Properties -/

def classGetters (unit : DocUnit) : Except Fault (List (Place × Declaration)) := do
  let (place, cls) ← unit.locatedClass
  return (cls.located place).filter fun m =>
    m.2.kind = .accessorDecl && m.2.modifiers.isPublic

def ofGetter (unit : DocUnit) (place : Place) (g : Declaration) (s : CallSignature) :
    Compile (List Section) := do
  let type ← typeBlock unit (.getter :: place) s.documented g.name.display
  let description ← (s.documented.description : Except Fault (List String))
  let body := ["<Segment>"] ++ type ++ description ++ ["</Segment>"]
  let nested ← nestedSections unit (.getter :: place) s.documented g.name.display
  return { title := g.displayName, level := 3, body } :: nested

def ofGetters (unit : DocUnit) :
    List (Place × Declaration × CallSignature) → Compile (List Section)
  | [] => pure []
  | (place, g, s) :: gs => do
    let first ← ofGetter unit place g s
    let rest ← ofGetters unit gs
    return first ++ rest

/-- The getters that are documented as properties, with their signatures. -/
def shownGetters (getters : List (Place × Declaration)) :
    List (Place × Declaration × CallSignature) :=
  getters.filterMap fun (place, g) =>
    match g.getter with
    | some s => if s.comment.any DocComment.hides then none else some (place, g, s)
    | none => none

def properties (unit : DocUnit) : Compile (List Section) := do
  let shown := shownGetters (← (classGetters unit : Except Fault _))
  if shown.isEmpty then return []
  let sections ← ofGetters unit shown
  return headingOnly "Properties" 2 :: sections

/-! ## What the class gives to those who link to it -/

/-- The method that says what a link to the class gives. -/
def linkMethodName : String := "getSSTLink"

def linkSignature? (unit : DocUnit) : Except Fault (Option CallSignature) := do
  let cls ← unit.requiredClass
  return (cls.childrenOfKind .methodDecl).findSome? fun m =>
    match m.signatures with
    | s :: _ => if !m.modifiers.isExternal && s.name = .text linkMethodName then some s else none
    | [] => none

def linkField? (unit : DocUnit) (name : String) : Except Fault (Option Declaration) := do
  match (← linkSignature? unit).bind CallSignature.result with
  | some (.object fields) => return fields.find? fun f => f.name = .text name
  | _ => return none

def indented (text : String) : String :=
  "\n".intercalate ((Text.split '\n' text).map fun line => "  " ++ line)

/-- The lines on one linked property, described by the getter of the same name. -/
def linkLines (unit : DocUnit) (getters : List (Place × Declaration)) (link : Declaration) :
    Except Fault (List String) :=
  -- of several getters of the name the last counts
  match (getters.reverse.find? fun g => g.2.name = link.name).bind fun g => g.2.getter with
  | none => .error (.getterMissing link.name.display)
  | some s => do
    let type ← link.documented.renderType unit true
    let description ← s.documented.description
    return ["- <p>" ++ Markup.code "key" link.displayName ++ " " ++ type ++ "</p>", ""]
      ++ description.map indented

def links (unit : DocUnit) : Except Fault (List Section) := do
  match (← linkField? unit "properties").bind Declaration.type with
  | some (.object fields) =>
    let shown := fields.filter fun f => !f.comment.any DocComment.isInternal
    if shown.isEmpty then return []
    let getters ← classGetters unit
    let lines ← shown.mapM (linkLines unit getters)
    let body :=
      ["This is accessible through the `Resource` object in the [SDK](/docs/reference/sdk/#links).",
        "<Segment>", "<Section type=\"parameters\">"] ++ lines.flatten
        ++ ["</Section>", "</Segment>"]
    return [{ title := "Links", level := 3, body }]
  | _ => return []

/-- Whether a field marks the object that holds it as a binding. -/
def isBindingMark (f : Declaration) : Bool :=
  f.name = .text "type"
    && match f.type with
      | some (.literal (.text value)) => value = "cloudflare.binding"
      | _ => false

/-- The section on bindings, for classes that can be bound. -/
def bindings (unit : DocUnit) : Except Fault (List Section) := do
  match (← linkField? unit "include").bind Declaration.type, ← linkSignature? unit with
  | some (.array (.object fields)), some s =>
    if fields.any isBindingMark then
      let description ← s.documented.description
      let examples ← s.documented.examples
      let body := ["<Segment>"] ++ description ++ [""] ++ examples ++ ["</Segment>"]
      return [{ title := "Bindings", level := 3, body }]
    else return []
  | _, _ => return []

end DocPress.Section
