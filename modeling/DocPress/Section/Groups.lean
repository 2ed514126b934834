import DocPress.Section.Parts

/-! # The sections of a unit

The groups of sections that pages are put together from: about, variables, functions and interfaces
of a unit. -/

set_option autoImplicit false

namespace DocPress.Section

def about (comment : DocComment) : Except Fault (List Section) := do
  let summary ← comment.summaryLine
  let examples ← comment.exampleLines
  return [plain
    (["", "<Section type=\"about\">", summary]
      ++ (if examples.isEmpty then [] else "" :: examples) ++ ["</Section>", "", "---"])]

def groupHeading (title : Option String) : List Section :=
  match title with
  | none => []
  | some t => if t = "" then [] else [headingOnly t 2]

/-! ## Variables -/

/-- The variables that are documented by the fields of an interface of their unit. -/
def variableInterfaces : List (String × String) := [("$app", "$APP")]

/-- The variables that are documented as references, by unit and name, with the package and the name
of the reference. -/
def variableReferences : List ((String × String) × (String × String)) :=
  [(("opencontrol", "tools"), ("opencontrol", "Tools"))]

def variableInterface? (unit : DocUnit) (v : Declaration) : Option (Place × Declaration) :=
  (v.name.text?.bind fun name => variableInterfaces.lookup name).bind fun name =>
    (unit.locatedOfKind .interfaceDecl).find? fun i => i.2.name = .text name

def variableReference? (unit : DocUnit) (v : Declaration) : Option Reference :=
  match unit.name, v.name with
  | .text unitName, .text name =>
    (variableReferences.lookup (unitName, name)).map fun (package, name) =>
      ⟨.text name, some (.text package), none, [], none⟩
  | _, _ => none

/-- What documents a variable, with the place of its type. -/
def documentedVariable (unit : DocUnit) (place : Place) (v : Declaration) : Place × Documented :=
  match variableInterface? unit v with
  | some (place, i) => (place, ⟨v.name, v.comment, some (.object i.children)⟩)
  | none =>
    match variableReference? unit v with
    | some ref => (.type :: place, ⟨v.name, v.comment, some (.reference ref)⟩)
    | none => (.type :: place, ⟨v.name, v.comment, v.type⟩)

def ofVariable (unit : DocUnit) (place : Place) (v : Declaration) : Compile (List Section) := do
  let (place, shown) := documentedVariable unit place v
  let type ← typeBlock unit place shown v.name.display
  let description ← (shown.description : Except Fault (List String))
  let examples ← (shown.examples : Except Fault (List String))
  let body := ["<Segment>"] ++ type ++ description ++ examples ++ ["</Segment>"]
  let nested ← nestedSections unit place shown v.name.display
  return { title := v.displayName, level := 3, body } :: nested

def ofVariables (unit : DocUnit) : List (Place × Declaration) → Compile (List Section)
  | [] => pure []
  | (place, v) :: vs => do
    let first ← ofVariable unit place v
    let rest ← ofVariables unit vs
    return first ++ rest

def shownVariables (unit : DocUnit) : List (Place × Declaration) :=
  (unit.locatedOfKind .variableDecl).filter fun v => !v.2.isHidden

def variableGroup (unit : DocUnit) (title : Option String) : Compile (List Section) := do
  if (shownVariables unit).isEmpty then return []
  let sections ← ofVariables unit (shownVariables unit)
  return groupHeading title ++ sections

/-! ## Functions -/

/-- The section of a function; `qualifier` stands before its signature. -/
def ofFunction (unit : DocUnit) (qualifier : String) (f : Declaration) : Except Fault Section := do
  let s ← f.firstSignature
  let shown ← s.render
  let parameters ← parameterBlock unit f.name "#### Parameters" s
  let returns ← returnLines unit s
  let description ← s.documented.description
  let examples ← s.documented.examples
  let body :=
    ["<Segment>"] ++ signatureBlock (qualifier ++ shown) ++ parameters ++ returns ++ description
      ++ [""] ++ examples ++ ["</Segment>"]
  return { title := f.displayName, level := 3, body }

/-- The sections of functions, with the name of their namespace before their signatures if one is
given. -/
def functionGroup (unit : DocUnit) (fs : List Declaration) (title within : Option String) :
    Except Fault (List Section) := do
  if fs.isEmpty then return []
  let qualifier :=
    match within.filter fun n => n ≠ "" with
    | some n => n ++ "."
    | none => ""
  let sections ← fs.mapM (ofFunction unit qualifier)
  return groupHeading title ++ sections

/-! ## Interfaces -/

/-- The section of a member of an interface and those of the fields nested in it; hidden members,
and those that are neither properties nor methods, have none. -/
def ofMember (unit : DocUnit) (place : Place) (m : Declaration) : Compile (List Section) := do
  if m.isHidden then return []
  match m.kind with
  | .propertyDecl =>
    let type ← typeBlock unit (.type :: place) m.documented m.name.display
    let default ← (defaultLines m.comment : Except Fault (List String))
    let description ← (m.documented.description : Except Fault (List String))
    let examples ← (m.documented.examples : Except Fault (List String))
    let body :=
      ["<Segment>"] ++ type ++ default ++ description ++ [""] ++ examples ++ ["</Segment>"]
    let nested ← nestedSections unit (.type :: place) m.documented m.name.display
    return { title := m.displayName, level := 3, body } :: nested
  | .methodDecl =>
    (ofMethod unit m (methodTitle m) 3 none none "#### Parameters" : Except Fault (List Section))
  | _ => return []

def ofMembers (unit : DocUnit) : List (Place × Declaration) → Compile (List Section)
  | [] => pure []
  | (place, m) :: ms => do
    let first ← ofMember unit place m
    let rest ← ofMembers unit ms
    return first ++ rest

def ofInterface (unit : DocUnit) (place : Place) (i : Declaration) : Compile (List Section) := do
  if i.children.isEmpty then throw (.propertiesMissing i.name.display)
  let intro ← (i.documented.description : Except Fault (List String))
  let members ← ofMembers unit (i.located place)
  let body := if intro.isEmpty then [] else "" :: intro
  return { title := i.name.display, level := 2, body } :: members

/-- An interface as one object, whose members are fields nested in it. -/
def ofObjectInterface (unit : DocUnit) (place : Place) (i : Declaration) :
    Compile (List Section) := do
  let shown : Documented := ⟨i.name, none, some (.object i.children)⟩
  let type ← typeBlock unit place shown i.name.display
  let nested ← nestedSections unit place shown i.name.display
  let body := ["<Segment>"] ++ type ++ ["</Segment>"]
  return { title := i.name.display, level := 3, body } :: nested

def ofInterfaces (unit : DocUnit) (asObjects : Bool) :
    List (Place × Declaration) → Compile (List Section)
  | [] => pure []
  | (place, i) :: is => do
    let first ← if asObjects then ofObjectInterface unit place i else ofInterface unit place i
    let rest ← ofInterfaces unit asObjects is
    return first ++ rest

/-- The interfaces of a unit that are not hidden and that are accepted, with their places. -/
def shownInterfaces (unit : DocUnit) (accepts : Declaration → Bool) : List (Place × Declaration) :=
  (unit.locatedOfKind .interfaceDecl).filter fun i => !i.2.isHidden && accepts i.2

def interfaceGroup (unit : DocUnit) (accepts : Declaration → Bool) (asObjects : Bool) :
    Compile (List Section) :=
  ofInterfaces unit asObjects (shownInterfaces unit accepts)

end DocPress.Section
