import DocPress.Page
import DocPress.Section.Groups
import DocPress.SiteConfig

/-! # The pages of units

Each family of pages puts together the sections of a unit in its own way. A unit is routed to a
family by its source file, and a page has one registry of anchors for the sections of the unit; the
runtime module shown on the page of a component has a registry of its own.

* `Page.buildAll`: the pages of units, in order.
* `Page.ofComponent`, `Page.ofGlobal` and so on: the page of one unit. -/

set_option autoImplicit false

namespace DocPress

/-- What is built from the first anchor of a page on. -/
def Compile.fresh {α : Type} (c : Compile α) : Except Fault α := (c.run Anchors.empty).1

namespace DocUnit

def segments (u : DocUnit) : Except Fault (List String) := do
  return Text.split '/' (← u.name.required .inspected)

/-- The namespace that the component class of a unit is used from: that of the directory of its
source below the component sources. -/
def providerNamespace (u : DocUnit) : Except Fault String := do
  let cls ← u.requiredClass
  let source ← ((cls.sourcePath.filter Data.isTrue).getD (.text "")).required .inspected
  if Fault.componentSourceRoot.toList.isPrefixOf source.toList then
    let directory := ((Text.split '/' source).reverse.drop 1).headD ""
    return if directory = "components" then "sst" else "sst." ++ directory
  else throw (.sourceMisplaced source)

/-- The version that ends a name, such as `v2`. -/
def versionIn? (name : String) : Option String :=
  let back := (Text.dropFinalLineFeed name.toList).reverse
  match back.takeWhile Text.isDigit, back.dropWhile Text.isDigit with
  | [], _ => none
  | digits, 'v' :: '-' :: _ => some (String.ofList ('v' :: digits.reverse))
  | _, _ => none

def version? (u : DocUnit) : Except Fault (Option String) := do
  return versionIn? (← u.name.required .searched)

/-- What stands after the name of the class of a unit: a full stop and the version, if there is
one. -/
def versionMark (u : DocUnit) : Except Fault String := do
  match ← u.version? with
  | some version => return "." ++ version
  | none => return ""

def requiredClassComment (u : DocUnit) : Except Fault DocComment := do
  let cls ← u.requiredClass
  match cls.comment with
  | some c => .ok c
  | none => .error (.classCommentMissing cls.name.display)

end DocUnit

namespace Page

/-- The path of the page of a unit: its name without the first segment, below `component`. -/
def pathOf (u : DocUnit) : Except Fault FilePath := do
  return (FilePath.ofString "component").join
    (.ofString ("/".intercalate ((← u.segments).drop 1) ++ ".mdx"))

/-! ## Families -/

/-- The sections of further functions that the global page shows, from other units. -/
def extraFunctions (unit : DocUnit) (units : List DocUnit) :
    List (String × String) → Except Fault (List Section)
  | [] => .ok []
  | (title, ending) :: es => do
    match units.find? fun u => Routing.hasEnding (u.sourcePath.getD (.text "")).display ending with
    | none => throw (.extraUnitMissing ending)
    | some u =>
      let first ← Section.functionGroup unit u.functions (some title) none
      let rest ← extraFunctions unit units es
      return first ++ rest

def ofGlobal (config : SiteConfig) (units : List DocUnit) (unit : DocUnit) :
    Except Fault Page := do
  let about ← Section.about (← unit.requiredComment)
  let vars ← (Section.variableGroup unit (some "Variables")).fresh
  let functions ← Section.functionGroup unit unit.functions (some "Functions") none
  let extra ← extraFunctions unit units config.routing.extraFunctions
  let source ← unit.requiredSource
  return {
    title := "Global"
    description := "Reference doc for the Global `$` library."
    source
    outputPath := .ofString "reference/global.mdx"
    sections := about ++ vars ++ functions ++ extra }

/-- The interfaces of a unit in two groups: first the accepted ones, then the others. -/
def interfacesInOrder (unit : DocUnit) (accepts : Declaration → Bool) :
    Compile (List Section) := do
  let first ← Section.interfaceGroup unit accepts false
  let rest ← Section.interfaceGroup unit (fun i => !accepts i) false
  return first ++ rest

def ofConfig (unit : DocUnit) : Except Fault Page := do
  let about ← Section.about (← unit.requiredComment)
  let interfaces ← (interfacesInOrder unit fun i => i.name = .text "Config").fresh
  let source ← unit.requiredSource
  return {
    title := "Config"
    description := "Reference doc for the `sst.config.ts`."
    source
    outputPath := .ofString "reference/config.mdx"
    sections := about ++ interfaces }

def helperSections (unit : DocUnit) : Except Fault (List Section) := do
  let about ← Section.about (← unit.requiredComment)
  let functions ← Section.functionGroup unit unit.functions (some "Functions") none
  let interfaces ← (Section.interfaceGroup unit (fun _ => true) false).fresh
  return about ++ functions ++ interfaces

def ofDns (config : SiteConfig) (unit : DocUnit) : Except Fault Page := do
  match ← unit.segments with
  | _ :: provider :: _ =>
    let title := (config.routing.dnsTitles.lookup provider).getD provider
    let sections ← helperSections unit
    let source ← unit.requiredSource
    return {
      title := title ++ " DNS Adapter"
      description := "Reference doc for the `sst." ++ provider ++ ".dns` adapter."
      source
      outputPath :=
        ((FilePath.ofString "component").join (.ofString provider)).join (.ofString "dns.mdx")
      sections }
  | _ => throw (.segmentMissing unit.name.display)

def ofLinkable (config : SiteConfig) (unit : DocUnit) : Except Fault Page := do
  let source ← unit.requiredSource
  match config.routing.linkableCopy? source with
  | none => throw (.linkableCopyMissing source)
  | some copy =>
    let sections ← helperSections unit
    return {
      title := copy.title ++ " Linkable helper"
      description := "Reference doc for the `" ++ copy.namespaceName ++ "` helper."
      source
      outputPath := ← pathOf unit
      sections }

/-! ## Components -/

/-- The runtime module that belongs to a component: the one named like the third segment of the name
of its unit, or its innermost unit. -/
def sdkOf? (sdk : List DocUnit) (unit : DocUnit) : Except Fault (Option DocUnit) := do
  match ← unit.segments with
  | _ :: _ :: name :: _ =>
    return (sdk.find? fun s => s.name.isIn [name, "aws/" ++ name]).map DocUnit.innermost
  | _ => return none

def moduleIntro (rules : SdkRules) (sdk : DocUnit) : Except Fault (List Section) :=
  if sdk.name.isIn rules.introduced then do Section.about (← sdk.requiredComment) else .ok []

def moduleVariables (rules : SdkRules) (sdk : DocUnit) : Compile (List Section) :=
  if sdk.name.isIn rules.withVariables then Section.variableGroup sdk none else pure []

def moduleGroups (rules : SdkRules) (sdk : DocUnit) : Compile (List Section) := do
  let vars ← moduleVariables rules sdk
  let within := if sdk.name.isIn rules.qualified then sdk.name.text? else none
  let functions ←
    (Section.functionGroup sdk sdk.functions none within : Except Fault (List Section))
  let interfaces ← Section.interfaceGroup sdk (fun _ => true) true
  return vars ++ functions ++ interfaces

/-- The sections of the runtime module of a component, if it has one. -/
def runtimeSections (rules : SdkRules) : Option DocUnit → Except Fault (List Section)
  | none => .ok []
  | some sdk => do
    let about ← moduleIntro rules sdk
    let groups ← (moduleGroups rules sdk).fresh
    return about ++ groups

def runtimeIntro : String :=
  "Use the [SDK](/docs/reference/sdk/) in your runtime to interact with your infrastructure."

/-- The group on the runtime use of a component, unless it would be empty. -/
def sdkSections (rules : SdkRules) (unit : DocUnit) (sdk : Option DocUnit) :
    Except Fault (List Section) := do
  let links ← Section.links unit
  let bindings ← Section.bindings unit
  let runtime ← runtimeSections rules sdk
  let sections := links ++ bindings ++ runtime
  if sections.isEmpty then return []
  let intro : Section :=
    { title := "SDK"
      level := 2
      body := ["", runtimeIntro, "", "---"] }
  return intro :: sections

/-- A section with each use of the class as a constructor replaced by one of its version. -/
def withVersion (className version : String) (s : Section) : Section :=
  let call := ("new " ++ className).toList
  { s with
    body := s.body.map fun line =>
      String.ofList (Text.replaceAll call (call ++ version.toList) line.toList) }

/-- The parts of the page of a component, in the order in which the page shows them. -/
structure ComponentParts where
  about : List Section
  constructor : List Section
  arguments : List Section
  properties : List Section
  runtime : List Section
  methods : List Section
  interfaces : List Section

def ComponentParts.sections (p : ComponentParts) : List Section :=
  p.about ++ p.constructor ++ p.arguments ++ p.properties ++ p.runtime ++ p.methods ++ p.interfaces

/-- The parts of the page of a component but its constructor, in one registry of anchors. -/
def componentParts (config : SiteConfig) (sdk : List DocUnit) (unit : DocUnit)
    (comment : DocComment) (constructor : List Section) (argsName : String) :
    Compile ComponentParts := do
  let about ← (Section.about comment : Except Fault (List Section))
  let arguments ← Section.interfaceGroup unit (fun i => i.name = .text argsName) false
  let properties ← Section.properties unit
  let module? ← (sdkOf? sdk unit : Except Fault (Option DocUnit))
  let runtime ← (sdkSections config.sdkRules unit module? : Except Fault (List Section))
  let methods ← (Section.methods unit config.builderMethods : Except Fault (List Section))
  let interfaces ← Section.interfaceGroup unit (fun i => i.name ≠ .text argsName) false
  return { about, constructor, arguments, properties, runtime, methods, interfaces }

def partsOf (config : SiteConfig) (sdk : List DocUnit) (unit : DocUnit) :
    Except Fault ComponentParts := do
  let className := (← unit.requiredClass).name.display
  let version ← unit.versionMark
  let comment ← unit.requiredClassComment
  let constructor ← Section.constructorSection unit
  (componentParts config sdk unit comment (constructor.map (withVersion className version))
    (className ++ "Args")).fresh

def ofComponent (config : SiteConfig) (sdk : List DocUnit) (unit : DocUnit) :
    Except Fault Page := do
  let parts ← partsOf config sdk unit
  let title := (← unit.requiredClass).name.display ++ (← unit.versionMark)
  let fullName := (← unit.providerNamespace) ++ "." ++ title
  let source ← unit.requiredSource
  return {
    title
    description := "Reference doc for the `" ++ fullName ++ "` component."
    source
    outputPath := ← pathOf unit
    sections := parts.sections }

/-! ## All units -/

def ofUnit? (config : SiteConfig) (sdk units : List DocUnit) (unit : DocUnit) :
    Except Fault (Option Page) := do
  match config.routing.familyOf (← unit.requiredSource) with
  | .skip => return none
  | .global => return some (← ofGlobal config units unit)
  | .config => return some (← ofConfig unit)
  | .dns => return some (← ofDns config unit)
  | .linkable => return some (← ofLinkable config unit)
  | .component => return some (← ofComponent config sdk unit)

/-- The pages of several units; `units` are all of them, from which the global page takes further
functions. -/
def buildFrom (config : SiteConfig) (sdk units : List DocUnit) :
    List DocUnit → Except Fault (List Page)
  | [] => .ok []
  | u :: us => do
    let first ← ofUnit? config sdk units u
    let rest ← buildFrom config sdk units us
    return first.toList ++ rest

/-- The pages of units, in order; with `only`, those of the units of that name. -/
def buildAll (config : SiteConfig) (sdk units : List DocUnit) (only : Option String) :
    Except Fault (List Page) :=
  buildFrom config sdk units
    (match only with
      | none => units
      | some name => units.filter fun u => u.name = .text name)

end Page

end DocPress
