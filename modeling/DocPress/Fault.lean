import DocPress.Declaration.Inspect
import DocPress.FileFault

/-! # What stops a page from being compiled

Each cause has a constructor that carries what the message shows. A fault stops the run: a page that
silently leaves something out would read as if it were complete. -/

set_option autoImplicit false

namespace DocPress

/-- Packages whose documentation lies outside the site, and how links to it are made. -/
inductive PackageDocs where
  | provider
  | communityProvider
  | handlerTypes
  | bundler
  | controlService
  | shell
deriving DecidableEq

/-- The form of the declaring files that links to a package are made from, as messages show it. -/
def PackageDocs.sourceForm : PackageDocs → String
  | provider => "node_modules/@pulumi/([^/]+)/(.+)\\.d\\.ts"
  | communityProvider => "node_modules/@pulumiverse/([^/]+)/(.+)\\.d\\.ts"
  | handlerTypes => "node_modules/@types/aws-lambda/(.+)"
  | bundler => ""
  | controlService => ""
  | shell => ""

/-- Why a type has no rendering; a type of a form that is not rendered at all has no reason. -/
inductive TypeFlaw where
  | emptyTuple
  | noFields
  /-- A template text without exactly one interpolated type, or with one that is not primitive. -/
  | notOneHole
  | argumentMissing (wrapper : String)
deriving DecidableEq

def TypeFlaw.reason : TypeFlaw → String
  | emptyTuple => "empty tuple"
  | noFields => "object type without fields"
  | notOneHole => "template literal must have exactly one primitive hole"
  | argumentMissing wrapper => wrapper ++ " requires a type argument"

/-- Why a reference to a known package cannot be linked. -/
inductive ReferenceFlaw where
  /-- The declaring file does not have the form that links are made from. -/
  | sourceUnknown (docs : PackageDocs)
  | inputUnmapped
  | providerClassType
deriving DecidableEq

def ReferenceFlaw.reason : ReferenceFlaw → String
  | sourceUnknown docs => "no declaring file matches " ++ docs.sourceForm
  | inputUnmapped => "unmapped Pulumi provider input type"
  | providerClassType => "unsupported Pulumi provider class type"

/-- What is done with a text. -/
inductive TextUse where
  | inspected
  | searched
  | joined
  /-- It is looked up in a table; any value can be, except a list and a map. -/
  | lookedUp
deriving DecidableEq

def TextUse.phrase : TextUse → String
  | inspected => "inspected"
  | searched => "searched"
  | joined => "joined with others"
  | lookedUp => "looked up in a table"

/-- Why a page cannot be compiled. -/
inductive Fault where
  | unsupportedType (type : TypeExpr) (flaw : Option TypeFlaw)
  | unsupportedReference (ref : Reference) (flaw : Option ReferenceFlaw)
  /-- A parameter has a default value other than an empty object. -/
  | parameterDefault (name default : String)
  | typeMissing (name : String)
  | signatureMissing (name : String)
  | classMissing (unit : String)
  | commentMissing (unit : String)
  | classCommentMissing (className : String)
  | constructorMissing (className : String)
  | getterMissing (link : String)
  | propertiesMissing (interface : String)
  | sourceMissing (unit : String)
  | sourceMisplaced (path : String)
  | extraUnitMissing (ending : String)
  | linkableCopyMissing (path : String)
  | segmentMissing (unit : String)
  | exampleUnreadable (path : FilePath) (fault : FileFault)
  /-- Something other than a text stands where a text is used. -/
  | notText (value : Data) (use : TextUse)
  /-- A whole number that is too long for a numeral is to be shown. -/
  | numberTooLong
  | runFunctionMissing (path : FilePath)

namespace Fault

def parenthesised : Option String → String
  | none => ""
  | some reason => " (" ++ reason ++ ")"

def componentSourceRoot : String := "platform/src/components/"

def message : Fault → String
  | unsupportedType type flaw =>
    "Unsupported type variant" ++ parenthesised (flaw.map TypeFlaw.reason) ++ ": " ++ type.inspect
  | unsupportedReference ref flaw =>
    "Unsupported reference" ++ parenthesised (flaw.map ReferenceFlaw.reason) ++ ": " ++ ref.inspect
  | parameterDefault name default =>
    "Unsupported default value \"" ++ default ++ "\" for name \"" ++ name ++ "\".\n\n"
      ++ "Signature parameters can be optional in one of two ways:\n"
      ++ " - the optional flag is set, ie. \"(args?: FooArgs)\"\n"
      ++ " - the default value is \"\x7b\x7d\", ie. \"(args: FooArgs = \x7b\x7d)\""
  | typeMissing name => "'" ++ name ++ "' has no declared type."
  | signatureMissing name => "'" ++ name ++ "' has no call signature."
  | classMissing unit => "Class not found in unit '" ++ unit ++ "'."
  | commentMissing unit => "Module comment not found for unit '" ++ unit ++ "'."
  | classCommentMissing className => "Class comment not found for '" ++ className ++ "'."
  | constructorMissing className => "Constructor not found for class '" ++ className ++ "'."
  | getterMissing link =>
    "Failed to render link " ++ link ++ " because no getter property has the matching name."
  | propertiesMissing interface => "Interface " ++ interface ++ " has no props."
  | sourceMissing unit => "Unit '" ++ unit ++ "' has no source file."
  | sourceMisplaced path =>
    "Fail to generate class namespace from class fileName " ++ path ++ ". Expected to start with \""
      ++ componentSourceRoot ++ "\""
  | extraUnitMissing ending => "No unit is declared in a file ending with '" ++ ending ++ "'."
  | linkableCopyMissing path => "No linkable copy is configured for '" ++ path ++ "'."
  | segmentMissing unit => "The name of unit '" ++ unit ++ "' has no second segment."
  | exampleUnreadable path fault =>
    "The source '" ++ path.text ++ "' cannot be read: " ++ fault.reason ++ "."
  | notText value use =>
    "A text is needed, which is to be " ++ use.phrase ++ ", and not " ++ value.inspect ++ "."
  | numberTooLong => "A number is too long."
  | runFunctionMissing path => "No 'async run() \x7b' block found in '" ++ path.text ++ "'."

end Fault

namespace Data

/-- The text that a value is, for a use. -/
def required (use : TextUse) : Data → Except Fault String
  | text s => .ok s
  | d => .error (.notText d use)

/-- A value that can be looked up in a table. -/
def asKey (d : Data) : Except Fault Data :=
  if d.isKey then .ok d else .error (.notText d .lookedUp)

end Data

end DocPress
