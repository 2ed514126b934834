import DocPress.Command.Decode
import DocPress.Declaration.Decode
import DocPress.FileFault
import DocPress.Json.Parser

/-! # Documents

The JSON documents that a site is made from: reflection documents, which hold the units of a
program, the tree of the commands of a command line, and the list of the errors that it reports. A
document is a file or stands at an address of the web.

* `FetchFault`, `DocumentFault`: why a document cannot be fetched or used.
* `Document.isAddress`: whether a source is an address of the web.
* `Document.units`, `Document.commands`, `Document.commonErrors`: what the text of a document holds.
  Where a document has no text, they are given the reason. -/

set_option autoImplicit false

namespace DocPress

/-- Why nothing can be fetched from an address. -/
inductive FetchFault where
  | unreachable
  | refused (status : Nat)
deriving DecidableEq

def FetchFault.reason : FetchFault → String
  | unreachable => "the address cannot be reached"
  | refused status => "the answer has the status " ++ Numeral.ofNat status

/-- Why a document cannot be used. -/
inductive DocumentFault where
  | missing (path : FilePath)
  | unreadable (path : FilePath) (fault : FileFault)
  | unfetched (address : String) (fault : FetchFault)
  | reflectionNotJson (source : String)
  | reflectionNotObject (source : String)
  | commandsNotJson (source : String)
  | errorsNotList (source : String)
  | declarations (fault : DecodeFault)
  | commands (fault : CommandFault)
deriving DecidableEq

def DocumentFault.message : DocumentFault → String
  | missing path => "Document '" ++ path.text ++ "' not found."
  | unreadable path fault =>
    "Document '" ++ path.text ++ "' cannot be read: " ++ fault.reason ++ "."
  | unfetched address fault =>
    "Document '" ++ address ++ "' cannot be fetched: " ++ fault.reason ++ "."
  | reflectionNotJson source => "Reflection document '" ++ source ++ "' is not valid JSON"
  | reflectionNotObject source =>
    "Reflection document '" ++ source ++ "' must contain a JSON object."
  | commandsNotJson source => "CLI document '" ++ source ++ "' is not valid JSON"
  | errorsNotList source => "Common errors document '" ++ source ++ "' must contain a JSON list."
  | declarations fault => fault.message
  | commands fault => fault.message

namespace Document

/-- Whether a source is an address of the web, and no path of a file. -/
def isAddress (source : String) : Bool :=
  ["http://", "https://"].any fun front => front.toList.isPrefixOf source.toList

/-- The value that a document holds. -/
def value (notJson : DocumentFault) (source : String) :
    Except FileFault String → Except DocumentFault Data
  | .error fault =>
    let path := FilePath.ofString source
    .error (if fault.isAbsence then .missing path else .unreadable path fault)
  | .ok text =>
    match Json.parse? text with
    | some d => .ok d
    | none => .error notJson

def units (source : String) (text : Except FileFault String) :
    Except DocumentFault (List DocUnit) := do
  let d ← value (.reflectionNotJson source) source text
  if d.isMap then (DocUnit.decodeAll d).mapError .declarations
  else throw (.reflectionNotObject source)

def commands (source : String) (text : Except FileFault String) :
    Except DocumentFault Command := do
  let d ← value (.commandsNotJson source) source text
  (Command.decode "root" d).mapError .commands

def commonErrors (source : String) (text : Except FileFault String) :
    Except DocumentFault (List CommonError) := do
  let d ← value (.commandsNotJson source) source text
  match CommonError.decodeAll d with
  | some errors => errors.mapError .commands
  | none => throw (.errorsNotList source)

end Document

end DocPress
