import DocPress.Document
import DocPress.Page.OfCommands
import DocPress.Page.OfExamples
import DocPress.SiteConfig.Decode
import DocPress.Yaml.Reader

/-! # Runs

A run reads the configuration of a site and the documents that it names, compiles every page that it
is asked for, and only then gives the files to write. A run that fails gives none.

Texts come from sources that the caller passes in: a function on paths, which gives the text of a
file, and one on addresses of the web, which gives what is fetched from there. Both belong to some
monad and say why there is no text. A text of the configuration that is empty names no document.

* `Run.Sources`: where texts come from.
* `Run.Options`: what a run is asked for.
* `RunFault`: why a run fails.
* `Run.pages`: the pages of a run.
* `Run.outputs`: the files to write, in order. -/

set_option autoImplicit false

namespace DocPress

/-- Why a run fails. -/
inductive RunFault where
  | configMissing (path : FilePath)
  | configUnreadable (path : FilePath) (fault : FileFault)
  | configNotYaml (path : FilePath) (fault : Yaml.Fault)
  | config (fault : ConfigFault)
  | documentUnnamed (key : String)
  | document (fault : DocumentFault)
  | page (fault : Fault)
  | unwritable (path : FilePath) (fault : FileFault)

def RunFault.message : RunFault → String
  | configMissing path => "Configuration file '" ++ path.text ++ "' not found."
  | configUnreadable path fault =>
    "Configuration file '" ++ path.text ++ "' cannot be read: " ++ fault.reason ++ "."
  | configNotYaml path fault =>
    "Configuration file '" ++ path.text ++ "' is not valid YAML: " ++ fault.reason ++ "."
  | config fault => fault.message
  | documentUnnamed key => "'defaults." ++ key ++ "' is required."
  | document fault => fault.message
  | page fault => fault.message
  | unwritable path fault =>
    "The page '" ++ path.text ++ "' cannot be written: " ++ fault.reason ++ "."

def SiteConfig.ofText (path : FilePath) :
    Except FileFault String → Except RunFault SiteConfig
  | .error fault =>
    .error (if fault.isAbsence then .configMissing path else .configUnreadable path fault)
  | .ok text => do
    let unified := String.ofList (Text.unifyLineEnds text.toList)
    let document ← (Yaml.parse unified).mapError (.configNotYaml path)
    (SiteConfig.decode document).mapError .config

namespace Run

/-- The families of pages that a run can be asked for. -/
inductive Target where
  | all
  | components
  | commands
  | commonErrors
  | examples
deriving DecidableEq

structure Options where
  config : FilePath := .ofString "config/refdocs.yaml"
  target : Target := .all
  /-- The only unit whose page is built among those of components. -/
  unit : Option String := none
  /-- Where the pages go in place of the configured directory. -/
  outputDir : Option FilePath := none
  isVerbose : Bool := false
deriving DecidableEq

/-- Where the texts of a run come from: files, and addresses of the web. -/
structure Sources (m : Type → Type) where
  read : FilePath → m (Except FileFault String)
  fetch : String → m (Except FetchFault String)

/-- The document that a text of the configuration names; an empty text names none. -/
def named? (text : Option String) : Option String := text.filter (· ≠ "")

/-- Whether a run builds a family of pages: when it is asked for the family, or for all and the
document of the family is named. -/
def builds (target family : Target) (text : Option String) : Bool :=
  target = family || (target = .all && (named? text).isSome)

section

variable {m : Type → Type} [Monad m] (sources : Sources m)

/-- What a document holds, as `use` reads it from its name and its text. -/
def document {α : Type} (use : String → Except FileFault String → Except DocumentFault α)
    (source : String) : ExceptT RunFault m α :=
  if Document.isAddress source then do
    match ← sources.fetch source with
    | .ok text => ((use source (.ok text)).mapError .document : Except RunFault α)
    | .error fault => throw (.document (.unfetched source fault))
  else do
    let text ← sources.read (.ofString source)
    ((use source text).mapError .document : Except RunFault α)

/-- What a document that the configuration has to name at `key` holds. -/
def requiredDocument {α : Type}
    (use : String → Except FileFault String → Except DocumentFault α) (key : String)
    (text : Option String) : ExceptT RunFault m α :=
  match named? text with
  | none => throw (.documentUnnamed key)
  | some source => document sources use source

def componentPages (config : SiteConfig) (only : Option String) :
    ExceptT RunFault m (List Page) := do
  let units ← requiredDocument sources Document.units "components_reflection" config.components
  let sdk ←
    match named? config.sdk with
    | none => pure []
    | some source => document sources Document.units source
  ((Page.buildAll config sdk units only).mapError .page : Except RunFault (List Page))

def commandsPage (config : SiteConfig) : ExceptT RunFault m Page := do
  return Page.ofCommands (← requiredDocument sources Document.commands "cli_doc" config.commands)

def commonErrorsPage (config : SiteConfig) : ExceptT RunFault m Page := do
  return Page.ofCommonErrors
    (← requiredDocument sources Document.commonErrors "common_errors_doc" config.commonErrors)

def examplesPage (config : SiteConfig) : ExceptT RunFault m Page := do
  let units ← requiredDocument sources Document.units "examples_reflection" config.examples
  (Page.ofExamples sources.read config units).adapt .page

def ifWanted (wanted : Bool) (page : ExceptT RunFault m Page) :
    ExceptT RunFault m (List Page) :=
  if wanted then do return [← page] else pure []

/-- The pages that a run is asked for: those of components, then those of the commands, the errors
and the examples. -/
def pages (config : SiteConfig) (target : Target) (only : Option String) :
    ExceptT RunFault m (List Page) := do
  let components ←
    if target = .all ∨ target = .components then componentPages sources config only else pure []
  let commands ← ifWanted (builds target .commands config.commands) (commandsPage sources config)
  let errors ←
    ifWanted (builds target .commonErrors config.commonErrors) (commonErrorsPage sources config)
  let examples ← ifWanted (builds target .examples config.examples) (examplesPage sources config)
  return components ++ commands ++ errors ++ examples

/-- The files that a run writes, in order: the target of each page, with its text. The run takes
place in the directory `here`. -/
def outputs (here : FilePath) (options : Options) :
    ExceptT RunFault m (List (FilePath × String)) := do
  let text ← sources.read options.config
  let config ← (SiteConfig.ofText options.config text : Except RunFault SiteConfig)
  let pages ← pages sources config options.target options.unit
  let outputDir := options.outputDir.getD config.outputDir
  return pages.map fun p =>
    (p.target outputDir config.docsRoot, p.write here config.docsRoot)

end

end Run

end DocPress
