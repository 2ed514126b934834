import DocPress.Page.OfUnit
import DocPress.Text.Search

/-! # The page of examples

Each example app has a unit of its own, with one documented declaration. Its entry shows that
comment and the body of the `run` function, which is taken from the source of the app.

* `Example.runFunction?`: the lines of the `run` function in the text of a source.
* `Page.ofExamples`: the page of all examples. -/

set_option autoImplicit false

namespace DocPress

namespace Example

def runStart : String := "  async run() \x7b"

def runEnd : String := "  \x7d,"

/-- The lines after the first line `runStart` up to the last line `runEnd`, none of them if the last
such line comes first. -/
def linesBetween? (lines : List String) : Option (List String) :=
  match lines.findIdx? (· = runStart), lines.reverse.findIdx? (· = runEnd) with
  | some start, some fromBack =>
    some ((lines.take (lines.length - 1 - fromBack)).drop (start + 1))
  | _, _ => none

/-- The lines of a source, each tab in them written as two blanks. -/
def sourceLines (text : String) : List String :=
  Text.split '\n' (String.ofList (Text.replaceChar '\t' "  ".toList text.toList))

def dedent (line : String) : String := String.ofList (line.toList.drop 4)

/-- The block that shows the body of the `run` function in the text of a source. -/
def runFunction? (text : String) : Option (List String) :=
  (linesBetween? (sourceLines text)).map fun body =>
    ["```ts title=\"sst.config.ts\""] ++ body.map dedent ++ ["```"]

/-- The comment of an example: that of the only declaration of its unit. -/
def comment? (unit : DocUnit) : Option DocComment :=
  match unit.declarations with
  | [d] => d.comment
  | _ => none

def intro (repositoryUrl : String) : Section :=
  Section.plain
    ["Below is a collection of example SST apps. These are available in the [`examples/`]("
       ++ repositoryUrl ++ "/tree/dev/examples) directory of the repo.",
     "",
     ":::tip",
     "This doc is best viewed through the site search or through the _AI_.",
     ":::",
     "",
     "The descriptions for these examples are generated using the comments in the "
       ++ "`sst.config.ts` of the app.",
     "",
     "#### Contributing",
     "To contribute an example or to edit one, submit a PR to the [repo](" ++ repositoryUrl ++ ").",
     "Make sure to document the `sst.config.ts` in your example.",
     ""]

def entry (repositoryUrl name summary : String) (run : List String) : Section :=
  Section.plain
    (["", "---", summary] ++ run
      ++ ["", "View the [full example](" ++ repositoryUrl ++ "/tree/dev/examples/" ++ name ++ ").",
        ""])

/-- The body of the `run` function in the source at `path`, which has the given text if it can be
read. -/
def runFunctionOf (path : FilePath) : Except FileFault String → Except Fault (List String)
  | .error fault => .error (.exampleUnreadable path fault)
  | .ok text =>
    match runFunction? (String.ofList (Text.unifyLineEnds text.toList)) with
    | none => .error (.runFunctionMissing path)
    | some run => .ok run

/-- What the section of the example of a unit shows of the unit: its name, the summary of a comment,
and the path of its source. -/
def parts (config : SiteConfig) (unit : DocUnit) (comment : DocComment) :
    Except Fault (String × String × FilePath) := do
  let segments ← unit.segments
  let summary ← comment.summaryLine
  let source ← unit.requiredSource
  return (segments.headD "", summary, config.examplesRoot.join (.ofString source))

/-- The sections of the examples among units, whose sources are read by `read`. -/
def sections {m : Type → Type} [Monad m] (read : FilePath → m (Except FileFault String))
    (config : SiteConfig) : List DocUnit → ExceptT Fault m (List Section)
  | [] => pure []
  | u :: us =>
    match comment? u with
    | none => sections read config us
    | some comment => do
      let (name, summary, path) ← (parts config u comment : Except Fault _)
      let run ← (runFunctionOf path (← read path) : Except Fault (List String))
      let rest ← sections read config us
      return entry config.repositoryUrl name summary run :: rest

end Example

def Page.ofExamples {m : Type → Type} [Monad m] (read : FilePath → m (Except FileFault String))
    (config : SiteConfig) (units : List DocUnit) : ExceptT Fault m Page := do
  let examples ← Example.sections read config units
  return {
    title := "Examples"
    description := "A collection of example apps for reference."
    source := "examples/"
    outputPath := .ofString "examples.mdx"
    sections := Example.intro config.repositoryUrl :: examples
    wrapBody := false }

end DocPress
