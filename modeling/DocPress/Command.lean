import DocPress.Markup
import DocPress.Section
import DocPress.Text.Search

/-! # Commands

The tree of the commands of a command line, and its page. The root holds the global flags, its
children are the commands, and their children the subcommands; hidden ones are left out of the page.

* `Command`, `Argument`, `Flag`: the tree.
* `Command.sections`: the sections of the page. -/

set_option autoImplicit false

namespace DocPress

structure Argument where
  name : String
  description : String
  isRequired : Bool
deriving DecidableEq

namespace Argument

/-- The name, with a question mark after it if the argument may be left out. -/
def label (a : Argument) : String := if a.isRequired then a.name else a.name ++ "?"

def usage (a : Argument) : String :=
  if a.isRequired then "<" ++ a.name ++ ">" else "[" ++ a.name ++ "]"

end Argument

structure Flag where
  name : String
  description : String
  type : String
deriving DecidableEq

/-- The fragment of the type of a flag; `[a,b]` lists the values that it allows. -/
def Flag.renderType (type : String) : String :=
  let cs := type.toList
  if cs.head? = some '[' ∧ cs.getLast? = some ']' then
    Markup.unionSeparator.intercalate
      ((Text.split ',' (String.ofList (cs.drop 1).dropLast)).map Markup.quoted)
  else if type = "bool" then Markup.code "primitive" "boolean"
  else Markup.code "primitive" type

structure Command where
  name : String
  description : String
  arguments : List Argument
  flags : List Flag
  children : List Command
  isHidden : Bool

namespace Command

def usage (c : Command) : String :=
  " ".intercalate (c.name :: c.arguments.map Argument.usage)

def visibleChildren (c : Command) : List Command := c.children.filter fun s => !s.isHidden

def usageBlock (usage : String) : List String :=
  ["<Section type=\"signature\">", "```sh frame=\"none\"", "sst " ++ usage, "```", "</Section>"]

def parameterBlock (title : String) (lines : List String) : List String :=
  if lines.isEmpty then []
  else ["<Section type=\"parameters\">", title] ++ lines ++ ["</Section>"]

/-- A block with an empty line before it. -/
def spaced (block : List String) : List String := if block.isEmpty then [] else "" :: block

def itemLines (shown description : String) : List String :=
  ["- <p>" ++ shown ++ "</p>", "<p>" ++ description ++ "</p>"]

def anchorOf (c s : Command) : String := c.name ++ "-" ++ s.name

/-- The list of links to the subcommands. A command all of whose subcommands are hidden has an
empty one. -/
def subcommandBlock (c : Command) : List String :=
  if c.children.isEmpty then []
  else
    ["", "<Section type=\"parameters\">", "#### Subcommands"]
      ++ c.visibleChildren.map (fun s =>
          "- <p>[" ++ Markup.code "key" s.name ++ "](#" ++ c.anchorOf s ++ ")</p>")
      ++ ["</Section>"]

def body (c : Command) : List String :=
  ["<Segment>"]
    ++ (if c.children.isEmpty then usageBlock c.usage else [])
    ++ spaced (parameterBlock "#### Args"
        (c.arguments.flatMap fun a => itemLines (Markup.code "key" a.label) a.description))
    ++ spaced (parameterBlock "#### Flags"
        (c.flags.flatMap fun f =>
          itemLines (Markup.code "key" f.name ++ " " ++ Flag.renderType f.type) f.description))
    ++ c.subcommandBlock
    ++ [c.description, "</Segment>"]

def subcommandSection (c s : Command) : Section where
  title := s.name
  level := 4
  body :=
    ["<Segment>"] ++ usageBlock (c.name ++ " " ++ s.usage)
      ++ parameterBlock "#### Args"
          (s.arguments.flatMap fun a => itemLines (Markup.code "key" a.name) a.description)
      ++ parameterBlock "#### Flags"
          (s.flags.flatMap fun f => itemLines (Markup.code "key" f.name) f.description)
      ++ [s.description, "</Segment>"]
  anchor := some (c.anchorOf s)
  parent := some (c.name ++ " ")

def commandSections (c : Command) : List Section :=
  { title := c.name, level := 3, body := c.body } :: c.visibleChildren.map c.subcommandSection

def globalFlag (f : Flag) : Section where
  title := f.name
  level := 3
  body :=
    ["<Segment>", "<Section type=\"parameters\">", "<InlineSection>",
     "**Type** " ++ Flag.renderType f.type, "</InlineSection>", "</Section>", f.description,
     "</Segment>"]

def sections (root : Command) : List Section :=
  [Section.plain
    ["", "<Section type=\"about\">", root.description, "</Section>", "", "---"]]
    ++ (if root.flags.isEmpty then [] else [Section.headingOnly "Global Flags" 2])
    ++ root.flags.map globalFlag
    ++ (if root.children.isEmpty then [] else [Section.headingOnly "Commands" 2])
    ++ root.visibleChildren.flatMap commandSections

end Command

/-- An error that the command line reports, with lines on how to mend it. -/
structure CommonError where
  code : String
  message : String
  long : List String
deriving DecidableEq

/-- The sections of the page of errors: an introduction, and one without a heading per error. -/
def CommonError.sections (errors : List CommonError) : List Section :=
  Section.plain
    ["Below is a collection of common errors you might encounter when using SST.", "", ":::tip",
     "The error messages in the CLI link to this doc.", ":::", "",
     "The error messages and descriptions in this doc are auto-generated from the CLI.", ""]
    :: errors.map fun e =>
      Section.plain
        (["", "---", "", "## " ++ e.code, "", "> " ++ e.message, ""] ++ e.long)

end DocPress
