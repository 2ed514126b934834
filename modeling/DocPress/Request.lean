import DocPress.Binary64.Reading
import DocPress.Run
import DocPress.Text.Lowercase

/-! # Requests

What a command line asks the program for. The only command, `generate`, takes options, each at most
once, and no other arguments; an option that is not given may be set in the environment. In the name
of an option an underscore counts as a hyphen. The value of an option does not begin with a hyphen,
unless it is a number.

* `Request.ofArguments?`: the request of a command line, or nothing if it breaks these rules. -/

set_option autoImplicit false

namespace DocPress

inductive Request where
  /-- To say how it is used, or what version it is; nothing is generated. -/
  | explain
  | generate (options : Run.Options)
deriving DecidableEq

namespace Request

inductive OptionName where
  | config
  | target
  | unit
  | outputDir
  | debug
deriving DecidableEq

def spellings : List (String × OptionName) :=
  [("--config", .config), ("--target", .target), ("--unit", .unit), ("--output-dir", .outputDir),
   ("--debug", .debug)]

def environmentNames : List (String × OptionName) :=
  [("REFDOCS_CONFIG", .config), ("REFDOCS_TARGET", .target), ("REFDOCS_UNIT", .unit),
   ("REFDOCS_OUTPUT_DIR", .outputDir), ("REFDOCS_DEBUG", .debug)]

abbrev Settings := List (OptionName × String)

/-- Gives a value to an option that has none. -/
def set? (settings : Settings) (option : OptionName) (value : String) : Option Settings :=
  if (settings.lookup option).isSome then none else some ((option, value) :: settings)

def isImaginaryUnit : List Char → Bool
  | [c] => c = 'j' || c = 'J'
  | _ => false

/-- Whether a text with a sign at its front is the rest of a sum: an imaginary number, whose
numeral is left out if it is one. -/
def isImaginaryTerm (cs : List Char) : Bool :=
  match cs with
  | c :: rest =>
    (c = '+' || c = '-')
      && isImaginaryUnit (((Binary64.readFront? cs).map Prod.snd).getD rest)
  | [] => false

/-- Whether a text is the numeral of a real number, of an imaginary one, or of the sum of both. -/
def isComplexNumeral (s : String) : Bool :=
  match Binary64.plainForm? s with
  | none => false
  | some cs =>
    match Binary64.readFront? cs with
    | some (_, rest) => rest.isEmpty || isImaginaryUnit rest || isImaginaryTerm rest
    | none => isImaginaryTerm cs

/-- Whether an argument looks like an option: it begins with a hyphen and is not a negative
number. -/
def isOptionLike (argument : String) : Bool :=
  argument.toList.head? = some '-' && (Numeral.readMarked? argument).isNone
    && !isComplexNumeral argument

def hyphenated (name : String) : String :=
  match name.toList with
  | '-' :: '-' :: cs => String.ofList ('-' :: '-' :: Text.replaceChar '_' ['-'] cs)
  | _ => name

def splitValue (argument : String) : String × Option String :=
  let cs := argument.toList
  match cs.dropWhile (· ≠ '=') with
  | _ :: value => (String.ofList (cs.takeWhile (· ≠ '=')), some (String.ofList value))
  | [] => (argument, none)

def settings? : List String → Settings → Option Settings
  | [], settings => some settings
  | argument :: rest, settings =>
    if argument = "--" then (if rest.isEmpty then some settings else none)
    else if hyphenated argument = "--no-debug" then
      (set? settings .debug "false").bind (settings? rest)
    else
      match splitValue argument, rest with
      | (name, some value), rest =>
        (spellings.lookup (hyphenated name)).bind fun option =>
          (set? settings option value).bind (settings? rest)
      | (name, none), rest =>
        match spellings.lookup (hyphenated name), rest with
        | some .debug, rest => (set? settings .debug "true").bind (settings? rest)
        | some option, value :: rest =>
          if isOptionLike value then none
          else (set? settings option value).bind (settings? rest)
        | _, _ => none

def targetOf? (name : String) : Option Run.Target :=
  if name = "all" then some .all
  else if name = "components" then some .components
  else if name = "cli" then some .commands
  else if name = "common-errors" then some .commonErrors
  else if name = "examples" then some .examples
  else none

def truthOf? (word : String) : Option Bool :=
  if ["yes", "y", "1", "true", "t"].contains (Text.lower word) then some true
  else if ["no", "n", "0", "false", "f"].contains (Text.lower word) then some false
  else none

/-- The value of an option, from the command line or else from the environment. -/
def valueOf? (settings : Settings) (environment : List (String × String)) (option : OptionName) :
    Option String :=
  (settings.lookup option).or
    ((environmentNames.find? fun v => v.2 = option).bind fun v => environment.lookup v.1)

def convert {α : Type} (read : String → Option α) (standard : α) : Option String → Option α
  | none => some standard
  | some value => read value

def options? (settings : Settings) (environment : List (String × String)) :
    Option Run.Options := do
  let standard : Run.Options := {}
  let value := valueOf? settings environment
  let target ← convert targetOf? standard.target (value .target)
  let isVerbose ← convert truthOf? standard.isVerbose (value .debug)
  return {
    config := ((value .config).map FilePath.ofString).getD standard.config
    target
    unit := value .unit
    outputDir := (value .outputDir).map FilePath.ofString
    isVerbose }

/-- The arguments that ask for an explanation wherever they stand. -/
def explaining : List String := ["--help", "-h", "--version"]

def ofArguments? (environment : List (String × String)) (arguments : List String) :
    Option Request :=
  if arguments.isEmpty || (arguments.takeWhile (· ≠ "--")).any explaining.contains then
    some .explain
  else
    match arguments with
    | "generate" :: rest => do
      let settings ← settings? rest []
      return .generate (← options? settings environment)
    | _ => none

end Request

end DocPress
