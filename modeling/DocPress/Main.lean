import DocPress.Request

/-! # The program

Reads the command line and the environment, runs, and writes the files of the run. -/

set_option autoImplicit false

namespace DocPress.Main

def usage : String :=
  "usage: docpress generate [--config PATH] [--target all|components|cli|common-errors|examples] "
    ++ "[--unit NAME] [--output-dir PATH] [--debug|--no-debug]"

/-- Why a file cannot be used, by the error that its use ends with. -/
def faultOf : IO.Error → FileFault
  | .inappropriateType .. => .isDirectory
  | .alreadyExists .. => .fileInTheWay
  | .invalidArgument .. => .nameNotAllowed
  | _ => .missing

def readFile (path : FilePath) : IO (Except FileFault String) := do
  try return .ok (← IO.FS.readFile path.text)
  catch e => return .error (faultOf e)

/-- What stands at an address of the web; the program has no access to it. -/
def fetchAddress (_ : String) : IO (Except FetchFault String) := return .error .unreachable

def writeFile (path : FilePath) (text : String) : IO Unit := do
  IO.FS.createDirAll path.parent.text
  IO.FS.writeFile path.text text

def environment : IO (List (String × String)) :=
  Request.environmentNames.filterMapM fun v => do
    return (← IO.getEnv v.1).map fun value => (v.1, value)

def generate (options : Run.Options) : IO UInt32 := do
  let here := FilePath.ofString (← IO.currentDir).toString
  match ← (Run.outputs ⟨readFile, fetchAddress⟩ here options).run with
  | .error fault =>
    IO.eprintln fault.message
    return 1
  | .ok files =>
    for (path, text) in files do
      writeFile path text
    for (path, _) in files do
      IO.println ("wrote " ++ (FilePath.shownFrom here path).text)
    return 0

end DocPress.Main

open DocPress in
def main (arguments : List String) : IO UInt32 := do
  match Request.ofArguments? (← Main.environment) arguments with
  | none =>
    IO.eprintln Main.usage
    return 1
  | some .explain =>
    IO.println Main.usage
    return 0
  | some (.generate options) => Main.generate options
