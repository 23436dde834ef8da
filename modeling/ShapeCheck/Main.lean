import ShapeCheck.CommandLine.Run
import ShapeCheck.Source.Directory

set_option autoImplicit false

/- The program itself: reads what the arguments name, runs, and prints. -/
namespace ShapeCheck.CommandLine

-- The number of a system error, whichever sign it is reported with.
def errorNumber (code : UInt32) : Nat := min code.toNat (UInt32.size - code.toNat)

def readErrorOf : IO.Error → ReadError
  | .noFileOrDirectory _ _ _ => .notFound
  | .inappropriateType _ code _ => if errorNumber code = 20 then .notDirectory else .isDirectory
  | .invalidArgument _ code _ => if errorNumber code = 36 then .nameTooLong else .invalidName
  | _ => .notFound

def readBytes (path : String) : IO (Except ReadError String) := do
  try
    let content ← IO.FS.readBinFile path
    return Directory.decode content
  catch error => return .error (readErrorOf error)

def readStandardInput : IO (Except ReadError String) := do
  let stream ← IO.getStdin
  let content ← stream.readBinToEnd
  return Directory.decode content

def readFiles (arguments : List String) : IO (List (String × Except ReadError String)) :=
  arguments.mapM fun path => return (path, ← readBytes path)

def Command.files : Command → List String
  | .validate source _ (some file) _ _ => [source, file]
  | command => [command.source]

def Command.readsInput : Command → Bool
  | .validate _ _ none _ _ => true
  | _ => false

def environmentFor (command : Option Command) : IO Environment := do
  let files ← readFiles ((command.map Command.files).getD [])
  let input ← if command.any Command.readsInput then readStandardInput else pure (.ok "")
  let logSetting ← IO.getEnv logVariable
  return {
    read := fun path => (Entries.get? path files).getD (.error .notFound)
    input
    logSetting }

def runProgram (arguments : List String) : IO UInt32 := do
  let command := match Invocation.ofArguments arguments with
    | .run request => some request.command
    | _ => none
  let environment ← environmentFor command
  let report := run environment arguments
  IO.print report.output
  IO.eprint report.errors
  return report.code.toUInt32

end ShapeCheck.CommandLine

def main (arguments : List String) : IO UInt32 :=
  ShapeCheck.CommandLine.runProgram arguments
