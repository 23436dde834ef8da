import ShapeCheck.CommandLine.Arguments
import ShapeCheck.CommandLine.LogFilter
import ShapeCheck.Instance.Tree
import ShapeCheck.Source.Document
import ShapeCheck.Validation.Check

set_option autoImplicit false

/- The program as a function: from its arguments and what it can read to what it prints. -/
namespace ShapeCheck.CommandLine

structure Environment where
  read : FileReader
  input : Except ReadError String
  logSetting : Option String

structure Report where
  code : Nat
  output : String
  errors : String
deriving DecidableEq, Repr

inductive Failure where
  | load (source : String) (cause : SourceError)
  | compile (cause : SchemaError)
  | readFile (path : String) (cause : ReadError)
  | readInput (cause : ReadError)
  | instanceText
  | unresolved (cause : Unresolved)
deriving DecidableEq, Repr

def causeText : SourceError → String
  | .unreadable _ cause => ": " ++ cause.message
  | .schema cause => ": " ++ cause.message
  | .json _ => ""
  | .fetchDisabled _ => ""

-- An error that carries a cause shows it twice, in its own message and as the cause. The place of
-- a defect in a JSON text is not told.
def Failure.message : Failure → String
  | .load source (.json _) => "failed to load " ++ source ++ ": invalid JSON: <json>"
  | .load source cause => "failed to load " ++ source ++ ": " ++ cause.message ++ causeText cause
  | .compile cause => "failed to compile definitions: " ++ cause.message
  | .readFile path cause => "cannot read " ++ path ++ ": " ++ cause.message
  | .readInput cause => "cannot read stdin: " ++ cause.message
  | .instanceText => "instance is not valid JSON: <json>"
  | .unresolved cause => cause.message

def logVariable : String := "SWAGGER_PROPTYPES_LOG"

def printEntries (table : Table) : String :=
  String.join (table.entries.map fun entry => entry.1 ++ ": " ++ entry.2.summary ++ "\n")

def violationJson (violation : Violation) : Json :=
  .object [("path", .string violation.path.render),
    ("via", .array (violation.via.map Json.string)),
    ("message", .string violation.message),
    ("kind", .string violation.kind.name)]

def printViolations (json : Bool) (violations : List Violation) : String :=
  if json then (Json.array (violations.map violationJson)).renderIndented ++ "\n"
  else if violations.isEmpty then "ok\n"
  else String.join (violations.map fun violation =>
    violation.kind.name ++ " " ++ violation.text ++ "\n")

def readInstance (environment : Environment) (file : Option String) : Except Failure Json := do
  let text ← match file with
    | some path => (environment.read path).mapError (.readFile path)
    | none => environment.input.mapError .readInput
  (Json.parse text).mapError fun _ => .instanceText

def execute (environment : Environment) (table : Table) : Command → Except Failure (Nat × String)
  | .compile _ => .ok (0, printEntries table)
  | .module _ options => .ok (0, (Script.ofTable options table).render)
  | .validate _ definition file exact json => do
      let value ← readInstance environment file
      let data := Tree.data value.size
      let check := if exact then table.checkEntryExactly else table.checkEntry
      let violations ← (check data definition (Tree.root value)).mapError .unresolved
      return (if violations.isEmpty then 0 else 1, printViolations json violations)

def Command.source : Command → String
  | .compile source => source
  | .module source _ => source
  | .validate source _ _ _ _ => source

def failed (log : String) (failure : Failure) : Report :=
  ⟨1, "", log ++ "error: " ++ failure.message ++ "\n"⟩

def runRequest (environment : Environment) (request : Request) : Report :=
  let source := request.command.source
  match loadDefinitions environment.read source with
  | .error cause => failed "" (.load source cause)
  | .ok definitions =>
      let filter := LogFilter.choose environment.logSetting request.quiet request.verbose
      let compilation := definitions.compilation
      let log := filter.lines compilation.events
      match compilation.result with
      | .error cause => failed log (.compile cause)
      | .ok table =>
          match execute environment table request.command with
          | .error failure => failed log failure
          | .ok (code, output) => ⟨code, output, log⟩

def usage : String :=
  "Usage: swagger-proptypes [-q|-v] <compile|module|validate> <SOURCE> [DEFINITION] [INSTANCE]\n"

def versionLine : String := "swagger-proptypes 0.1.0\n"

def run (environment : Environment) (arguments : List String) : Report :=
  match Invocation.ofArguments arguments with
  | .run request => runRequest environment request
  | .help => ⟨0, usage, ""⟩
  | .version => ⟨0, versionLine, ""⟩
  | .invalid => ⟨2, "", ""⟩

end ShapeCheck.CommandLine
