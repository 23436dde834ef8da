import ShapeCheck.Script.Module

set_option autoImplicit false

/- The arguments of the program. Options may stand before, between and after the other
   arguments of a command, and `--` ends them. -/
namespace ShapeCheck.CommandLine

inductive Command where
  | compile (source : String)
  | module (source : String) (options : Script.ModuleOptions)
  | validate (source definition : String) (file : Option String) (exact json : Bool)
deriving DecidableEq, Repr

structure Request where
  command : Command
  quiet : Bool
  verbose : Bool
deriving DecidableEq, Repr

inductive Invocation where
  | run (request : Request)
  | help
  | version
  | invalid
deriving DecidableEq, Repr

inductive Operand where
  | text
  | file
deriving DecidableEq, Repr

def Operand.accepts : Operand → String → Bool
  | .text, _ => true
  | .file, name => ! name.isEmpty

structure Options where
  flags : List (String × Option Char)
  valued : List String
  stops : List (String × Char × Invocation)
  operands : List Operand

def globalFlags : List (String × Option Char) :=
  [("quiet", some 'q'), ("verbose", some 'v')]

def helpStop : String × Char × Invocation := ("help", 'h', .help)

def versionStop : String × Char × Invocation := ("version", 'V', .version)

structure Given where
  flags : List String
  values : List (String × String)
  operands : List String
deriving DecidableEq, Repr

namespace Given

def empty : Given := ⟨[], [], []⟩

def addFlag (given : Given) (name : String) : Except Invocation Given :=
  if given.flags.contains name then .error .invalid
  else .ok { given with flags := given.flags ++ [name] }

def addValue (given : Given) (name value : String) : Except Invocation Given :=
  if given.values.any (·.1 == name) then .error .invalid
  else .ok { given with values := given.values ++ [(name, value)] }

def addOperand (given : Given) (places : List Operand) (operand : String) :
    Except Invocation Given :=
  if places[given.operands.length]?.any (·.accepts operand) then
    .ok { given with operands := given.operands ++ [operand] }
  else .error .invalid

def has (given : Given) (name : String) : Bool := given.flags.contains name

end Given

inductive ArgumentForm where
  | terminator
  | long (name : String) (value : Option String)
  | letters (names : List Char)
  | operand
deriving DecidableEq, Repr

-- A lone dash is an operand.
def formOf (argument : String) : ArgumentForm :=
  match argument.toList with
  | ['-', '-'] => .terminator
  | '-' :: '-' :: text =>
      let name := String.ofList (text.takeWhile (· != '='))
      match text.dropWhile (· != '=') with
      | _ :: value => .long name (some (String.ofList value))
      | [] => .long name none
  | ['-'] => .operand
  | '-' :: letters => .letters letters
  | _ => .operand

namespace Options

def flagOf? (options : Options) (letter : Char) : Option String :=
  (options.flags.find? (·.2 == some letter)).map Prod.fst

def stopAt (options : Options) (named : String × Char × Invocation → Bool) : Invocation :=
  match options.stops.find? named with
  | some (_, _, invocation) => invocation
  | none => .invalid

end Options

def readLetters (options : Options) (given : Given) : List Char → Except Invocation Given
  | [] => .ok given
  | letter :: rest =>
      match options.flagOf? letter with
      | some name => do
          let added ← given.addFlag name
          readLetters options added rest
      | none => .error (options.stopAt (·.2.1 == letter))

def readFlag (options : Options) (given : Given) (name : String) (value : Option String) :
    Except Invocation Given :=
  if value.isSome then .error .invalid
  else if options.flags.any (·.1 == name) then given.addFlag name
  else .error (options.stopAt (·.1 == name))

-- Reads the arguments that follow the name of a command. The value of an option stands in the
-- same argument, or is the next one if that does not look like an option.
def readArguments (options : Options) (given : Given) : List String → Except Invocation Given
  | [] => .ok given
  | argument :: rest =>
      match formOf argument with
      | .terminator => rest.foldlM (·.addOperand options.operands ·) given
      | .operand => do
          let added ← given.addOperand options.operands argument
          readArguments options added rest
      | .letters names => do
          let added ← readLetters options given names
          readArguments options added rest
      | .long name value =>
          if options.valued.contains name then
            match value, rest with
            | some value, rest => do
                let added ← given.addValue name value
                readArguments options added rest
            | none, [] => .error .invalid
            | none, next :: later =>
                if formOf next = .operand then do
                  let added ← given.addValue name next
                  readArguments options added later
                else .error .invalid
          else do
            let added ← readFlag options given name value
            readArguments options added rest

def optionsOf? : String → Option Options
  | "compile" => some ⟨globalFlags, [], [helpStop], [.text]⟩
  | "module" => some ⟨globalFlags, ["binding", "package"], [helpStop], [.text]⟩
  | "validate" =>
      some ⟨globalFlags ++ [("exact", none), ("json", none)], [], [helpStop], [.text, .text, .file]⟩
  | _ => none

def programOptions : Options := ⟨globalFlags, [], [helpStop, versionStop], []⟩

def commandOf? (name : String) (given : Given) : Option Command :=
  match name, given.operands with
  | "compile", [source] => some (.compile source)
  | "module", [source] =>
      let standard := Script.ModuleOptions.standard
      some (.module source
        ⟨(Entries.get? "binding" given.values).getD standard.binding,
          (Entries.get? "package" given.values).getD standard.package⟩)
  | "validate", [source, definition] =>
      some (.validate source definition none (given.has "exact") (given.has "json"))
  | "validate", [source, definition, file] =>
      some (.validate source definition (some file) (given.has "exact") (given.has "json"))
  | _, _ => none

def helpTopics : List String := ["compile", "module", "validate", "help"]

def readHelp : List String → Invocation
  | [] => .help
  | [topic] => if helpTopics.contains topic then .help else .invalid
  | _ => .invalid

def readCommand (before : Given) (name : String) (arguments : List String) : Invocation :=
  match optionsOf? name with
  | none => if name = "help" then readHelp arguments else .invalid
  | some options =>
      match readArguments options .empty arguments with
      | .error invocation => invocation
      | .ok given =>
          match commandOf? name given with
          | none => .invalid
          | some command =>
              .run ⟨command, before.has "quiet" || given.has "quiet",
                before.has "verbose" || given.has "verbose"⟩

def readProgram (given : Given) : List String → Invocation
  | [] => .invalid
  | argument :: rest =>
      match formOf argument with
      | .terminator => .invalid
      | .operand => readCommand given argument rest
      | .letters names =>
          match readLetters programOptions given names with
          | .error invocation => invocation
          | .ok added => readProgram added rest
      | .long name value =>
          match readFlag programOptions given name value with
          | .error invocation => invocation
          | .ok added => readProgram added rest

def Invocation.ofArguments (arguments : List String) : Invocation :=
  readProgram .empty arguments

end ShapeCheck.CommandLine
