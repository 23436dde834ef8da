import ShapeCheck.Spec.Compile
import ShapeCheck.Text.Quoted

set_option autoImplicit false

/- What compiling a document reports on the way, by severity. -/
namespace ShapeCheck

inductive LogLevel where
  | error
  | warn
  | info
  | debug
  | trace
deriving DecidableEq, Repr

namespace LogLevel

def name : LogLevel → String
  | .error => "ERROR"
  | .warn => "WARN"
  | .info => "INFO"
  | .debug => "DEBUG"
  | .trace => "TRACE"

def verbosity : LogLevel → Nat
  | .error => 1
  | .warn => 2
  | .info => 3
  | .debug => 4
  | .trace => 5

end LogLevel

namespace CompileEvent

def level : CompileEvent → LogLevel
  | .skipped _ => .info
  | .compiled _ => .debug
  | .dangling _ => .warn

def message : CompileEvent → String
  | .skipped _ => "skipping non-object definition"
  | .compiled _ => "compiled definition"
  | .dangling _ => "reference target is not a compiled definition"

def subject : CompileEvent → String
  | .skipped definition => definition
  | .compiled definition => definition
  | .dangling reference => reference

def subjectRole : CompileEvent → String
  | .skipped _ => "definition"
  | .compiled _ => "definition"
  | .dangling _ => "reference"

def subjectText : CompileEvent → String
  | .skipped definition => Text.quoted definition
  | .compiled definition => Text.quoted definition
  | .dangling reference => reference

end CompileEvent

end ShapeCheck
