set_option autoImplicit false

/- Indented text, written line by line. -/
namespace ShapeCheck

structure Script where
  lines : List (List Char)
  depth : Nat
deriving DecidableEq, Repr

namespace Script

def empty : Script := ⟨[], 0⟩

def indentation (depth : Nat) : List Char := List.replicate (2 * depth) ' '

def line (script : Script) (text : List Char) : Script :=
  { script with lines := script.lines ++ [indentation script.depth ++ text] }

def blank (script : Script) : Script :=
  { script with lines := script.lines ++ [[]] }

def openGroup (script : Script) (text : List Char) : Script :=
  { script.line text with depth := script.depth + 1 }

-- A line that closes a group, one level higher; at depth 0 it stays there.
def closeGroup (script : Script) (text : List Char) : Script :=
  { script with depth := script.depth - 1 }.line text

def chars (script : Script) : List Char :=
  script.lines.flatMap fun line => line ++ ['\n']

def render (script : Script) : String := String.ofList script.chars

end Script

end ShapeCheck
