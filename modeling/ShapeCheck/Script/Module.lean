import ShapeCheck.Script.Checker
import ShapeCheck.Spec.Table

set_option autoImplicit false

/- A module that defines one checker for every entry of a table. -/
namespace ShapeCheck.Script

structure ModuleOptions where
  binding : String
  package : String
deriving DecidableEq, Repr

def ModuleOptions.standard : ModuleOptions := ⟨"PropTypes", "prop-types"⟩

def importLine (options : ModuleOptions) : List Char :=
  ("import " ++ options.binding ++ " from '" ++ options.package ++ "';").toList

def header (options : ModuleOptions) : Script :=
  ((empty.line (importLine options)).blank.line
    ("const ".toList ++ checkers ++ " = \x7b\x7d;".toList)).blank

def definition (script : Script) (binding : List Char) (entry : String × Spec) : Script :=
  let target := member checkers entry.1.toList ++ [' ', '=', ' ']
  (expression script binding target entry.2 [';']).blank

def footer (script : Script) : Script :=
  script.line ("export default ".toList ++ checkers ++ [';'])

def ofTable (options : ModuleOptions) (table : Table) : Script :=
  footer (table.entries.foldl (definition · options.binding.toList) (header options))

end ShapeCheck.Script
