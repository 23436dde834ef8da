import ShapeCheck.Json.Writer
import ShapeCheck.Script.Basic
import ShapeCheck.Script.Name
import ShapeCheck.Spec.Basic

set_option autoImplicit false

/- Specs as expressions over a checker library. `binding` is the name the library is bound
   to. An expression is written between a text before it on its first line and a text after
   it on its last, so a combinator can wrap an expression of many lines. -/
namespace ShapeCheck.Script

def checkers : List Char := "props".toList

def primitiveName : PrimitiveKind → List Char
  | .string => "string".toList
  | .number => "number".toList
  | .boolean => "bool".toList
  | .object => "object".toList

def primitiveChecker (binding : List Char) (kind : PrimitiveKind) : List Char :=
  binding ++ '.' :: primitiveName kind

def literalList : List Json → List Char
  | [] => []
  | [literal] => literal.chars
  | literal :: rest => literal.chars ++ ',' :: ' ' :: literalList rest

def enumChecker (binding : List Char) (allowed : List Json) : List Char :=
  binding ++ ".oneOf([".toList ++ literalList allowed ++ "])".toList

-- A reference is resolved only when the checker runs, so definitions may be cyclic.
def referenceChecker (binding name : List Char) : List Char :=
  binding ++ ".oneOfType([(...args) => ".toList ++ member checkers name ++ "(...args)])".toList

def arrayCombinator (binding : List Char) : List Char := binding ++ ".arrayOf(".toList

def mapCombinator (binding : List Char) : List Char := binding ++ ".objectOf(".toList

def shapeCombinator (binding : List Char) (exact : Bool) : List Char :=
  binding ++ (if exact then ".exact(\x7b" else ".shape(\x7b").toList

def fieldEnd (required : Bool) : List Char :=
  (if required then ".isRequired," else ",").toList

mutual
def expression (script : Script) (binding before : List Char) (spec : Spec) (after : List Char) :
    Script :=
  match spec with
  | .primitive kind => script.line (before ++ primitiveChecker binding kind ++ after)
  | .enum allowed => script.line (before ++ enumChecker binding allowed ++ after)
  | .reference name => script.line (before ++ referenceChecker binding name.toList ++ after)
  | .array item =>
      expression script binding (before ++ arrayCombinator binding) item (')' :: after)
  | .map values =>
      expression script binding (before ++ mapCombinator binding) values (')' :: after)
  | .shape declared exact =>
      let opened := script.openGroup (before ++ shapeCombinator binding exact)
      (fields opened binding declared).closeGroup ('\x7d' :: ')' :: after)
def fields (script : Script) (binding : List Char) : List Field → Script
  | [] => script
  | ⟨name, spec, required⟩ :: rest =>
      let key := objectKey name.toList ++ [':', ' ']
      fields (expression script binding key spec (fieldEnd required)) binding rest
end

end ShapeCheck.Script
