import ShapeCheck.Validation.Path

set_option autoImplicit false

/- What checking a value can report: violations, which are found one by one and do not stop
   the check, and a reference to an unknown definition, which does. -/
namespace ShapeCheck

inductive ViolationKind where
  | typeMismatch
  | missingRequired
  | unexpectedProperty
  | enumMismatch
deriving DecidableEq, Repr

def ViolationKind.name : ViolationKind → String
  | .typeMismatch => "TypeMismatch"
  | .missingRequired => "MissingRequired"
  | .unexpectedProperty => "UnexpectedProperty"
  | .enumMismatch => "EnumMismatch"

structure Violation where
  path : Path
  -- The references followed to the value, the outermost first.
  via : List String
  message : String
  kind : ViolationKind
deriving DecidableEq, Repr

def Violation.text (violation : Violation) : String :=
  let located := violation.path.render ++ ": " ++ violation.message
  match violation.via.getLast? with
  | some innermost => located ++ " (via " ++ innermost ++ ")"
  | none => located

structure Unresolved where
  name : String
  path : Path
deriving DecidableEq, Repr

def Unresolved.message (unresolved : Unresolved) : String :=
  "No reference \"" ++ unresolved.name ++ "\" found (at " ++ unresolved.path.render ++ ")"

end ShapeCheck
