import ShapeCheck.Json.Basic

set_option autoImplicit false

/- Compiled checks. A spec is a tree that says what a value has to look like; a reference
   stays a name and is looked up only when a value is checked. -/
namespace ShapeCheck

inductive PrimitiveKind where
  | string
  | number
  | boolean
  | object
deriving DecidableEq, Repr

def PrimitiveKind.name : PrimitiveKind → String
  | .string => "string"
  | .number => "number"
  | .boolean => "boolean"
  | .object => "object"

mutual
inductive Spec where
  | primitive (kind : PrimitiveKind)
  | enum (allowed : List Json)
  | array (item : Spec)
  -- An object with declared fields; when exact, it has no others.
  | shape (fields : List Field) (exact : Bool)
  | map (value : Spec)
  | reference (name : String)
structure Field where
  name : String
  spec : Spec
  required : Bool
end

namespace Spec

def isReference : Spec → Bool
  | .reference _ => true
  | _ => false

mutual
def references : Spec → List String
  | .primitive _ => []
  | .enum _ => []
  | .array item => references item
  | .shape fields _ => fieldReferences fields
  | .map value => references value
  | .reference name => [name]
def fieldReferences : List Field → List String
  | [] => []
  | ⟨_, spec, _⟩ :: rest => references spec ++ fieldReferences rest
end

def summary : Spec → String
  | .primitive kind => kind.name
  | .enum allowed => "enum of " ++ toString allowed.length
  | .array _ => "array"
  | .shape fields _ =>
      "shape with " ++ toString fields.length ++ " fields (" ++
        toString (fields.countP (·.required)) ++ " required)"
  | .map _ => "map"
  | .reference name => "reference to " ++ name

end Spec

end ShapeCheck
