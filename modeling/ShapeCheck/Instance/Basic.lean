import ShapeCheck.Json.Basic

set_option autoImplicit false

/- What a check needs to know of the data it is applied to. A value is seen one layer at a
   time: a scalar, or a container with an identity and its children. Children may be shared
   and may lead back to the container, so only the identities are known to be finite. -/
namespace ShapeCheck

inductive Kind where
  | null
  | boolean
  | number
  | string
  | array
  | object
deriving DecidableEq, Repr

namespace Kind

def name : Kind → String
  | .null => "null"
  | .boolean => "boolean"
  | .number => "number"
  | .string => "string"
  | .array => "array"
  | .object => "object"

def isContainer : Kind → Bool
  | .array => true
  | .object => true
  | _ => false

end Kind

def Scalar.kind : Scalar → Kind
  | .null => .null
  | .boolean _ => .boolean
  | .number _ => .number
  | .string _ => .string

inductive Layer (ν : Type) where
  | scalar (value : Scalar)
  | array (id : Nat) (items : List ν)
  | object (id : Nat) (entries : List (String × ν))

namespace Layer

variable {ν : Type}

def kind : Layer ν → Kind
  | .scalar value => value.kind
  | .array _ _ => .array
  | .object _ _ => .object

def identity? : Layer ν → Option Nat
  | .scalar _ => none
  | .array id _ => some id
  | .object id _ => some id

def items : Layer ν → List ν
  | .array _ items => items
  | _ => []

def entries : Layer ν → List (String × ν)
  | .object _ entries => entries
  | _ => []

def keys (layer : Layer ν) : List String := Entries.keys layer.entries

def field? (layer : Layer ν) (key : String) : Option ν := Entries.get? key layer.entries

def equalsLiteral (layer : Layer ν) (literal : Json) : Bool :=
  match layer with
  | .scalar value => value.equalsLiteral literal
  | _ => false

end Layer

structure Instance (ν : Type) where
  view : ν → Layer ν
  preview : ν → String
  bound : Nat
  bounded : ∀ value id, (view value).identity? = some id → id < bound

namespace Instance

variable {ν : Type}

def kind (data : Instance ν) (value : ν) : Kind := (data.view value).kind

end Instance

def previewLimit : Nat := 40

def shortened (text : List Char) : String :=
  if text.length ≤ previewLimit then String.ofList text
  else String.ofList (text.take previewLimit ++ ['…'])

end ShapeCheck
