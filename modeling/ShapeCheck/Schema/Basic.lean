import ShapeCheck.Json.Basic

set_option autoImplicit false

/- Schema nodes, as the keywords they carry. A keyword is kept as it was written, so that
   an unknown type name or a malformed reference is reported where it is used. -/
namespace ShapeCheck

inductive SchemaType where
  | string
  | number
  | integer
  | boolean
  | array
  | object
deriving DecidableEq, Repr

def SchemaType.keyword : SchemaType → String
  | .string => "string"
  | .number => "number"
  | .integer => "integer"
  | .boolean => "boolean"
  | .array => "array"
  | .object => "object"

def SchemaType.ofKeyword? (word : String) : Option SchemaType :=
  [SchemaType.string, .number, .integer, .boolean, .array, .object].find? (·.keyword == word)

mutual
structure Schema where
  typeName : Option String
  reference : Option String
  allowed : Option (List Json)
  properties : Option (List (String × Schema))
  required : List String
  additional : Option Additional
  items : Option Schema
inductive Additional where
  | any
  | schema (values : Schema)
end

namespace Schema

def requires (schema : Schema) (key : String) : Bool :=
  schema.required.contains key

-- A node describes an object if its type says so, or if it has no type, reference or literals but
-- some object keyword.
def describesObject (schema : Schema) : Bool :=
  match schema.typeName with
  | some name => SchemaType.ofKeyword? name == some .object
  | none =>
      schema.reference.isNone && schema.allowed.isNone &&
        (schema.properties.isSome || schema.additional.isSome)

end Schema

end ShapeCheck
