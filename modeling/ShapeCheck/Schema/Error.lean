set_option autoImplicit false

/- What can be wrong with a schema document, and how it is reported. -/
namespace ShapeCheck

inductive SchemaError where
  | notAnObject
  | missingDefinitions
  | definitionsNotObject
  | propertiesNotObject
  | invalidRequired
  | referenceNotString
  | malformedReference (pointer : String)
  | typeNotString
  | invalidEnum
  | unknownType (name : String)
  | missingType
  | missingItems
  | inDefinition (name : String) (cause : SchemaError)
  | inProperty (name : String) (cause : SchemaError)
deriving DecidableEq, Repr

def SchemaError.message : SchemaError → String
  | .notAnObject => "schema must be a JSON object"
  | .missingDefinitions => "document has no 'definitions' section"
  | .definitionsNotObject => "definitions must be a JSON object"
  | .propertiesNotObject => "properties must be a JSON object"
  | .invalidRequired => "required must be an array of strings"
  | .referenceNotString => "ref must be a string"
  | .malformedReference pointer =>
      "malformed ref '" ++ pointer ++ "': expected '#/definitions/<name>'"
  | .typeNotString => "type must be a string"
  | .invalidEnum => "enum must be an array"
  | .unknownType name => "Unknown definition type \"" ++ name ++ "\""
  | .missingType => "definition has no type, ref or enum"
  | .missingItems => "array definition has no 'items'"
  | .inDefinition name cause => "definition '" ++ name ++ "': " ++ cause.message
  | .inProperty name cause => "property '" ++ name ++ "': " ++ cause.message

end ShapeCheck
