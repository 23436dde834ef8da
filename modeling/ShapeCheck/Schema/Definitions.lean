import ShapeCheck.Schema.Reader

set_option autoImplicit false

/- The named definitions of a document, in the order they are declared. -/
namespace ShapeCheck

structure Definitions where
  entries : List (String × Schema)

namespace Definitions

def ofPairs (pairs : List (String × Schema)) : Definitions := ⟨pairs⟩

def get? (definitions : Definitions) (name : String) : Option Schema :=
  Entries.get? name definitions.entries

def size (definitions : Definitions) : Nat := definitions.entries.length

def isEmpty (definitions : Definitions) : Bool := definitions.entries.isEmpty

def readMembers : List (String × Json) → Except SchemaError (List (String × Schema))
  | [] => .ok []
  | (name, value) :: rest => do
      let schema ← (Schema.ofJson value).mapError (.inDefinition name)
      let others ← readMembers rest
      return (name, schema) :: others

def ofJson : Json → Except SchemaError Definitions
  | .object members => (readMembers members).map ofPairs
  | _ => .error .definitionsNotObject

def ofDocument : Json → Except SchemaError Definitions
  | .object members =>
      match Entries.get? "definitions" members with
      | none => .error .missingDefinitions
      | some definitions => ofJson definitions
  | _ => .error .notAnObject

end Definitions

end ShapeCheck
