import ShapeCheck.Schema.Definitions
import ShapeCheck.Spec.Table

set_option autoImplicit false

/- Compiling schemas to specs. The definitions of a document are compiled in two passes:
   every object definition gets a slot, then the slots are filled. References stay names,
   so a definition may refer to a later one, or to itself. -/
namespace ShapeCheck

def referencePrefix : List Char := "#/definitions/".toList

def referenceName (pointer : String) : Except SchemaError String :=
  let chars := pointer.toList
  let name := chars.drop referencePrefix.length
  if referencePrefix.isPrefixOf chars && ! name.isEmpty then .ok (String.ofList name)
  else .error (.malformedReference pointer)

namespace Schema

inductive Form where
  | reference (name : String)
  | enum (allowed : List Json)
  | primitive (kind : PrimitiveKind)
  | array
  | object

-- A reference wins over literals, and literals win over the type.
def innerForm (reference : Option String) (allowed : Option (List Json)) (typeName : Option String) :
    Except SchemaError Form :=
  match reference, allowed, typeName with
  | some pointer, _, _ => (referenceName pointer).map .reference
  | none, some literals, _ => .ok (.enum literals)
  | none, none, none => .error .missingType
  | none, none, some name =>
      match SchemaType.ofKeyword? name with
      | none => .error (.unknownType name)
      | some .string => .ok (.primitive .string)
      | some .number => .ok (.primitive .number)
      | some .integer => .ok (.primitive .number)
      | some .boolean => .ok (.primitive .boolean)
      | some .array => .ok .array
      | some .object => .ok .object

-- Where a node stands: a definition of its own, which is read as an object whatever else it says
-- and is open to undeclared keys, or anywhere inside one.
inductive Place where
  | definition
  | inner
deriving DecidableEq, Repr

def formAt (place : Place) (reference : Option String) (allowed : Option (List Json))
    (typeName : Option String) : Except SchemaError Form :=
  match place with
  | .definition => .ok .object
  | .inner => innerForm reference allowed typeName

def exactAt (place : Place) (additional : Option Additional) : Bool :=
  match place, additional with
  | .definition, _ => false
  | .inner, some .any => false
  | .inner, _ => true

mutual
def compileAt (place : Place) : Schema → Except SchemaError Spec
  | ⟨typeName, reference, allowed, properties, required, additional, items⟩ =>
      match formAt place reference allowed typeName with
      | .error defect => .error defect
      | .ok (.reference name) => .ok (.reference name)
      | .ok (.enum literals) => .ok (.enum literals)
      | .ok (.primitive kind) => .ok (.primitive kind)
      | .ok .array =>
          match items with
          | none => .error .missingItems
          | some item => (compileAt .inner item).map .array
      | .ok .object =>
          match properties, additional with
          | some [], _ => .ok (.primitive .object)
          | some (first :: rest), _ =>
              (compileFields required (first :: rest)).map (.shape · (exactAt place additional))
          | none, some (.schema values) => (compileAt .inner values).map .map
          | none, _ => .ok (.primitive .object)
def compileFields (required : List String) :
    List (String × Schema) → Except SchemaError (List Field)
  | [] => .ok []
  | (key, schema) :: rest => do
      let spec ← (compileAt .inner schema).mapError (.inProperty key)
      let others ← compileFields required rest
      return ⟨key, spec, required.contains key⟩ :: others
end

def compile (schema : Schema) : Except SchemaError Spec :=
  schema.compileAt .inner

def compileDefinition (schema : Schema) : Except SchemaError Spec :=
  schema.compileAt .definition

def compileProperty (name : String) (required : Bool) (schema : Schema) : Except SchemaError Field := do
  let spec ← schema.compile.mapError (.inProperty name)
  return ⟨name, spec, required⟩

end Schema

inductive CompileEvent where
  | skipped (definition : String)
  | compiled (definition : String)
  | dangling (reference : String)
deriving DecidableEq, Repr

structure Pending where
  id : SlotId
  name : String
  schema : Schema

structure Compilation where
  events : List CompileEvent
  result : Except SchemaError Table

namespace Definitions

def registerAll : List (String × Schema) → Table → Table × List Pending
  | [], table => (table, [])
  | (name, schema) :: rest, table =>
      let (reserved, id) := table.reserve name
      let (registered, pending) := registerAll rest reserved
      (registered, ⟨id, name, schema⟩ :: pending)

def fillPending : List Pending → Table → Compilation
  | [], table => ⟨[], .ok table⟩
  | ⟨id, name, schema⟩ :: rest, table =>
      match schema.compileDefinition with
      | .error cause => ⟨[], .error (.inDefinition name cause)⟩
      | .ok spec =>
          let others := fillPending rest (table.fill id spec)
          ⟨.compiled name :: others.events, others.result⟩

def objects (definitions : Definitions) : List (String × Schema) :=
  definitions.entries.filter (·.2.describesObject)

def skippedEvents (definitions : Definitions) : List CompileEvent :=
  (definitions.entries.filter (! ·.2.describesObject)).map fun entry => .skipped entry.1

def compilation (definitions : Definitions) : Compilation :=
  let (registered, pending) := registerAll definitions.objects .empty
  let filled := fillPending pending registered
  let dangling := match filled.result with
    | .ok table => table.dangling.map .dangling
    | .error _ => []
  ⟨definitions.skippedEvents ++ filled.events ++ dangling, filled.result⟩

def compile (definitions : Definitions) : Except SchemaError Table :=
  definitions.compilation.result

end Definitions

def compileDocument (document : Json) : Except SchemaError Table := do
  let definitions ← Definitions.ofDocument document
  definitions.compile

end ShapeCheck
