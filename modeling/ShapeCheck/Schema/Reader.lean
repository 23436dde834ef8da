import ShapeCheck.Schema.Basic
import ShapeCheck.Schema.Error

set_option autoImplicit false

/- Reading schema nodes from JSON. Keywords are read in a fixed order, and the first one
   that is malformed is the error; keys that are no keywords are not looked at. -/
namespace ShapeCheck.Schema

theorem member_size (key : String) (value : Json) (entries : List (String × Json))
    (found : Entries.get? key entries = some value) : sizeOf value < sizeOf entries := by
  induction entries with
  | nil => simp [Entries.get?] at found
  | cons entry rest ih =>
      rcases entry with ⟨name, other⟩
      by_cases same : name = key
      · simp only [Entries.get?, if_pos same, Option.some.injEq] at found
        subst found
        simp only [List.cons.sizeOf_spec, Prod.mk.sizeOf_spec]
        omega
      · simp only [Entries.get?, if_neg same] at found
        have smaller := ih found
        simp only [List.cons.sizeOf_spec]
        omega

def readString (defect : SchemaError) : Option Json → Except SchemaError (Option String)
  | none => .ok none
  | some (.string text) => .ok (some text)
  | some _ => .error defect

def readLiterals : Option Json → Except SchemaError (Option (List Json))
  | none => .ok none
  | some (.array literals) => .ok (some literals)
  | some _ => .error .invalidEnum

def readNames : List Json → Except SchemaError (List String)
  | [] => .ok []
  | .string name :: rest => do
      let others ← readNames rest
      return name :: others
  | _ :: _ => .error .invalidRequired

def readRequired : Option Json → Except SchemaError (List String)
  | none => .ok []
  | some (.array names) => readNames names
  | some _ => .error .invalidRequired

mutual
def ofJson (json : Json) : Except SchemaError Schema :=
  match json with
  | .object entries => do
      let typeName ← readString .typeNotString (Entries.get? "type" entries)
      let reference ← readString .referenceNotString (Entries.get? "$ref" entries)
      let allowed ← readLiterals (Entries.get? "enum" entries)
      let properties ← match _found : Entries.get? "properties" entries with
        | none => .ok none
        | some (.object members) => (readProperties members).map some
        | some _ => .error .propertiesNotObject
      let required ← readRequired (Entries.get? "required" entries)
      let additional ← match _found : Entries.get? "additionalProperties" entries with
        | none => .ok none
        | some (.boolean false) => .ok none
        | some (.boolean true) => .ok (some .any)
        | some values => (ofJson values).map fun schema => some (.schema schema)
      let items ← match _found : Entries.get? "items" entries with
        | none => .ok none
        | some item => (ofJson item).map some
      return { typeName, reference, allowed, properties, required, additional, items }
  | _ => .error .notAnObject
termination_by sizeOf json
decreasing_by
  all_goals
    have smaller := member_size _ _ _ _found
    simp only [Json.object.sizeOf_spec] at smaller ⊢
    omega
def readProperties (members : List (String × Json)) : Except SchemaError (List (String × Schema)) :=
  match members with
  | [] => .ok []
  | (key, value) :: rest => do
      let schema ← ofJson value
      let others ← readProperties rest
      return (key, schema) :: others
termination_by sizeOf members
end

end ShapeCheck.Schema
