import ShapeCheck.Proofs.Forms
import ShapeCheck.Proofs.Trees

set_option autoImplicit false

namespace ShapeCheck

namespace Json

def member? (node : Json) (key : String) : Option Json :=
  match node with
  | .object members => Entries.get? key members
  | _ => none

theorem member_distinct (node child : Json) (key : String) (distinct : node.DistinctKeys)
    (found : node.member? key = some child) : child.DistinctKeys := by
  cases node with
  | scalar content => contradiction
  | array items => contradiction
  | object members =>
      have listed := Entries.get_mem key child members found
      exact distinct_entry members distinct.2 (key, child) listed

end Json

namespace Schema

def readDeclared : Option Json → Except SchemaError (Option (List (String × Schema)))
  | none => .ok none
  | some (.object members) => (readProperties members).map some
  | some _ => .error .propertiesNotObject

def readAdditional : Option Json → Except SchemaError (Option Additional)
  | none => .ok none
  | some (.boolean false) => .ok none
  | some (.boolean true) => .ok (some .any)
  | some values => (ofJson values).map fun schema => some (.schema schema)

def readItems : Option Json → Except SchemaError (Option Schema)
  | none => .ok none
  | some item => (ofJson item).map some

section

variable {α : Type} (found : Option Json)

theorem declared_then (next : Option (List (String × Schema)) → Except SchemaError α) :
    (match _found : found with
      | none => Except.ok none >>= next
      | some (.object members) => (readProperties members).map some >>= next
      | some _ => Except.error .propertiesNotObject >>= next) = readDeclared found >>= next := by
  split
  · rfl
  · rfl
  · rw [readDeclared]
    assumption

theorem additional_then (next : Option Additional → Except SchemaError α) :
    (match _found : found with
      | none => Except.ok none >>= next
      | some (.boolean false) => Except.ok none >>= next
      | some (.boolean true) => Except.ok (some .any) >>= next
      | some values => ((ofJson values).map fun schema => some (.schema schema)) >>= next) =
        readAdditional found >>= next := by
  split
  · rfl
  · rfl
  · rfl
  · rw [readAdditional] <;> assumption

theorem items_then (next : Option Schema → Except SchemaError α) :
    (match _found : found with
      | none => Except.ok none >>= next
      | some item => (ofJson item).map some >>= next) = readItems found >>= next := by
  split <;> rfl

end

theorem of_json_object (members : List (String × Json)) :
    ofJson (.object members) = do
      let typeName ← readString .typeNotString (Entries.get? "type" members)
      let reference ← readString .referenceNotString (Entries.get? "$ref" members)
      let allowed ← readLiterals (Entries.get? "enum" members)
      let properties ← readDeclared (Entries.get? "properties" members)
      let required ← readRequired (Entries.get? "required" members)
      let additional ← readAdditional (Entries.get? "additionalProperties" members)
      let items ← readItems (Entries.get? "items" members)
      return { typeName, reference, allowed, properties, required, additional, items } := by
  rw [ofJson]
  refine bind_congr fun typeName => bind_congr fun reference => bind_congr fun allowed => ?_
  refine (declared_then _ _).trans (bind_congr fun properties => bind_congr fun required => ?_)
  exact (additional_then _ _).trans (bind_congr fun additional => items_then _ _)

structure Keywords (node : Json) (schema : Schema) : Prop where
  reference : readString .referenceNotString (node.member? "$ref") = .ok schema.reference
  allowed : readLiterals (node.member? "enum") = .ok schema.allowed
  properties : readDeclared (node.member? "properties") = .ok schema.properties
  required : readRequired (node.member? "required") = .ok schema.required
  additional : readAdditional (node.member? "additionalProperties") = .ok schema.additional
  items : readItems (node.member? "items") = .ok schema.items

theorem read_object (node : Json) (schema : Schema) (read : ofJson node = .ok schema) :
    ∃ members, node = .object members := by
  cases node with
  | scalar content => simp [ofJson] at read
  | array items => simp [ofJson] at read
  | object members => exact ⟨members, rfl⟩

theorem read_keywords (node : Json) (schema : Schema) (read : ofJson node = .ok schema) : Keywords node schema := by
  obtain ⟨members, rfl⟩ := read_object node schema read
  rw [of_json_object] at read
  obtain ⟨typeName, _, read⟩ := bind_passed _ _ _ read
  obtain ⟨reference, linked, read⟩ := bind_passed _ _ _ read
  obtain ⟨allowed, listed, read⟩ := bind_passed _ _ _ read
  obtain ⟨properties, declared, read⟩ := bind_passed _ _ _ read
  obtain ⟨required, named, read⟩ := bind_passed _ _ _ read
  obtain ⟨additional, extended, read⟩ := bind_passed _ _ _ read
  obtain ⟨items, each, read⟩ := bind_passed _ _ _ read
  cases read
  exact ⟨linked, listed, declared, named, extended, each⟩

theorem read_string_some (defect : SchemaError) (found : Option Json) (text : String)
    (read : readString defect found = .ok (some text)) : found = some (.string text) := by
  unfold readString at read
  split at read
  · cases read
  · cases read
    rfl
  · cases read

theorem read_literals_some (found : Option Json) (literals : List Json)
    (read : readLiterals found = .ok (some literals)) : found = some (.array literals) := by
  unfold readLiterals at read
  split at read
  · cases read
  · cases read
    rfl
  · cases read

theorem read_declared_none (found : Option Json) (read : readDeclared found = .ok none) : found = none := by
  unfold readDeclared at read
  split at read
  · rfl
  · obtain ⟨_, _, same⟩ := map_passed _ _ _ read
    cases same
  · cases read

theorem read_declared_some (found : Option Json) (properties : List (String × Schema))
    (read : readDeclared found = .ok (some properties)) :
    ∃ members, found = some (.object members) ∧ readProperties members = .ok properties := by
  unfold readDeclared at read
  split at read
  · cases read
  · rename_i members
    obtain ⟨others, within, same⟩ := map_passed _ _ _ read
    cases same
    exact ⟨members, rfl, within⟩
  · cases read

theorem read_names_exact (names : List Json) (required : List String) (read : readNames names = .ok required) :
    names = required.map .string := by
  induction names generalizing required with
  | nil =>
      rw [readNames] at read
      cases read
      rfl
  | cons first rest ih =>
      unfold readNames at read
      split at read
      · contradiction
      · rename_i name others same
        obtain ⟨rfl, rfl⟩ := List.cons.inj same
        obtain ⟨more, later, read⟩ := bind_passed _ _ _ read
        cases read
        rw [List.map_cons, ← ih more later]
        rfl
      · cases read

theorem read_required_mem (found : Option Json) (required : List String) (read : readRequired found = .ok required)
    (key : String) : key ∈ required ↔ ∃ names, found = some (.array names) ∧ .string key ∈ names := by
  unfold readRequired at read
  split at read
  · cases read
    simp
  · rename_i names
    have one : Function.Injective Json.string := fun _ _ same => Scalar.string.inj (Json.scalar.inj same)
    simp [read_names_exact names required read, List.mem_map_of_injective one]
  · cases read

theorem read_additional_any (found : Option Json) (additional : Option Additional)
    (read : readAdditional found = .ok additional) : additional = some .any ↔ found = some (.boolean true) := by
  unfold readAdditional at read
  split at read
  · cases read
    simp
  · cases read
    simp [Json.boolean]
  · cases read
    simp [Json.boolean]
  · rename_i values closed opened
    obtain ⟨inner, _, same⟩ := map_passed _ _ _ read
    subst same
    have apart : values ≠ .boolean true := opened
    simp [apart]

theorem read_additional_schema (found : Option Json) (values : Schema)
    (read : readAdditional found = .ok (some (.schema values))) :
    ∃ node, found = some node ∧ ofJson node = .ok values := by
  unfold readAdditional at read
  split at read
  · cases read
  · cases read
  · cases read
  · rename_i node _ _
    obtain ⟨inner, within, same⟩ := map_passed _ _ _ read
    cases same
    exact ⟨node, rfl, within⟩

theorem read_items_some (found : Option Json) (item : Schema) (read : readItems found = .ok (some item)) :
    ∃ node, found = some node ∧ ofJson node = .ok item := by
  unfold readItems at read
  split at read
  · cases read
  · rename_i node
    obtain ⟨inner, within, same⟩ := map_passed _ _ _ read
    cases same
    exact ⟨node, rfl, within⟩

theorem keys_paired {α β : Type} (related : α → β → Prop) (members : List (String × α))
    (others : List (String × β))
    (each : List.Forall₂ (fun member other => member.1 = other.1 ∧ related member.2 other.2) members others) :
    Entries.keys others = Entries.keys members := by
  induction each with
  | nil => rfl
  | cons head tail ih => exact congrArg₂ List.cons head.1.symm ih

theorem read_properties_each (members : List (String × Json)) (properties : List (String × Schema))
    (read : readProperties members = .ok properties) :
    List.Forall₂ (fun member property => member.1 = property.1 ∧ ofJson member.2 = .ok property.2) members
      properties := by
  induction members generalizing properties with
  | nil =>
      rw [readProperties] at read
      cases read
      exact .nil
  | cons member rest ih =>
      rcases member with ⟨key, value⟩
      rw [readProperties] at read
      obtain ⟨schema, first, read⟩ := bind_passed _ _ _ read
      obtain ⟨others, later, read⟩ := bind_passed _ _ _ read
      cases read
      exact .cons ⟨rfl, first⟩ (ih others later)

end Schema

end ShapeCheck
