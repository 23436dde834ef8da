import ShapeCheck.Proofs.Compilation
import ShapeCheck.Proofs.Keywords

set_option autoImplicit false

namespace ShapeCheck

inductive SchemaStep where
  | item
  | property (key : String)
  | values
deriving DecidableEq, Repr

namespace Json

def schemaStep? (node : Json) : SchemaStep → Option Json
  | .item => node.member? "items"
  | .property key => (node.member? "properties").bind (·.member? key)
  | .values => node.member? "additionalProperties"

def schemaNode? (node : Json) : List SchemaStep → Option Json
  | [] => some node
  | step :: rest => (node.schemaStep? step).bind (·.schemaNode? rest)

def Requires (node : Json) (key : String) : Prop :=
  ∃ names, node.member? "required" = some (.array names) ∧ .string key ∈ names

theorem schema_node_below (node child : Json) (step : SchemaStep) (route : List SchemaStep)
    (found : node.schemaStep? step = some child) : node.schemaNode? (step :: route) = child.schemaNode? route := by
  rw [schemaNode?, found, Option.bind_some]

end Json

inductive Spec.PartAt : Spec → List SchemaStep → Spec → Prop where
  | whole (spec : Spec) : PartAt spec [] spec
  | item (item part : Spec) (route : List SchemaStep) (inner : PartAt item route part) :
      PartAt (.array item) (.item :: route) part
  | field (fields : List Field) (exact : Bool) (field : Field) (part : Spec) (route : List SchemaStep)
      (declared : field ∈ fields) (inner : PartAt field.spec route part) :
      PartAt (.shape fields exact) (.property field.name :: route) part
  | values (values part : Spec) (route : List SchemaStep) (inner : PartAt values route part) :
      PartAt (.map values) (.values :: route) part

namespace Schema

def Place.after : Place → List SchemaStep → Place
  | place, [] => place
  | _, _ :: _ => .inner

theorem inner_after (route : List SchemaStep) : Place.inner.after route = .inner := by
  cases route <;> rfl

structure ShapeMirrors (place : Place) (node : Json) (fields : List Field) (exact : Bool) : Prop where
  filled : fields ≠ []
  distinct : (fields.map Field.name).Nodup
  declared : ∃ properties, node.member? "properties" = some (.object properties) ∧ properties ≠ [] ∧
    fields.map Field.name = Entries.keys properties
  required : ∀ field ∈ fields, field.required = true ↔ node.Requires field.name
  exact : exact = true ↔ place = .inner ∧ node.member? "additionalProperties" ≠ some (.boolean true)

def Mirrors (place : Place) (node : Json) : Spec → Prop
  | .primitive kind => place = .definition → kind = .object
  | .enum allowed => place = .inner ∧ node.member? "enum" = some (.array allowed)
  | .array _ => place = .inner ∧ node.member? "items" ≠ none
  | .shape fields exact => ShapeMirrors place node fields exact
  | .map _ => node.member? "properties" = none ∧
      ∃ members, node.member? "additionalProperties" = some (.object members)
  | .reference name => place = .inner ∧ name ≠ "" ∧
      node.member? "$ref" = some (.string ("#/definitions/" ++ name))

section

variable (place : Place) (schema : Schema)

theorem compiled_form (spec : Spec) (compiled : schema.compileAt place = .ok spec) :
    ObjectForm place schema spec ∨ place = .inner ∧ InnerForm schema spec := by
  cases place with
  | definition => exact .inl (schema.compile_object_form .definition spec rfl compiled)
  | inner => exact .inr ⟨rfl, schema.compile_form spec compiled⟩

theorem compiled_array (item : Spec) (compiled : schema.compileAt place = .ok (.array item)) :
    place = .inner ∧ ∃ inner, schema.items = some inner ∧ inner.compile = .ok item := by
  rcases compiled_form place schema _ compiled with form | ⟨here, form⟩
  · cases form
  · cases form with
    | array word inner _ _ _ _ _ each within => exact ⟨here, inner, each, within⟩
    | object word _ _ _ _ _ form => cases form

theorem compiled_enum (allowed : List Json) (compiled : schema.compileAt place = .ok (.enum allowed)) :
    place = .inner ∧ schema.allowed = some allowed := by
  rcases compiled_form place schema _ compiled with form | ⟨here, form⟩
  · cases form
  · cases form with
    | enum _ _ listed => exact ⟨here, listed⟩
    | object word _ _ _ _ _ form => cases form

theorem compiled_primitive (kind : PrimitiveKind) (compiled : schema.compileAt place = .ok (.primitive kind)) :
    place = .definition → kind = .object := by
  intro here
  rcases compiled_form place schema _ compiled with form | ⟨inner, _⟩
  · cases form <;> rfl
  · rw [here] at inner
    contradiction

theorem compiled_object (spec : Spec) (compiled : schema.compileAt place = .ok spec)
    (composed : (∃ fields exact, spec = .shape fields exact) ∨ ∃ values, spec = .map values) :
    ObjectForm place schema spec := by
  rcases compiled_form place schema spec compiled with form | ⟨rfl, form⟩
  · exact form
  · cases form with
    | object _ _ _ _ _ _ form => exact form
    | _ => simp at composed

theorem compiled_shape (fields : List Field) (exact : Bool)
    (compiled : schema.compileAt place = .ok (.shape fields exact)) :
    ∃ properties, schema.properties = some properties ∧ properties ≠ [] ∧
      List.Forall₂ (FieldOf schema.required) properties fields ∧ exact = exactAt place schema.additional := by
  cases compiled_object place schema _ compiled (.inl ⟨fields, exact, rfl⟩) with
  | shape first rest _ declared each => exact ⟨first :: rest, declared, List.cons_ne_nil _ _, each, rfl⟩

theorem compiled_map (spec : Spec) (compiled : schema.compileAt place = .ok (.map spec)) :
    schema.properties = none ∧ ∃ values, schema.additional = some (.schema values) ∧ values.compile = .ok spec := by
  cases compiled_object place schema _ compiled (.inr ⟨spec, rfl⟩) with
  | map values _ absent uniform within => exact ⟨absent, values, uniform, within⟩

theorem reference_name_filled (pointer name : String) (named : referenceName pointer = .ok name) : name ≠ "" := by
  simp only [referenceName, Bool.and_eq_true] at named
  split at named
  · rename_i shaped
    rw [Except.ok.injEq] at named
    intro empty
    have nothing := congrArg String.toList (named.trans empty)
    rw [String.toList_ofList] at nothing
    rw [nothing] at shaped
    exact absurd shaped.2 (by decide)
  · contradiction

theorem compiled_reference (name : String) (compiled : schema.compileAt place = .ok (.reference name)) :
    place = .inner ∧ name ≠ "" ∧ schema.reference = some ("#/definitions/" ++ name) := by
  rcases compiled_form place schema _ compiled with form | ⟨rfl, form⟩
  · cases form
  · cases form with
    | reference pointer _ link named =>
        refine ⟨rfl, ?_, named ▸ link⟩
        rcases schema with ⟨typeName, reference, allowed, properties, required, additional, items⟩
        simp only at link
        subst link
        unfold compileAt at compiled
        cases read : referenceName pointer with
        | error defect => simp [formAt, innerForm, read, Except.map] at compiled
        | ok other =>
            simp only [formAt, innerForm, read, Except.map, Except.ok.injEq, Spec.reference.injEq] at compiled
            exact compiled ▸ reference_name_filled pointer other read
    | object word _ _ _ _ _ form => cases form

theorem exact_at_iff (additional : Option Additional) :
    exactAt place additional = true ↔ place = .inner ∧ additional ≠ some .any := by
  rcases place with _ | _ <;> rcases additional with _ | _ | _ <;> simp [exactAt]

variable (node : Json) (distinct : node.DistinctKeys) (read : ofJson node = .ok schema)
include distinct read

theorem mirrors_shape (fields : List Field) (exact : Bool)
    (compiled : schema.compileAt place = .ok (.shape fields exact)) : ShapeMirrors place node fields exact := by
  have keywords := read_keywords node schema read
  obtain ⟨properties, declared, filled, each, same⟩ := compiled_shape place schema fields exact compiled
  obtain ⟨members, found, within⟩ := read_declared_some _ properties (declared ▸ keywords.properties)
  have nodes := read_properties_each members properties within
  have keys : fields.map Field.name = Entries.keys members := by
    rw [field_names schema.required properties fields each]
    exact keys_paired (fun json schema => ofJson json = .ok schema) members properties nodes
  have inner := node.member_distinct _ "properties" distinct found
  have listed : members ≠ [] := by
    intro empty
    rw [empty] at nodes
    exact filled (List.forall₂_nil_left_iff.mp nodes)
  have someField : fields ≠ [] := by
    intro empty
    rw [empty] at each
    exact filled (List.forall₂_nil_right_iff.mp each)
  refine ⟨someField, keys ▸ inner.1, ⟨members, found, listed, keys⟩, fun field listed => ?_, ?_⟩
  · obtain ⟨property, _, named, required, _⟩ := forall₂_left _ fields properties each.flip field listed
    rw [required, ← named, List.contains_iff_mem]
    exact read_required_mem _ schema.required keywords.required field.name
  · rw [same, exact_at_iff]
    exact and_congr_right' (not_congr (read_additional_any _ schema.additional keywords.additional))

theorem compiled_mirrors (spec : Spec) (compiled : schema.compileAt place = .ok spec) : Mirrors place node spec := by
  have keywords := read_keywords node schema read
  cases spec with
  | primitive kind => exact compiled_primitive place schema kind compiled
  | enum allowed =>
      obtain ⟨here, listed⟩ := compiled_enum place schema allowed compiled
      exact ⟨here, read_literals_some _ allowed (listed ▸ keywords.allowed)⟩
  | array item =>
      obtain ⟨here, inner, each, _⟩ := compiled_array place schema item compiled
      obtain ⟨child, found, _⟩ := read_items_some _ inner (each ▸ keywords.items)
      exact ⟨here, found ▸ Option.some_ne_none child⟩
  | shape fields exact => exact mirrors_shape place schema node distinct read fields exact compiled
  | map spec =>
      obtain ⟨absent, values, uniform, _⟩ := compiled_map place schema spec compiled
      obtain ⟨child, found, inner⟩ := read_additional_schema _ values (uniform ▸ keywords.additional)
      obtain ⟨members, same⟩ := read_object child values inner
      exact ⟨read_declared_none _ (absent ▸ keywords.properties), members, same ▸ found⟩
  | reference name =>
      obtain ⟨here, filled, link⟩ := compiled_reference place schema name compiled
      exact ⟨here, filled, read_string_some _ _ _ (link ▸ keywords.reference)⟩

end

structure CompiledFrom (place : Place) (node : Json) (spec : Spec) : Prop where
  compiled : ∃ schema, ofJson node = .ok schema ∧ schema.compileAt place = .ok spec
  mirrors : Mirrors place node spec

theorem part_compiled (spec part : Spec) (route : List SchemaStep) (here : spec.PartAt route part) (place : Place)
    (node : Json) (schema : Schema) (distinct : node.DistinctKeys) (read : ofJson node = .ok schema)
    (compiled : schema.compileAt place = .ok spec) :
    ∃ inner, node.schemaNode? route = some inner ∧ CompiledFrom (place.after route) inner part := by
  induction here generalizing place node schema with
  | whole spec =>
      exact ⟨node, rfl, ⟨schema, read, compiled⟩, compiled_mirrors place schema node distinct read spec compiled⟩
  | item item part route _ ih =>
      have keywords := read_keywords node schema read
      obtain ⟨_, inner, each, within⟩ := compiled_array place schema item compiled
      obtain ⟨child, found, childRead⟩ := read_items_some _ inner (each ▸ keywords.items)
      have below := ih .inner child inner (node.member_distinct child _ distinct found) childRead within
      rw [inner_after] at below
      rwa [node.schema_node_below child .item route found]
  | field fields exact field part route declared _ ih =>
      have keywords := read_keywords node schema read
      obtain ⟨properties, known, _, each, _⟩ := compiled_shape place schema fields exact compiled
      obtain ⟨members, found, within⟩ := read_declared_some _ properties (known ▸ keywords.properties)
      obtain ⟨property, listed, named, _, compiledField⟩ := forall₂_left _ fields properties each.flip field declared
      have nodes := read_properties_each members properties within
      obtain ⟨member, memberListed, same, memberRead⟩ := forall₂_left _ properties members nodes.flip property listed
      have inner := node.member_distinct _ "properties" distinct found
      have child : (Json.object members).member? field.name = some member.2 := by
        rw [named, ← same]
        exact get_distinct members inner.1 member memberListed
      have step : node.schemaStep? (.property field.name) = some member.2 := by
        rw [Json.schemaStep?, found, Option.bind_some, child]
      have childDistinct := Json.member_distinct _ member.2 field.name inner child
      have below := ih .inner member.2 property.2 childDistinct memberRead compiledField
      rw [inner_after] at below
      rwa [node.schema_node_below member.2 (.property field.name) route step]
  | values values part route _ ih =>
      have keywords := read_keywords node schema read
      obtain ⟨_, inner, uniform, within⟩ := compiled_map place schema values compiled
      obtain ⟨child, found, childRead⟩ := read_additional_schema _ inner (uniform ▸ keywords.additional)
      have below := ih .inner child inner (node.member_distinct child _ distinct found) childRead within
      rw [inner_after] at below
      rwa [node.schema_node_below child .values route found]

end Schema

inductive Spec.EntryForm : Spec → Prop where
  | shape (fields : List Field) : EntryForm (.shape fields false)
  | map (values : Spec) : EntryForm (.map values)
  | object : EntryForm (.primitive .object)

theorem definition_form (node : Json) (spec : Spec) (mirrors : Schema.Mirrors .definition node spec) : spec.EntryForm := by
  cases spec with
  | primitive kind =>
      rw [mirrors rfl]
      exact .object
  | enum allowed => exact absurd mirrors.1 Schema.Place.noConfusion
  | array item => exact absurd mirrors.1 Schema.Place.noConfusion
  | shape fields exact =>
      have opened : exact = false := by
        have inner := mirrors.exact
        simpa using inner
      rw [opened]
      exact .shape fields
  | map values => exact .map values
  | reference name => exact absurd mirrors.1 Schema.Place.noConfusion

namespace Definitions

theorem read_members_each (members : List (String × Json)) (entries : List (String × Schema))
    (read : readMembers members = .ok entries) :
    List.Forall₂ (fun member entry => member.1 = entry.1 ∧ Schema.ofJson member.2 = .ok entry.2) members entries := by
  induction members generalizing entries with
  | nil =>
      rw [readMembers] at read
      cases read
      exact .nil
  | cons member rest ih =>
      rcases member with ⟨name, value⟩
      rw [readMembers] at read
      obtain ⟨schema, first, read⟩ := bind_passed _ _ _ read
      obtain ⟨others, later, read⟩ := bind_passed _ _ _ read
      cases read
      exact .cons ⟨rfl, map_error_passed _ _ _ first⟩ (ih others later)

theorem declared_member (document : Json) (definitions : Definitions) (distinct : document.DistinctKeys)
    (read : ofJson document = .ok definitions) (pair : String × Schema) (listed : pair ∈ definitions.entries) :
    ∃ source, document.member? pair.1 = some source ∧ Schema.ofJson source = .ok pair.2 := by
  cases document with
  | scalar content => cases read
  | array items => cases read
  | object members =>
      rw [ofJson] at read
      obtain ⟨entries, within, same⟩ := map_passed _ _ _ read
      subst same
      have each := read_members_each members entries within
      obtain ⟨member, here, named, inner⟩ := forall₂_left _ entries members each.flip pair listed
      have found := get_distinct members distinct.1 member here
      exact ⟨member.2, named ▸ found, inner⟩

theorem entry_compiled (document : Json) (definitions : Definitions) (table : Table) (distinct : document.DistinctKeys)
    (read : ofJson document = .ok definitions) (compiled : definitions.compile = .ok table) (name : String)
    (spec : Spec) (entry : (name, spec) ∈ table.entries) :
    ∃ source schema, document.member? name = some source ∧ source.DistinctKeys ∧ Schema.ofJson source = .ok schema ∧
      schema.compileDefinition = .ok spec := by
  have names := read_distinct document definitions distinct read
  rw [compile_entries definitions names table compiled, List.mem_filterMap] at entry
  obtain ⟨pair, listed, given⟩ := entry
  rw [compiled?] at given
  split at given
  · split at given
    · rename_i other same
      cases given
      obtain ⟨source, found, inner⟩ := declared_member document definitions distinct read pair listed
      exact ⟨source, pair.2, found, document.member_distinct source _ distinct found, inner, same⟩
    · cases given
  · cases given

end Definitions

-- Each entry of a compiled table is open or free of declared keys, and at every depth its parts
-- show what the nodes of the document say that they were compiled from.
theorem compiled_mirrors_document (document : Json) (definitions : Definitions) (table : Table)
    (distinct : document.DistinctKeys) (read : Definitions.ofJson document = .ok definitions)
    (compiled : definitions.compile = .ok table) (name : String) (spec : Spec) (entry : (name, spec) ∈ table.entries) :
    spec.EntryForm ∧ ∃ source, document.member? name = some source ∧
      ∀ route part, spec.PartAt route part → ∃ node, source.schemaNode? route = some node ∧
        Schema.CompiledFrom (Schema.Place.definition.after route) node part := by
  obtain ⟨source, schema, found, sourceDistinct, sourceRead, sourceCompiled⟩ :=
    definitions.entry_compiled document table distinct read compiled name spec entry
  have parts := fun route part here =>
    Schema.part_compiled spec part route here .definition source schema sourceDistinct sourceRead sourceCompiled
  obtain ⟨node, here, whole⟩ := parts [] spec (.whole spec)
  exact ⟨definition_form node spec whole.mirrors, source, found, parts⟩

def Json.typed (word : String) : Json := .object [("type", .string word)]

def parcelNode : Json :=
  .object [("type", .string "object"),
    ("properties", .object [
      ("pieces", .object [("type", .string "array"), ("items", .object [("$ref", .string "#/definitions/piece")])]),
      ("sender", .object [("type", .string "object"), ("properties", .object [("house", .typed "integer")]),
        ("required", .array [.string "house"]), ("additionalProperties", .boolean true)]),
      ("box", .object [("type", .string "object"), ("properties", .object [("width", .typed "number")])]),
      ("state", .object [("enum", .array [.string "sent", .null])])]),
    ("required", .array [.string "state", .string "pieces"])]

def parcelDocument : Json :=
  .object [("parcel", parcelNode), ("prices", .object [("additionalProperties", .typed "number")])]

def parcelSpec : Spec :=
  .shape [⟨"pieces", .array (.reference "piece"), true⟩,
    ⟨"sender", .shape [⟨"house", .primitive .number, true⟩] false, false⟩,
    ⟨"box", .shape [⟨"width", .primitive .number, false⟩] true, false⟩,
    ⟨"state", .enum [.string "sent", .null], true⟩] false

def Schema.typed (word : String) : Schema := ⟨some word, none, none, none, [], none, none⟩

def parcelSchema : Schema :=
  ⟨some "object", none, none, some [
      ("pieces", ⟨some "array", none, none, none, [], none,
        some ⟨none, some "#/definitions/piece", none, none, [], none, none⟩⟩),
      ("sender", ⟨some "object", none, none, some [("house", .typed "integer")], ["house"], some .any, none⟩),
      ("box", ⟨some "object", none, none, some [("width", .typed "number")], [], none, none⟩),
      ("state", ⟨none, none, some [.string "sent", .null], none, [], none, none⟩)],
    ["state", "pieces"], none, none⟩

def parcelDefinitions : Definitions :=
  ⟨[("parcel", parcelSchema), ("prices", ⟨none, none, none, none, [], some (.schema (.typed "number")), none⟩)]⟩

theorem parcel_read : Definitions.ofJson parcelDocument = .ok parcelDefinitions := by
  simp [Definitions.ofJson, parcelDocument, parcelNode, parcelDefinitions, parcelSchema, Definitions.readMembers,
    Definitions.ofPairs, Schema.ofJson, Schema.readProperties, Schema.readString, Schema.readLiterals,
    Schema.readRequired, Schema.readNames, Entries.get?, Json.typed, Schema.typed, bind, Except.bind, pure, Except.pure,
    Except.map, Except.mapError]

theorem parcel_distinct : parcelDocument.DistinctKeys := by
  simp [parcelDocument, parcelNode, Json.typed, Json.DistinctKeys, Json.DistinctEntries, Json.DistinctItems, Entries.keys]

def Table.parcels : Table := ⟨[("parcel", some parcelSpec), ("prices", some (.map (.primitive .number)))]⟩

theorem parcel_compiled : parcelDefinitions.compile = .ok .parcels := rfl

theorem parcel_mirrors_document :
    parcelDocument.DistinctKeys ∧ Definitions.ofJson parcelDocument = .ok parcelDefinitions ∧
      parcelDefinitions.compile = .ok .parcels ∧ ("parcel", parcelSpec) ∈ Table.parcels.entries ∧
      parcelSpec.EntryForm ∧
      (∃ node, parcelNode.schemaNode? [.property "sender"] = some node ∧
        Schema.CompiledFrom .inner node (.shape [⟨"house", .primitive .number, true⟩] false)) ∧
      ∃ node, parcelNode.schemaNode? [.property "pieces", .item] = some node ∧
        Schema.CompiledFrom .inner node (.reference "piece") := by
  have entry : ("parcel", parcelSpec) ∈ Table.parcels.entries := List.mem_cons_self
  obtain ⟨form, source, found, parts⟩ :=
    compiled_mirrors_document _ _ _ parcel_distinct parcel_read parcel_compiled "parcel" parcelSpec entry
  obtain rfl : parcelNode = source := Option.some.inj found
  have sender : parcelSpec.PartAt [.property "sender"] (.shape [⟨"house", .primitive .number, true⟩] false) :=
    .field _ _ ⟨"sender", _, false⟩ _ [] (List.mem_cons_of_mem _ List.mem_cons_self) (.whole _)
  have piece : parcelSpec.PartAt [.property "pieces", .item] (.reference "piece") :=
    .field _ _ ⟨"pieces", _, true⟩ _ [.item] List.mem_cons_self (.item _ _ [] (.whole _))
  exact ⟨parcel_distinct, parcel_read, parcel_compiled, entry, form, parts _ _ sender, parts _ _ piece⟩

end ShapeCheck
