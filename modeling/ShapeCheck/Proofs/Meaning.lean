import ShapeCheck.Proofs.Compilation

set_option autoImplicit false

namespace ShapeCheck

def Json.keys : Json → List String
  | .object members => Entries.keys members
  | _ => []

def Schema.Closes (schema : Schema) (value : Json) : Prop :=
  match schema.properties, schema.additional with
  | some (_ :: _), some .any => True
  | some (first :: rest), _ => ∀ key ∈ value.keys, ∃ property ∈ first :: rest, property.1 = key
  | _, _ => True

-- What schemas mean for JSON trees, said without specs. The rule for objects is all there is
-- to a definition; a reference asks for the rule of the definition it names.
mutual
def Definitions.MeetsObject (definitions : Definitions) (schema : Schema) (value : Json) : Prop :=
  match value with
  | .object members =>
      match schema.properties, schema.additional with
      | some properties, _ => ∀ property ∈ properties,
          (∀ child, Entries.get? property.1 members = some child → child.kind ≠ .null →
            definitions.Meets property.2 child) ∧
          (schema.requires property.1 = true →
            ∃ child, Entries.get? property.1 members = some child ∧ child.kind ≠ .null)
      | none, some (.schema values) => ∀ member ∈ members, definitions.Meets values member.2
      | none, _ => True
  | _ => False
termination_by (value.size, 0)
decreasing_by
  · exact Prod.Lex.left _ _ (Json.size_found members property.1 child ‹_›)
  · exact Prod.Lex.left _ _ (Json.size_member members member ‹_›)
def Definitions.Meets (definitions : Definitions) (node : Schema) (value : Json) : Prop :=
  match node.reference, node.allowed, node.typeName.bind SchemaType.ofKeyword? with
  | some pointer, _, _ => value.kind = .null ∨ value.kind.isContainer = true ∧
      ∃ name schema, pointer = "#/definitions/" ++ name ∧ definitions.get? name = some schema ∧
        definitions.MeetsObject schema value
  | none, some literals, _ => literals.any value.equalsLiteral = true
  | none, none, some .string => value.kind = .string
  | none, none, some .number => value.kind = .number
  | none, none, some .integer => value.kind = .number
  | none, none, some .boolean => value.kind = .boolean
  | none, none, some .array =>
      match value, node.items with
      | .array items, some item => ∀ child ∈ items, definitions.Meets item child
      | _, _ => False
  | none, none, some .object => definitions.MeetsObject node value ∧ node.Closes value
  | none, none, none => False
termination_by (value.size, 1)
decreasing_by
  · exact Prod.Lex.right _ Nat.zero_lt_one
  · exact Prod.Lex.left _ _ (Json.size_item items child ‹_›)
  · exact Prod.Lex.right _ Nat.zero_lt_one
end

theorem accepts_kind (kind : PrimitiveKind) (found : Kind) :
    kind.accepts found = true ↔ found = match kind with
      | .string => .string
      | .number => .number
      | .boolean => .boolean
      | .object => .object := by
  cases kind <;> cases found <;> decide

theorem forall_paired {α β : Type} (related : α → β → Prop) (one : α → Prop) (other : β → Prop) (values : List α)
    (others : List β) (each : List.Forall₂ related values others)
    (same : ∀ value, ∀ twin ∈ others, related value twin → (one value ↔ other twin)) :
    (∀ value ∈ values, one value) ↔ ∀ twin ∈ others, other twin := by
  induction each with
  | nil => simp
  | cons head tail ih =>
      have first := same _ _ List.mem_cons_self head
      have later := ih fun value twin listed => same value twin (List.mem_cons_of_mem _ listed)
      rw [List.forall_mem_cons, List.forall_mem_cons, first, later]

namespace Definitions

theorem meets_object_kind (definitions : Definitions) (schema : Schema) (value : Json)
    (meets : definitions.MeetsObject schema value) : value.kind = .object := by
  cases value with
  | scalar content =>
      unfold MeetsObject at meets
      contradiction
  | array items =>
      unfold MeetsObject at meets
      contradiction
  | object members => rfl

theorem meets_properties (definitions : Definitions) (schema : Schema) (properties : List (String × Schema))
    (members : List (String × Json)) (declared : schema.properties = some properties) :
    definitions.MeetsObject schema (.object members) ↔ ∀ property ∈ properties,
      (∀ child, Entries.get? property.1 members = some child → child.kind ≠ .null →
        definitions.Meets property.2 child) ∧
      (schema.requires property.1 = true →
        ∃ child, Entries.get? property.1 members = some child ∧ child.kind ≠ .null) := by
  rw [MeetsObject.eq_def]
  simp only [declared]

theorem meets_uniform (definitions : Definitions) (schema values : Schema) (members : List (String × Json))
    (absent : schema.properties = none) (uniform : schema.additional = some (.schema values)) :
    definitions.MeetsObject schema (.object members) ↔ ∀ member ∈ members, definitions.Meets values member.2 := by
  rw [MeetsObject.eq_def]
  simp only [absent, uniform]

theorem meets_free (definitions : Definitions) (schema : Schema) (members : List (String × Json))
    (absent : schema.properties = none) (free : ∀ values, schema.additional ≠ some (.schema values)) :
    definitions.MeetsObject schema (.object members) := by
  rw [MeetsObject.eq_def]
  simp only [absent]

section

variable (definitions : Definitions) (node : Schema) (word : String) (value : Json)

theorem meets_reference (pointer : String) (link : node.reference = some pointer) :
    definitions.Meets node value ↔ value.kind = .null ∨ value.kind.isContainer = true ∧
      ∃ name schema, pointer = "#/definitions/" ++ name ∧ definitions.get? name = some schema ∧
        definitions.MeetsObject schema value := by
  rw [Meets.eq_def]
  simp only [link]

theorem meets_enum (literals : List Json) (unlinked : node.reference = none) (listed : node.allowed = some literals) :
    definitions.Meets node value ↔ literals.any value.equalsLiteral = true := by
  rw [Meets.eq_def]
  simp only [unlinked, listed]

variable (unlinked : node.reference = none) (unlisted : node.allowed = none) (typed : node.typeName = some word)
include unlinked unlisted typed

theorem meets_primitive (type : SchemaType) (kind : PrimitiveKind) (found : SchemaType.ofKeyword? word = some type)
    (plain : type.primitive? = some kind) : definitions.Meets node value ↔ kind.accepts value.kind = true := by
  rw [accepts_kind]
  rw [Meets.eq_def]
  simp only [unlinked, unlisted, typed, Option.bind_some, found]
  cases type <;> cases plain <;> rfl

theorem meets_array (item : Schema) (found : SchemaType.ofKeyword? word = some .array) (each : node.items = some item) :
    definitions.Meets node value ↔ ∃ items, value = .array items ∧ ∀ child ∈ items, definitions.Meets item child := by
  rw [Meets.eq_def]
  simp only [unlinked, unlisted, typed, Option.bind_some, found, each]
  cases value <;> simp

theorem meets_object (found : SchemaType.ofKeyword? word = some .object) :
    definitions.Meets node value ↔ definitions.MeetsObject node value ∧ node.Closes value := by
  rw [Meets.eq_def]
  simp only [unlinked, unlisted, typed, Option.bind_some, found]

end

end Definitions

theorem Schema.closes_bare (schema : Schema) (value : Json)
    (absent : schema.properties = none ∨ schema.properties = some []) :
    schema.Closes value := by
  rw [Closes]
  rcases absent with none | empty
  · rw [none]
    trivial
  · rw [empty]
    trivial

section

variable (table : Table) (direct : table.Direct)

theorem object_form_mismatch (place : Schema.Place) (schema : Schema) (spec : Spec) (value : Json)
    (form : Schema.ObjectForm place schema spec) (apart : value.kind ≠ .object) :
    faults table direct spec value = [(.typeMismatch, [])] := by
  have refused : PrimitiveKind.object.accepts value.kind ≠ true := fun accepted =>
    apart ((accepts_kind .object value.kind).mp accepted)
  cases form with
  | bare declared => rw [faults, if_neg refused]
  | shape first rest fields declared each => exact faults_shape_mismatch table direct fields _ value apart
  | map values spec absent uniform compiled => exact faults_map_mismatch table direct spec value apart
  | any absent free => rw [faults, if_neg refused]

theorem faults_object_kind (members : List (String × Json)) :
    faults table direct (.primitive .object) (.object members) = [] := by
  rw [faults]
  rfl

theorem faults_reference_scalar (name : String) (value : Json) (scalar : value.kind.isContainer = false) :
    faults table direct (.reference name) value = if value.kind = .null then [] else [(.typeMismatch, [])] := by
  cases value with
  | scalar content =>
      cases content with
      | null => rw [faults]; rfl
      | boolean flag =>
          rw [faults]
          · rfl
          · intro same
            contradiction
      | number number =>
          rw [faults]
          · rfl
          · intro same
            contradiction
      | string text =>
          rw [faults]
          · rfl
          · intro same
            contradiction
  | array items => contradiction
  | object members => contradiction

theorem faults_map_nil (values : Spec) (members : List (String × Json)) :
    faults table direct (.map values) (.object members) = [] ↔
      ∀ member ∈ members, faults table direct values member.2 = [] := by
  rw [faults, List.flatMap_eq_nil_iff]
  simp only [List.map_eq_nil_iff]

theorem faults_array_nil (item : Spec) (items : List Json) :
    faults table direct (.array item) (.array items) = [] ↔ ∀ child ∈ items, faults table direct item child = [] := by
  rw [faults, List.flatMap_eq_nil_iff]
  simp only [List.map_eq_nil_iff]
  constructor
  · intro none child listed
    have part := List.mem_map_of_mem (f := faults table direct item) listed
    obtain ⟨position, inside, same⟩ := List.getElem_of_mem part
    have placed := List.getElem?_eq_some_iff.mpr ⟨inside, same⟩
    exact none _ (List.mk_mem_zipIdx_iff_getElem?.mpr placed)
  · intro none part listed
    have inside := List.fst_mem_of_mem_zipIdx listed
    obtain ⟨child, here, same⟩ := List.mem_map.mp inside
    exact same ▸ none child here

theorem faults_shape_nil (fields : List Field) (exact : Bool) (members : List (String × Json)) :
    faults table direct (.shape fields exact) (.object members) = [] ↔
      (∀ field ∈ fields, fieldFaults table direct members field = []) ∧
      (exact = true → ∀ key ∈ Entries.keys members, ∃ field ∈ fields, field.name = key) := by
  rw [faults_shape, List.append_eq_nil_iff, List.flatMap_eq_nil_iff]
  cases exact with
  | false => simp
  | true => simp [List.filter_eq_nil_iff]

end

section

variable (definitions : Definitions) (table : Table) (represents : definitions.Represents table)
  (resolves : table.Resolves) (direct : table.Direct)

theorem field_meets (members : List (String × Json)) (schema : Schema) (property : String × Schema) (field : Field)
    (of : Schema.FieldOf schema.required property field)
    (inner : ∀ child, Entries.get? property.1 members = some child →
      (faults table direct field.spec child = [] ↔ definitions.Meets property.2 child)) :
    fieldFaults table direct members field = [] ↔
      (∀ child, Entries.get? property.1 members = some child → child.kind ≠ .null →
        definitions.Meets property.2 child) ∧
      (schema.requires property.1 = true →
        ∃ child, Entries.get? property.1 members = some child ∧ child.kind ≠ .null) := by
  obtain ⟨name, required, _⟩ := of
  rw [fieldFaults, name, required, Schema.requires]
  cases found : Entries.get? property.1 members with
  | none => cases schema.required.contains property.1 <;> simp
  | some child =>
      by_cases null : child.kind = .null
      · cases schema.required.contains property.1 <;> simp [null]
      · simp [null, inner child found]

theorem shape_closes (schema : Schema) (first : String × Schema) (rest : List (String × Schema)) (fields : List Field)
    (place : Schema.Place) (members : List (String × Json)) (declared : schema.properties = some (first :: rest))
    (each : List.Forall₂ (Schema.FieldOf schema.required) (first :: rest) fields) :
    (Schema.exactAt place schema.additional = true →
      ∀ key ∈ Entries.keys members, ∃ field ∈ fields, field.name = key) ↔
    (place = .inner → schema.Closes (.object members)) := by
  have declares : ∀ key, (∃ field ∈ fields, field.name = key) ↔ ∃ property ∈ first :: rest, property.1 = key := by
    intro key
    rw [← List.mem_map, ← List.mem_map, Schema.field_names schema.required _ fields each]
  simp only [declares, Schema.Closes, declared, Json.keys]
  cases place with
  | definition => simp [Schema.exactAt]
  | inner =>
      rcases schema.additional with _ | _ | values
      · simp [Schema.exactAt]
      · simp [Schema.exactAt]
      · simp [Schema.exactAt]

-- The two readings of the nodes inside a definition agree on all trees of a smaller size.
def InnerAgree (value : Json) : Prop :=
  ∀ (schema : Schema) (spec : Spec) (child : Json), child.size < value.size → schema.compile = .ok spec →
    (∀ reference ∈ spec.references, table.contains reference = true) →
    (faults table direct spec child = [] ↔ definitions.Meets schema child)

theorem map_meets (schema values : Schema) (item : Spec) (members : List (String × Json))
    (absent : schema.properties = none) (uniform : schema.additional = some (.schema values))
    (compiled : values.compile = .ok item) (known : ∀ reference ∈ item.references, table.contains reference = true)
    (inner : InnerAgree definitions table direct (.object members)) :
    faults table direct (.map item) (.object members) = [] ↔ definitions.MeetsObject schema (.object members) := by
  rw [faults_map_nil, definitions.meets_uniform schema values members absent uniform]
  have each : ∀ member ∈ members, (faults table direct item member.2 = [] ↔ definitions.Meets values member.2) := by
    intro member listed
    have smaller := Json.size_member members member listed
    exact inner values item member.2 smaller compiled known
  constructor
  · intro none member listed
    exact (each member listed).mp (none member listed)
  · intro meets member listed
    exact (each member listed).mpr (meets member listed)

theorem fields_meet (schema : Schema) (properties : List (String × Schema)) (fields : List Field)
    (members : List (String × Json)) (declared : schema.properties = some properties)
    (each : List.Forall₂ (Schema.FieldOf schema.required) properties fields)
    (known : ∀ field ∈ fields, ∀ reference ∈ field.spec.references, table.contains reference = true)
    (inner : InnerAgree definitions table direct (.object members)) :
    (∀ field ∈ fields, fieldFaults table direct members field = []) ↔
      definitions.MeetsObject schema (.object members) := by
  rw [definitions.meets_properties schema properties members declared]
  symm
  apply forall_paired _ _ _ _ _ each
  intro property field listed of
  symm
  apply field_meets definitions table direct members schema property field of
  intro child found
  have smaller := Json.size_found members _ child found
  exact inner property.2 field.spec child smaller of.2.2 (known field listed)

theorem object_meets (place : Schema.Place) (schema : Schema) (spec : Spec) (value : Json)
    (form : Schema.ObjectForm place schema spec)
    (known : ∀ reference ∈ spec.references, table.contains reference = true)
    (inner : InnerAgree definitions table direct value) :
    faults table direct spec value = [] ↔
      definitions.MeetsObject schema value ∧ (place = .inner → schema.Closes value) := by
  cases value with
  | scalar content =>
      have apart := Json.scalar_not_object content
      rw [object_form_mismatch table direct place schema spec _ form apart]
      apply iff_of_false (by simp)
      intro both
      exact apart (definitions.meets_object_kind _ _ both.1)
  | array items =>
      rw [object_form_mismatch table direct place schema spec _ form Kind.noConfusion]
      apply iff_of_false (by simp)
      intro both
      have sort := definitions.meets_object_kind _ _ both.1
      contradiction
  | object members =>
      cases form with
      | bare declared =>
          have clean := faults_object_kind table direct members
          have closes := schema.closes_bare (.object members) (.inr declared)
          refine iff_of_true clean ⟨?_, fun _ => closes⟩
          rw [definitions.meets_properties schema [] members declared]
          intro property listed
          contradiction
      | any absent free =>
          have clean := faults_object_kind table direct members
          have meets := definitions.meets_free schema members absent free
          have closes := schema.closes_bare (.object members) (.inl absent)
          exact iff_of_true clean ⟨meets, fun _ => closes⟩
      | map values item absent uniform compiled =>
          have closes := schema.closes_bare (.object members) (.inl absent)
          rw [map_meets definitions table direct schema values item members absent uniform compiled known inner]
          exact (and_iff_left fun _ => closes).symm
      | shape first rest fields declared each =>
          have reached : ∀ field ∈ fields, ∀ reference ∈ field.spec.references, table.contains reference = true :=
            fun field listed reference used => known reference (field_references fields field listed reference used)
          have meet := fields_meet definitions table direct schema (first :: rest) fields members declared each reached inner
          have closes := shape_closes schema first rest fields place members declared each
          rw [faults_shape_nil, meet, closes]

theorem array_meets (item : Schema) (part : Spec) (value : Json) (within : item.compile = .ok part)
    (known : ∀ reference ∈ part.references, table.contains reference = true)
    (inner : InnerAgree definitions table direct value) :
    faults table direct (.array part) value = [] ↔
      ∃ items, value = .array items ∧ ∀ child ∈ items, definitions.Meets item child := by
  cases value with
  | scalar content =>
      rw [faults_array_mismatch table direct part _ (Json.scalar_not_array content)]
      apply iff_of_false (by simp)
      rintro ⟨_, same, _⟩
      contradiction
  | object members =>
      rw [faults_array_mismatch table direct part _ Kind.noConfusion]
      apply iff_of_false (by simp)
      rintro ⟨_, same, _⟩
      contradiction
  | array items =>
      have one : ∀ child ∈ items, (faults table direct part child = [] ↔ definitions.Meets item child) := by
        intro child listed
        have smaller := Json.size_item items child listed
        exact inner item part child smaller within known
      rw [faults_array_nil]
      constructor
      · intro none
        exact ⟨items, rfl, fun child listed => (one child listed).mp (none child listed)⟩
      · rintro ⟨others, same, meets⟩ child listed
        cases same
        exact (one child listed).mpr (meets child listed)

include represents resolves

theorem reference_meets (schema : Schema) (pointer name : String) (value : Json) (link : schema.reference = some pointer)
    (named : pointer = "#/definitions/" ++ name) (present : table.contains name = true)
    (inner : InnerAgree definitions table direct value) :
    faults table direct (.reference name) value = [] ↔ definitions.Meets schema value := by
  rw [Table.contains, Option.isSome_iff_exists] at present
  obtain ⟨target, found⟩ := present
  obtain ⟨source, declared, same⟩ := represents.source name target found
  have names : (∃ other schema, pointer = "#/definitions/" ++ other ∧ definitions.get? other = some schema ∧
      definitions.MeetsObject schema value) ↔ definitions.MeetsObject source value := by
    constructor
    · rintro ⟨other, schema, again, listed, meets⟩
      have one := reference_name_unique name other (named.symm.trans again)
      rw [← one, declared, Option.some.injEq] at listed
      exact listed ▸ meets
    · exact fun meets => ⟨name, source, named, declared, meets⟩
  rw [definitions.meets_reference schema value pointer link, names]
  cases container : value.kind.isContainer with
  | true =>
      have form := source.compile_object_form .definition target rfl same
      have known := resolves name target found
      have filled : value.kind ≠ .null := fun null => by simp [null, Kind.isContainer] at container
      rw [faults_reference table direct name target value found container,
        object_meets definitions table direct .definition source target value form known inner]
      simp [filled]
  | false =>
      rw [faults_reference_scalar table direct name value container]
      by_cases null : value.kind = .null <;> simp [null]

theorem inner_meets (schema : Schema) (spec : Spec) (value : Json) (compiled : schema.compile = .ok spec)
    (known : ∀ reference ∈ spec.references, table.contains reference = true) :
    faults table direct spec value = [] ↔ definitions.Meets schema value := by
  have inner : InnerAgree definitions table direct value := fun schema spec child _smaller compiled known =>
    inner_meets schema spec child compiled known
  cases schema.compile_form spec compiled with
  | reference pointer name link named =>
      have present := known name List.mem_cons_self
      exact reference_meets definitions table represents resolves direct schema pointer name value link named present
        inner
  | enum literals unlinked listed =>
      rw [definitions.meets_enum schema value literals unlinked listed, faults]
      by_cases allows : literals.any value.equalsLiteral = true <;> simp [allows]
  | primitive word type kind unlinked unlisted typed found plain =>
      rw [definitions.meets_primitive schema word value unlinked unlisted typed type kind found plain, faults]
      by_cases accepted : kind.accepts value.kind = true <;> simp [accepted]
  | array word item part unlinked unlisted typed found each within =>
      rw [definitions.meets_array schema word value unlinked unlisted typed item found each]
      exact array_meets definitions table direct item part value within known inner
  | object word _ unlinked unlisted typed found form =>
      have rule := object_meets definitions table direct .inner schema spec value form known inner
      rw [definitions.meets_object schema word value unlinked unlisted typed found, rule]
      simp
termination_by value.size

end

-- Checking a tree against an object definition of a document without dangling references
-- always ends, and reports nothing just where the tree meets the definition's own rule.
theorem check_entry_meaning (document : Json) (definitions : Definitions) (table : Table)
    (distinct : document.DistinctKeys) (read : Definitions.ofJson document = .ok definitions)
    (compiled : definitions.compile = .ok table) (closed : table.dangling = []) (name : String) (schema : Schema)
    (declared : definitions.get? name = some schema) (object : schema.describesObject = true) (value : Json) :
    ∃ found, table.checkEntry (Tree.data value.size) name (Tree.root value) = .ok found ∧
      (found = [] ↔ definitions.MeetsObject schema value) := by
  have names := Definitions.read_distinct document definitions distinct read
  have represents := definitions.compile_represents table names compiled
  have direct := definitions.represents_direct table represents
  have resolves := table.resolves_of_dangling closed
  obtain ⟨spec, same, entry⟩ := represents.entry name schema declared object
  have known := resolves name spec entry
  obtain ⟨found, ran⟩ := table.check_passes (Tree.data value.size) resolves spec (Tree.root value) known
  have checked := (table.check_entry_survey _ name spec _ entry).trans ran
  refine ⟨found, checked, ?_⟩
  have form := schema.compile_object_form .definition spec rfl same
  have inner : InnerAgree definitions table direct value := fun schema spec child _ compiled known =>
    inner_meets definitions table represents resolves direct schema spec child compiled known
  have rule := object_meets definitions table direct .definition schema spec value form known inner
  have reports := table.check_faults direct spec value found ran
  calc found = [] ↔ found.map Violation.fault = [] := List.map_eq_nil_iff.symm
    _ ↔ faults table direct spec value = [] := by rw [reports]
    _ ↔ definitions.MeetsObject schema value := rule.trans (and_iff_left nofun)

def chainDocument : Json :=
  .object [("node", .object [("type", .string "object"),
    ("properties", .object [("label", .object [("type", .string "string")]),
      ("next", .object [("$ref", .string "#/definitions/node")])]),
    ("required", .array [.string "label"])])]

def nodeSchema : Schema :=
  ⟨some "object", none, none,
    some [("label", ⟨some "string", none, none, none, [], none, none⟩),
      ("next", ⟨none, some "#/definitions/node", none, none, [], none, none⟩)], ["label"], none, none⟩

theorem chain_document_read : Definitions.ofJson chainDocument = .ok ⟨[("node", nodeSchema)]⟩ := by
  simp [Definitions.ofJson, chainDocument, nodeSchema, Definitions.readMembers, Definitions.ofPairs, Schema.ofJson,
    Schema.readProperties, Schema.readString, Schema.readLiterals, Schema.readRequired, Schema.readNames, Entries.get?,
    bind, Except.bind, pure, Except.pure, Except.map, Except.mapError]

theorem chain_document_distinct : chainDocument.DistinctKeys := by
  simp [chainDocument, Json.DistinctKeys, Json.DistinctEntries, Json.DistinctItems, Entries.keys]

theorem broken_chain_meaning :
    ∃ found, (Table.mk [("node", some (.shape [⟨"label", .primitive .string, true⟩,
        ⟨"next", .reference "node", false⟩] false))]).checkEntry (Tree.data Table.brokenChain.size) "node"
          (Tree.root Table.brokenChain) = .ok found ∧
      (found = [] ↔ (Definitions.mk [("node", nodeSchema)]).MeetsObject nodeSchema Table.brokenChain) :=
  check_entry_meaning chainDocument _ _ chain_document_distinct chain_document_read rfl (by decide) "node" nodeSchema rfl
    rfl Table.brokenChain

end ShapeCheck
