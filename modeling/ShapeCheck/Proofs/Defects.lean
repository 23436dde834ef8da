import ShapeCheck.Proofs.Collection
import ShapeCheck.Proofs.Origins

set_option autoImplicit false

namespace ShapeCheck

section

variable {ε κ α β : Type} (answer : Except ε α)

@[simp] theorem failure_map (next : α → β) : failure? (answer.map next) = failure? answer := by
  cases answer <;> rfl

@[simp] theorem failure_map_error (wrap : ε → κ) : failure? (answer.mapError wrap) = (failure? answer).map wrap := by
  cases answer <;> rfl

theorem failure_bind (next : α → Except ε β) (later : Option ε) (each : ∀ result, failure? (next result) = later) :
    failure? (answer >>= next) = (failure? answer).or later := by
  cases answer with
  | error cause => rfl
  | ok result => exact each result

end

theorem find_congr {α β : Type} (first second : α → Option β) (list : List α)
    (same : ∀ value ∈ list, first value = second value) : list.findSome? first = list.findSome? second := by
  induction list with
  | nil => rfl
  | cons value rest ih =>
      rw [List.forall_mem_cons] at same
      rw [List.findSome?_cons, List.findSome?_cons, same.1, ih same.2]

theorem find_flat_map {α β γ : Type} (find : β → Option γ) (next : α → List β) (list : List α) :
    (list.flatMap next).findSome? find = list.findSome? fun value => (next value).findSome? find := by
  induction list with
  | nil => rfl
  | cons value rest ih =>
      rw [List.flatMap_cons, List.findSome?_append, ih, List.findSome?_cons]
      cases (next value).findSome? find <;> rfl

theorem reference_name_given (name : String) (filled : name ≠ "") :
    referenceName ("#/definitions/" ++ name) = .ok name := by
  have chars : ("#/definitions/" ++ name).toList = referencePrefix ++ name.toList := String.toList_append
  have shaped : referencePrefix.isPrefixOf (referencePrefix ++ name.toList) = true :=
    List.isPrefixOf_iff_prefix.mpr (List.prefix_append _ _)
  have rest : name.toList.isEmpty = false := by
    rw [List.isEmpty_eq_false_iff]
    exact fun empty => filled (String.toList_eq_nil_iff.mp empty)
  simp only [referenceName, chars, List.drop_left, shaped, rest, Bool.not_false, Bool.and_true, if_true,
    String.ofList_toList]

theorem reference_malformed (pointer : String) (cause : SchemaError) :
    referenceName pointer = .error cause ↔
      (∀ name, name ≠ "" → pointer ≠ "#/definitions/" ++ name) ∧ cause = .malformedReference pointer := by
  have told : ∀ other, referenceName pointer = .error other → other = .malformedReference pointer := by
    intro other failed
    simp only [referenceName] at failed
    split at failed
    · contradiction
    · exact (Except.error.inj failed).symm
  constructor
  · intro failed
    refine ⟨fun name filled same => ?_, told cause failed⟩
    rw [same, reference_name_given name filled] at failed
    contradiction
  · rintro ⟨shapeless, rfl⟩
    cases named : referenceName pointer with
    | ok name =>
        have filled := Schema.reference_name_filled pointer name named
        exact absurd (reference_named pointer name named) (shapeless name filled)
    | error other => rw [told other named]

@[simp] theorem keyword_known (type : SchemaType) : SchemaType.ofKeyword? type.keyword = some type := by
  cases type <;> decide

theorem keyword_of_known (word : String) (type : SchemaType) (known : SchemaType.ofKeyword? word = some type) :
    word = type.keyword := by
  have matched := List.find?_some known
  exact (beq_iff_eq.mp matched).symm

theorem keyword_unknown (word : String) :
    SchemaType.ofKeyword? word = none ↔ ∀ type : SchemaType, type.keyword ≠ word := by
  constructor
  · rintro foreign type rfl
    rw [keyword_known] at foreign
    contradiction
  · intro foreign
    cases known : SchemaType.ofKeyword? word with
    | none => rfl
    | some type => exact absurd (keyword_of_known word type known).symm (foreign type)

-- Which keyword settles what a node is: a reference goes before literals, and these before the type.
@[elab_as_elim]
theorem keyword_cases {motive : Option String → Option (List Json) → Option String → Prop}
    (reference : ∀ pointer allowed typeName, motive (some pointer) allowed typeName)
    (enum : ∀ literals typeName, motive none (some literals) typeName) (untyped : motive none none none)
    (unknown : ∀ word, (∀ type : SchemaType, type.keyword ≠ word) → motive none none (some word))
    (typed : ∀ type : SchemaType, motive none none (some type.keyword)) :
    ∀ link allowed typeName, motive link allowed typeName
  | some pointer, allowed, typeName => reference pointer allowed typeName
  | none, some literals, typeName => enum literals typeName
  | none, none, none => untyped
  | none, none, some word => by
      cases known : SchemaType.ofKeyword? word with
      | none => exact unknown word ((keyword_unknown word).mp known)
      | some type => exact keyword_of_known word type known ▸ typed type

namespace Schema

inductive Defect (schema : Schema) : SchemaError → Prop where
  | malformed (pointer : String) (link : schema.reference = some pointer)
      (shapeless : ∀ name, name ≠ "" → pointer ≠ "#/definitions/" ++ name) :
      Defect schema (.malformedReference pointer)
  | untyped (unlinked : schema.reference = none) (unlisted : schema.allowed = none) (bare : schema.typeName = none) :
      Defect schema .missingType
  | unknown (word : String) (unlinked : schema.reference = none) (unlisted : schema.allowed = none)
      (typed : schema.typeName = some word) (foreign : ∀ type : SchemaType, type.keyword ≠ word) :
      Defect schema (.unknownType word)
  | itemless (unlinked : schema.reference = none) (unlisted : schema.allowed = none)
      (typed : schema.typeName = some SchemaType.array.keyword) (absent : schema.items = none) :
      Defect schema .missingItems

def objectParts (schema : Schema) : List (Option String × Schema) :=
  match schema.properties, schema.additional with
  | some properties, _ => properties.map fun property => (some property.1, property.2)
  | none, some (.schema values) => [(none, values)]
  | none, _ => []

def parts (schema : Schema) : List (Option String × Schema) :=
  if schema.reference.isSome || schema.allowed.isSome then []
  else if schema.typeName = some SchemaType.array.keyword then schema.items.toList.map fun item => (none, item)
  else if schema.typeName = some SchemaType.object.keyword then schema.objectParts
  else []

theorem object_part_size (schema : Schema) (part : Option String × Schema) (listed : part ∈ schema.objectParts) :
    sizeOf part.2 < sizeOf schema := by
  rcases schema with ⟨typeName, reference, allowed, properties, required, additional, items⟩
  rcases properties with _ | properties
  · rcases additional with _ | _ | values
    · exact absurd listed List.not_mem_nil
    · exact absurd listed List.not_mem_nil
    · rw [List.mem_singleton.mp listed]
      simp only [mk.sizeOf_spec, Option.some.sizeOf_spec, Additional.schema.sizeOf_spec]
      omega
  · obtain ⟨⟨key, inner⟩, declared, same⟩ := List.mem_map.mp listed
    have smaller := List.sizeOf_lt_of_mem declared
    subst same
    simp only [mk.sizeOf_spec, Option.some.sizeOf_spec, Prod.mk.sizeOf_spec] at smaller ⊢
    omega

theorem part_size (schema : Schema) (part : Option String × Schema) (listed : part ∈ schema.parts) :
    sizeOf part.2 < sizeOf schema := by
  rw [parts] at listed
  split at listed
  · exact absurd listed List.not_mem_nil
  · split at listed
    · obtain ⟨item, given, same⟩ := List.mem_map.mp listed
      rw [Option.mem_toList] at given
      rcases schema with ⟨typeName, reference, allowed, properties, required, additional, items⟩
      subst same given
      simp only [mk.sizeOf_spec, Option.some.sizeOf_spec]
      omega
    · split at listed
      · exact schema.object_part_size part listed
      · exact absurd listed List.not_mem_nil

def inside (edge : Option String) (node : List String × Schema) : List String × Schema := (edge.toList ++ node.1, node.2)

-- A node and all that are looked at below it, each before its own parts and with the properties on
-- the way to it.
def liveNodes (schema : Schema) : List (List String × Schema) :=
  ([], schema) :: schema.parts.attach.flatMap fun part => (liveNodes part.1.2).map (inside part.1.1)
termination_by sizeOf schema
decreasing_by exact part_size schema part.1 part.2

-- A definition is read as an object, so its own node has no defect.
def definitionNodes (schema : Schema) : List (List String × Schema) :=
  schema.objectParts.flatMap fun part => (liveNodes part.2).map (inside part.1)

def FirstDefect (nodes : List (List String × Schema)) (failure : SchemaError) : Prop :=
  ∃ before trail node after cause, nodes = before ++ (trail, node) :: after ∧
    (∀ earlier ∈ before, ∀ other, ¬ earlier.2.Defect other) ∧ node.Defect cause ∧
    failure = trail.foldr .inProperty cause

theorem live_nodes_parts (schema : Schema) :
    schema.liveNodes = ([], schema) :: schema.parts.flatMap fun part => (liveNodes part.2).map (inside part.1) := by
  have listed := List.attach_map_subtype_val schema.parts
  rw [liveNodes]
  conv_rhs => rw [← listed, List.flatMap_map]

def defect? (schema : Schema) : Option SchemaError :=
  match innerForm schema.reference schema.allowed schema.typeName with
  | .error cause => some cause
  | .ok .array => if schema.items.isNone then some .missingItems else none
  | .ok _ => none

theorem defect_some (schema : Schema) (cause : SchemaError) : schema.defect? = some cause ↔ schema.Defect cause := by
  rcases schema with ⟨typeName, reference, allowed, properties, required, additional, items⟩
  constructor
  · intro found
    cases reference, allowed, typeName using keyword_cases with
    | reference pointer allowed typeName =>
        cases named : referenceName pointer with
        | ok name => simp [defect?, innerForm, named, Except.map] at found
        | error other =>
            simp only [defect?, innerForm, named, Except.map, Option.some.injEq] at found
            obtain ⟨shapeless, same⟩ := (reference_malformed pointer other).mp named
            exact found ▸ same ▸ .malformed pointer rfl shapeless
    | enum literals typeName => contradiction
    | untyped =>
        cases found
        exact .untyped rfl rfl rfl
    | unknown word foreign =>
        simp only [defect?, innerForm, (keyword_unknown word).mpr foreign, Option.some.injEq] at found
        exact found ▸ .unknown word rfl rfl rfl foreign
    | typed type =>
        cases type with
        | array =>
            cases items with
            | none =>
                cases found
                exact .itemless rfl rfl rfl rfl
            | some item => contradiction
        | _ => contradiction
  · intro defect
    cases defect with
    | malformed pointer link shapeless =>
        obtain rfl : reference = some pointer := link
        have named := (reference_malformed pointer _).mpr ⟨shapeless, rfl⟩
        simp only [defect?, innerForm, named, Except.map]
    | untyped unlinked unlisted bare =>
        cases unlinked
        cases unlisted
        cases bare
        rfl
    | unknown word unlinked unlisted typed foreign =>
        cases unlinked
        cases unlisted
        cases typed
        simp only [defect?, innerForm, (keyword_unknown word).mpr foreign]
    | itemless unlinked unlisted typed absent =>
        cases unlinked
        cases unlisted
        cases typed
        cases absent
        rfl

theorem defect_none (schema : Schema) : schema.defect? = none ↔ ∀ cause, ¬ schema.Defect cause := by
  rw [Option.eq_none_iff_forall_ne_some]
  exact forall_congr' fun cause => not_congr (schema.defect_some cause)

theorem compile_reference (schema : Schema) (pointer : String) (link : schema.reference = some pointer) :
    schema.compile = (referenceName pointer).map .reference := by
  rcases schema with ⟨typeName, reference, allowed, properties, required, additional, items⟩
  obtain rfl : reference = some pointer := link
  unfold compile compileAt
  cases named : referenceName pointer <;> simp only [formAt, innerForm, named, Except.map]

theorem compile_unknown (schema : Schema) (word : String) (unlinked : schema.reference = none)
    (unlisted : schema.allowed = none) (typed : schema.typeName = some word)
    (foreign : ∀ type : SchemaType, type.keyword ≠ word) : schema.compile = .error (.unknownType word) := by
  rcases schema with ⟨typeName, reference, allowed, properties, required, additional, items⟩
  cases unlinked
  cases unlisted
  cases typed
  unfold compile compileAt
  simp only [formAt, innerForm, (keyword_unknown word).mpr foreign]

def partFailure? (part : Option String × Schema) : Option SchemaError :=
  (failure? part.2.compile).map fun cause => part.1.toList.foldr .inProperty cause

theorem sole_part_failure (schema : Schema) : [(none, schema)].findSome? partFailure? = failure? schema.compile := by
  rw [List.findSome?_singleton, partFailure?]
  cases failure? schema.compile <;> rfl

theorem compile_fields_failure (required : List String) (properties : List (String × Schema)) :
    failure? (compileFields required properties) =
      properties.findSome? fun property => partFailure? (some property.1, property.2) := by
  induction properties with
  | nil => rfl
  | cons property rest ih =>
      rcases property with ⟨key, schema⟩
      have later : ∀ spec, failure? (compileFields required rest >>= fun others =>
          return (⟨key, spec, required.contains key⟩ : Field) :: others) = failure? (compileFields required rest) :=
        fun spec => (failure_bind _ _ none fun _ => rfl).trans (Option.or_none)
      rw [compileFields, failure_bind _ _ _ later, failure_map_error, ih, List.findSome?_cons, partFailure?, compile]
      cases failure? (schema.compileAt .inner) <;> rfl

theorem compile_object_failure (schema : Schema) (place : Place)
    (form : formAt place schema.reference schema.allowed schema.typeName = .ok .object) :
    failure? (schema.compileAt place) = schema.objectParts.findSome? partFailure? := by
  rcases schema with ⟨typeName, reference, allowed, properties, required, additional, items⟩
  unfold compileAt
  simp only [form]
  rcases properties with _ | _ | ⟨first, rest⟩
  · rcases additional with _ | _ | values
    · rfl
    · rfl
    · simp only [failure_map]
      exact (sole_part_failure values).symm
  · rfl
  · simp only [failure_map, compile_fields_failure]
    rw [objectParts, List.findSome?_map]
    rfl

theorem compile_failure (schema : Schema) :
    failure? schema.compile = schema.defect?.or (schema.parts.findSome? partFailure?) := by
  have object := schema.compile_object_failure .inner
  rcases schema with ⟨typeName, reference, allowed, properties, required, additional, items⟩
  cases reference, allowed, typeName using keyword_cases with
  | reference pointer allowed typeName =>
      rw [compile_reference _ pointer rfl, failure_map]
      cases named : referenceName pointer <;> simp only [defect?, innerForm, named, Except.map] <;> rfl
  | enum literals typeName => rfl
  | untyped => rfl
  | unknown word foreign =>
      rw [compile_unknown _ word rfl rfl rfl foreign, defect?, innerForm, (keyword_unknown word).mpr foreign]
      rfl
  | typed type =>
      cases type with
      | array =>
          cases items with
          | none => rfl
          | some item => exact (failure_map _ Spec.array).trans (sole_part_failure item).symm
      | object => exact object rfl
      | _ => rfl

def nodeFailure? (node : List String × Schema) : Option SchemaError :=
  node.2.defect?.map fun cause => node.1.foldr .inProperty cause

theorem nodes_inside_failure (edge : Option String) (nodes : List (List String × Schema)) :
    (nodes.map (inside edge)).findSome? nodeFailure? =
      (nodes.findSome? nodeFailure?).map fun cause => edge.toList.foldr .inProperty cause := by
  rw [List.findSome?_map, List.map_findSome?]
  apply congrArg (List.findSome? · nodes)
  funext node
  simp only [Function.comp_def, nodeFailure?, inside, Option.map_map, List.foldr_append]

-- The induction is on the size of a node: its parts come from one keyword or another.
theorem compile_live_failure (schema : Schema) : failure? schema.compile = schema.liveNodes.findSome? nodeFailure? := by
  have each : ∀ part ∈ schema.parts,
      partFailure? part = ((liveNodes part.2).map (inside part.1)).findSome? nodeFailure? := by
    intro part listed
    rw [nodes_inside_failure, partFailure?, compile_live_failure part.2]
  have own : nodeFailure? ([], schema) = schema.defect? := by
    rw [nodeFailure?]
    cases schema.defect? <;> rfl
  rw [compile_failure, live_nodes_parts, List.findSome?_cons, find_flat_map, own, find_congr _ _ _ each]
  cases schema.defect? <;> rfl
termination_by sizeOf schema
decreasing_by exact part_size schema part listed

theorem definition_live_failure (schema : Schema) :
    failure? schema.compileDefinition = schema.definitionNodes.findSome? nodeFailure? := by
  rw [definitionNodes, find_flat_map]
  refine (schema.compile_object_failure .definition rfl).trans (find_congr _ _ _ fun part _ => ?_)
  rw [nodes_inside_failure, partFailure?, compile_live_failure part.2]

theorem first_defect (nodes : List (List String × Schema)) (failure : SchemaError) :
    nodes.findSome? nodeFailure? = some failure ↔ FirstDefect nodes failure := by
  rw [List.findSome?_eq_some_iff]
  constructor
  · rintro ⟨before, ⟨trail, node⟩, after, same, fails, passed⟩
    obtain ⟨cause, found, wrapped⟩ := Option.map_eq_some_iff.mp fails
    have defect := (node.defect_some cause).mp found
    refine ⟨before, trail, node, after, cause, same, fun earlier listed => ?_, defect, wrapped.symm⟩
    exact earlier.2.defect_none.mp (Option.map_eq_none_iff.mp (passed earlier listed))
  · rintro ⟨before, trail, node, after, cause, same, passed, defect, wrapped⟩
    refine ⟨before, (trail, node), after, same, ?_, fun earlier listed => ?_⟩
    · exact Option.map_eq_some_iff.mpr ⟨cause, (node.defect_some cause).mpr defect, wrapped.symm⟩
    · exact Option.map_eq_none_iff.mpr (earlier.2.defect_none.mpr (passed earlier listed))

theorem compile_first_defect (schema : Schema) (failure : SchemaError) :
    schema.compile = .error failure ↔ FirstDefect schema.liveNodes failure := by
  rw [← failure_some, compile_live_failure, first_defect]

theorem definition_first_defect (schema : Schema) (failure : SchemaError) :
    schema.compileDefinition = .error failure ↔ FirstDefect schema.definitionNodes failure := by
  rw [← failure_some, definition_live_failure, first_defect]

def Sound (nodes : List (List String × Schema)) : Prop := ∀ node ∈ nodes, ∀ cause, ¬ node.2.Defect cause

theorem sound_nodes (nodes : List (List String × Schema)) : nodes.findSome? nodeFailure? = none ↔ Sound nodes := by
  rw [List.findSome?_eq_none_iff]
  refine forall_congr' fun node => forall_congr' fun _ => ?_
  rw [nodeFailure?, Option.map_eq_none_iff, defect_none]

theorem compile_sound (schema : Schema) : (∃ spec, schema.compile = .ok spec) ↔ Sound schema.liveNodes := by
  rw [← failure_none, compile_live_failure, sound_nodes]

theorem definition_sound (schema : Schema) :
    (∃ spec, schema.compileDefinition = .ok spec) ↔ Sound schema.definitionNodes := by
  rw [← failure_none, definition_live_failure, sound_nodes]

theorem compile_defective (schema : Schema) :
    (∃ failure, schema.compile = .error failure) ↔ ∃ node ∈ schema.liveNodes, ∃ cause, node.2.Defect cause := by
  rw [failure_exists, compile_sound, Sound]
  simp only [not_forall, not_not, exists_prop]

def children (schema : Schema) : List (Option String × Schema) :=
  (schema.items.toList.map fun item => (none, item)) ++
    (schema.properties.getD []).map (fun property => (some property.1, property.2)) ++
    match schema.additional with
    | some (.schema values) => [(none, values)]
    | _ => []

def trimmed (schema : Schema) : Schema :=
  if schema.reference.isSome then ⟨none, schema.reference, none, none, [], none, none⟩
  else if schema.allowed.isSome then ⟨none, none, schema.allowed, none, [], none, none⟩
  else if schema.typeName = some SchemaType.array.keyword then ⟨schema.typeName, none, none, none, [], none, schema.items⟩
  else if schema.typeName = some SchemaType.object.keyword then
    match schema.properties, schema.additional with
    | some properties, some (.schema _) => ⟨schema.typeName, none, none, some properties, schema.required, none, none⟩
    | properties, additional => ⟨schema.typeName, none, none, properties, schema.required, additional, none⟩
  else ⟨schema.typeName, none, none, none, [], none, none⟩

theorem trimmed_unknown (schema : Schema) (word : String) (unlinked : schema.reference = none)
    (unlisted : schema.allowed = none) (typed : schema.typeName = some word)
    (foreign : ∀ type : SchemaType, type.keyword ≠ word) :
    schema.trimmed = ⟨some word, none, none, none, [], none, none⟩ ∧ schema.parts = [] := by
  have array : some word ≠ some SchemaType.array.keyword := fun same => foreign .array (Option.some.inj same).symm
  have object : some word ≠ some SchemaType.object.keyword := fun same => foreign .object (Option.some.inj same).symm
  rw [trimmed, parts, unlinked, unlisted, typed, if_neg array, if_neg array, if_neg object, if_neg object]
  exact ⟨rfl, rfl⟩

theorem trimmed_children (schema : Schema) : schema.trimmed.children = schema.parts := by
  rcases schema with ⟨typeName, reference, allowed, properties, required, additional, items⟩
  cases reference, allowed, typeName using keyword_cases with
  | reference pointer allowed typeName => rfl
  | enum literals typeName => rfl
  | untyped => rfl
  | unknown word foreign =>
      obtain ⟨bare, none⟩ := trimmed_unknown ⟨some word, none, none, properties, required, additional, items⟩ word
        rfl rfl rfl foreign
      rw [bare, none]
      rfl
  | typed type =>
      cases type with
      | array => cases items <;> rfl
      | object =>
          rcases properties with _ | properties <;> rcases additional with _ | _ | values <;>
            simp [trimmed, children, parts, objectParts, SchemaType.keyword]
      | _ => rfl

theorem trimmed_compile (schema : Schema) : schema.trimmed.compile = schema.compile := by
  rcases schema with ⟨typeName, reference, allowed, properties, required, additional, items⟩
  cases reference, allowed, typeName using keyword_cases with
  | reference pointer allowed typeName =>
      exact (compile_reference (trimmed _) pointer rfl).trans (compile_reference _ pointer rfl).symm
  | enum literals typeName => rfl
  | untyped => rfl
  | unknown word foreign =>
      obtain ⟨bare, _⟩ := trimmed_unknown ⟨some word, none, none, properties, required, additional, items⟩ word
        rfl rfl rfl foreign
      rw [bare, compile_unknown _ word rfl rfl rfl foreign, compile_unknown _ word rfl rfl rfl foreign]
  | typed type =>
      cases type with
      | array => cases items <;> rfl
      | object => rcases properties with _ | _ | ⟨first, rest⟩ <;> rcases additional with _ | _ | values <;> rfl
      | _ => rfl

end Schema

namespace Definitions

theorem compile_first_defect (pairs : List (String × Schema)) (failure : SchemaError) :
    (ofPairs pairs).compile = .error failure ↔
      ∃ before name schema after cause, pairs = before ++ (name, schema) :: after ∧
        (∀ pair ∈ before, pair.2.describesObject = true → Schema.Sound pair.2.definitionNodes) ∧
        schema.describesObject = true ∧ Schema.FirstDefect schema.definitionNodes cause ∧
        failure = .inDefinition name cause := by
  simp only [compile_fails_first, FirstFailing, Schema.definition_sound, Schema.definition_first_defect]

end Definitions

-- A node fails to compile when one of the nodes looked at has a defect, and then with the first of
-- these, told with the properties on the way to it. The rest of a node is never looked at.
theorem first_defect_reported :
    (∀ schema : Schema,
      (∃ failure, schema.compile = .error failure) ↔ ∃ node ∈ schema.liveNodes, ∃ cause, node.2.Defect cause) ∧
    (∀ (schema : Schema) failure, schema.compile = .error failure ↔ Schema.FirstDefect schema.liveNodes failure) ∧
    (∀ (pairs : List (String × Schema)) failure, (Definitions.ofPairs pairs).compile = .error failure ↔
      ∃ before name schema after cause, pairs = before ++ (name, schema) :: after ∧
        (∀ pair ∈ before, pair.2.describesObject = true → Schema.Sound pair.2.definitionNodes) ∧
        schema.describesObject = true ∧ Schema.FirstDefect schema.definitionNodes cause ∧
        failure = .inDefinition name cause) ∧
    ∀ schema : Schema, schema.trimmed.children = schema.parts ∧ schema.trimmed.compile = schema.compile :=
  ⟨Schema.compile_defective, Schema.compile_first_defect, Definitions.compile_first_defect,
    fun schema => ⟨schema.trimmed_children, schema.trimmed_compile⟩⟩

-- A crate of labelled boxes. The label is a reference, so its own type is not looked at, and of the two
-- sizes the first one is reported.
def labelSchema : Schema := ⟨some "paper", some "#/definitions/label", none, none, [], none, none⟩

def boxSchema : Schema :=
  ⟨some "object", none, none,
    some [("label", labelSchema), ("size", ⟨some "inch", none, none, none, [], none, none⟩),
      ("depth", ⟨none, none, none, none, [], none, none⟩)], [], none, none⟩

def crateSchema : Schema :=
  ⟨some "object", none, none,
    some [("label", labelSchema), ("boxes", ⟨some "array", none, none, none, [], none, some boxSchema⟩)], [], none, none⟩

def linkedSchema : Schema :=
  ⟨some "object", some "crate", some [], none, [], some (.schema crateSchema), none⟩

theorem crate_defect_located :
    Schema.FirstDefect crateSchema.liveNodes (.inProperty "boxes" (.inProperty "size" (.unknownType "inch"))) ∧
      (∃ node ∈ crateSchema.liveNodes, ∃ cause, node.2.Defect cause) ∧
      Schema.FirstDefect linkedSchema.liveNodes (.malformedReference "crate") ∧
      (Definitions.ofPairs [("label", labelSchema), ("crates", linkedSchema)]).compile =
        .error (.inDefinition "crates" (.inProperty "boxes" (.inProperty "size" (.unknownType "inch")))) := by
  obtain ⟨fails, located, definition, _⟩ := first_defect_reported
  have crate : crateSchema.compile = .error (.inProperty "boxes" (.inProperty "size" (.unknownType "inch"))) := rfl
  have linked : linkedSchema.compile = .error (.malformedReference "crate") := rfl
  have inner := (linkedSchema.definition_first_defect
    (.inProperty "boxes" (.inProperty "size" (.unknownType "inch")))).mp rfl
  have skipped : ∀ pair ∈ [("label", labelSchema)], pair.2.describesObject = true →
      Schema.Sound pair.2.definitionNodes := by
    intro pair listed object
    rw [List.mem_singleton.mp listed] at object
    contradiction
  refine ⟨(located _ _).mp crate, (fails _).mp ⟨_, crate⟩, (located _ _).mp linked, (definition _ _).mpr ?_⟩
  exact ⟨[("label", labelSchema)], "crates", linkedSchema, [], _, rfl, skipped, rfl, inner, rfl⟩

end ShapeCheck
