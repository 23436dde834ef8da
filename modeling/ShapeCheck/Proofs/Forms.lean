import Mathlib.Data.List.Forall2
import ShapeCheck.Spec.Compile

set_option autoImplicit false

namespace ShapeCheck

theorem bind_passed {ε α β : Type} (first : Except ε α) (next : α → Except ε β) (result : β)
    (passed : (first >>= next) = .ok result) : ∃ middle, first = .ok middle ∧ next middle = .ok result := by
  cases first with
  | error defect => contradiction
  | ok middle => exact ⟨middle, rfl, passed⟩

theorem map_passed {ε α β : Type} (first : Except ε α) (next : α → β) (result : β)
    (passed : first.map next = .ok result) : ∃ middle, first = .ok middle ∧ next middle = result := by
  cases first with
  | error defect => contradiction
  | ok middle => exact ⟨middle, rfl, Except.ok.inj passed⟩

theorem map_error_passed {ε κ α : Type} (first : Except ε α) (wrap : ε → κ) (result : α)
    (passed : first.mapError wrap = .ok result) : first = .ok result := by
  cases first with
  | error defect => contradiction
  | ok middle => exact congrArg Except.ok (Except.ok.inj passed)

theorem reference_named (pointer name : String) (named : referenceName pointer = .ok name) :
    pointer = "#/definitions/" ++ name := by
  simp only [referenceName, Bool.and_eq_true] at named
  split at named
  · rename_i shaped
    obtain ⟨rest, same⟩ := List.isPrefixOf_iff_prefix.mp shaped.1
    rw [Except.ok.injEq] at named
    apply String.toList_inj.mp
    simp only [← named, ← same, List.drop_left, String.toList_append, String.toList_ofList]
    rfl
  · contradiction

theorem reference_name_unique (name other : String) (same : "#/definitions/" ++ name = "#/definitions/" ++ other) :
    name = other :=
  (String.append_right_inj _).mp same

def SchemaType.primitive? : SchemaType → Option PrimitiveKind
  | .string => some .string
  | .number => some .number
  | .integer => some .number
  | .boolean => some .boolean
  | .array => none
  | .object => none

namespace Schema

def FieldOf (required : List String) (property : String × Schema) (field : Field) : Prop :=
  field.name = property.1 ∧ field.required = required.contains property.1 ∧ property.2.compile = .ok field.spec

theorem compile_fields_each (required : List String) (properties : List (String × Schema)) (fields : List Field)
    (compiled : compileFields required properties = .ok fields) :
    List.Forall₂ (FieldOf required) properties fields := by
  induction properties generalizing fields with
  | nil =>
      rw [compileFields, Except.ok.injEq] at compiled
      exact compiled ▸ .nil
  | cons property rest ih =>
      rcases property with ⟨key, schema⟩
      rw [compileFields] at compiled
      obtain ⟨spec, first, compiled⟩ := bind_passed _ _ _ compiled
      obtain ⟨others, later, compiled⟩ := bind_passed _ _ _ compiled
      cases compiled
      have inner : schema.compile = .ok spec := map_error_passed _ _ _ first
      exact .cons ⟨rfl, rfl, inner⟩ (ih others later)

theorem field_names (required : List String) (properties : List (String × Schema)) (fields : List Field)
    (each : List.Forall₂ (FieldOf required) properties fields) :
    fields.map Field.name = properties.map Prod.fst := by
  induction each with
  | nil => rfl
  | cons head tail ih => rw [List.map_cons, List.map_cons, head.1, ih]

inductive ObjectForm (place : Place) (schema : Schema) : Spec → Prop where
  | bare (declared : schema.properties = some []) : ObjectForm place schema (.primitive .object)
  | shape (first : String × Schema) (rest : List (String × Schema)) (fields : List Field)
      (declared : schema.properties = some (first :: rest))
      (each : List.Forall₂ (FieldOf schema.required) (first :: rest) fields) :
      ObjectForm place schema (.shape fields (exactAt place schema.additional))
  | map (values : Schema) (spec : Spec) (absent : schema.properties = none)
      (uniform : schema.additional = some (.schema values)) (compiled : values.compile = .ok spec) :
      ObjectForm place schema (.map spec)
  | any (absent : schema.properties = none) (free : ∀ values, schema.additional ≠ some (.schema values)) :
      ObjectForm place schema (.primitive .object)

theorem compile_object_form (schema : Schema) (place : Place) (spec : Spec)
    (form : formAt place schema.reference schema.allowed schema.typeName = .ok .object)
    (compiled : schema.compileAt place = .ok spec) : ObjectForm place schema spec := by
  rcases schema with ⟨typeName, reference, allowed, properties, required, additional, items⟩
  unfold compileAt at compiled
  simp only [form] at compiled
  rcases properties with _ | _ | ⟨first, rest⟩
  · rcases additional with _ | _ | values
    · cases compiled
      exact .any rfl nofun
    · cases compiled
      exact .any rfl nofun
    · obtain ⟨inner, within, same⟩ := map_passed _ _ _ compiled
      exact same ▸ .map values inner rfl rfl within
  · cases compiled
    exact .bare rfl
  · obtain ⟨fields, within, same⟩ := map_passed _ _ _ compiled
    have each := compile_fields_each required _ fields within
    exact same ▸ .shape first rest fields rfl each

theorem object_form_direct (place : Place) (schema : Schema) (spec : Spec) (form : ObjectForm place schema spec) :
    spec.isReference = false := by
  cases form <;> rfl

inductive InnerForm (schema : Schema) : Spec → Prop where
  | reference (pointer name : String) (link : schema.reference = some pointer)
      (named : pointer = "#/definitions/" ++ name) : InnerForm schema (.reference name)
  | enum (literals : List Json) (unlinked : schema.reference = none) (listed : schema.allowed = some literals) :
      InnerForm schema (.enum literals)
  | primitive (word : String) (type : SchemaType) (kind : PrimitiveKind) (unlinked : schema.reference = none)
      (unlisted : schema.allowed = none) (typed : schema.typeName = some word)
      (known : SchemaType.ofKeyword? word = some type) (plain : type.primitive? = some kind) :
      InnerForm schema (.primitive kind)
  | array (word : String) (item : Schema) (spec : Spec) (unlinked : schema.reference = none)
      (unlisted : schema.allowed = none) (typed : schema.typeName = some word)
      (known : SchemaType.ofKeyword? word = some .array) (each : schema.items = some item)
      (compiled : item.compile = .ok spec) : InnerForm schema (.array spec)
  | object (word : String) (spec : Spec) (unlinked : schema.reference = none)
      (unlisted : schema.allowed = none) (typed : schema.typeName = some word)
      (known : SchemaType.ofKeyword? word = some .object) (form : ObjectForm .inner schema spec) :
      InnerForm schema spec

theorem inner_form_given (reference : Option String) (allowed : Option (List Json)) (typeName : Option String)
    (form : Form) (shaped : innerForm reference allowed typeName = .ok form) :
    match form with
    | .reference name => ∃ pointer, reference = some pointer ∧ pointer = "#/definitions/" ++ name
    | .enum literals => reference = none ∧ allowed = some literals
    | .primitive kind => reference = none ∧ allowed = none ∧ ∃ word type, typeName = some word ∧
        SchemaType.ofKeyword? word = some type ∧ type.primitive? = some kind
    | .array => reference = none ∧ allowed = none ∧ ∃ word, typeName = some word ∧
        SchemaType.ofKeyword? word = some .array
    | .object => reference = none ∧ allowed = none ∧ ∃ word, typeName = some word ∧
        SchemaType.ofKeyword? word = some .object := by
  cases reference with
  | some pointer =>
      obtain ⟨name, named, same⟩ := map_passed _ _ _ shaped
      subst same
      have shape := reference_named pointer name named
      exact ⟨pointer, rfl, shape⟩
  | none =>
      cases allowed with
      | some literals =>
          cases shaped
          exact ⟨rfl, rfl⟩
      | none =>
          cases typeName with
          | none => contradiction
          | some word =>
              cases known : SchemaType.ofKeyword? word with
              | none => simp [innerForm, known] at shaped
              | some type =>
                  simp only [innerForm, known] at shaped
                  cases type with
                  | array => cases shaped; exact ⟨rfl, rfl, word, rfl, known⟩
                  | object => cases shaped; exact ⟨rfl, rfl, word, rfl, known⟩
                  | _ => cases shaped; exact ⟨rfl, rfl, word, _, rfl, known, rfl⟩

theorem compile_form (schema : Schema) (spec : Spec) (compiled : schema.compile = .ok spec) :
    InnerForm schema spec := by
  have object := schema.compile_object_form .inner spec
  rcases schema with ⟨typeName, reference, allowed, properties, required, additional, items⟩
  rw [compile] at compiled
  cases shaped : innerForm reference allowed typeName with
  | error defect =>
      unfold compileAt at compiled
      simp [formAt, shaped] at compiled
  | ok form =>
      have given := inner_form_given reference allowed typeName form shaped
      cases form with
      | reference name =>
          obtain ⟨pointer, link, named⟩ := given
          unfold compileAt at compiled
          simp only [formAt, shaped, Except.ok.injEq] at compiled
          exact compiled ▸ .reference pointer name link named
      | enum literals =>
          unfold compileAt at compiled
          simp only [formAt, shaped, Except.ok.injEq] at compiled
          exact compiled ▸ .enum literals given.1 given.2
      | primitive kind =>
          obtain ⟨unlinked, unlisted, word, type, typed, known, plain⟩ := given
          unfold compileAt at compiled
          simp only [formAt, shaped, Except.ok.injEq] at compiled
          exact compiled ▸ .primitive word type kind unlinked unlisted typed known plain
      | array =>
          obtain ⟨unlinked, unlisted, word, typed, known⟩ := given
          unfold compileAt at compiled
          simp only [formAt, shaped] at compiled
          cases items with
          | none => contradiction
          | some item =>
              obtain ⟨inner, within, same⟩ := map_passed _ _ _ compiled
              exact same ▸ .array word item inner unlinked unlisted typed known rfl within
      | object =>
          obtain ⟨unlinked, unlisted, word, typed, known⟩ := given
          have form := object shaped compiled
          exact .object word spec unlinked unlisted typed known form

end Schema

end ShapeCheck
