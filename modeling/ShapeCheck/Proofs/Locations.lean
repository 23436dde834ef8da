import Mathlib.Data.List.Sigma
import ShapeCheck.Proofs.Origins
import ShapeCheck.Proofs.Reports
import ShapeCheck.Proofs.Unresolved

set_option autoImplicit false

namespace ShapeCheck

namespace Survey

def places (survey : Survey) : List Path := survey.found.map Violation.path

theorem places_below (segment : Segment) (part : Survey) :
    (part.below segment).places = part.places.map (List.cons segment) := by
  simp only [places, below, List.map_map]
  rfl

theorem places_through (description : String) (part : Survey) : (part.through description).places = part.places := by
  simp only [places, through, List.map_map]
  rfl

theorem places_and_then (first second : Survey) :
    List.Sublist (first.andThen second).places (first.places ++ second.places) := by
  cases failed : first.failure with
  | some failure =>
      rw [and_then_failed first second failure failed]
      exact List.sublist_append_left _ _
  | none =>
      rw [and_then_passed first second failed, places, List.map_append]
      exact List.Sublist.refl _

structure Spread (steps : List Segment) (survey : Survey) : Prop where
  once : survey.places.Nodup
  inside : ∀ path ∈ survey.places, ∃ step ∈ steps, ∃ rest, path = step :: rest

theorem spread_nothing (steps : List Segment) : nothing.Spread steps := ⟨List.nodup_nil, nofun⟩

theorem spread_below (segment : Segment) (part : Survey) (once : part.places.Nodup) :
    (part.below segment).Spread [segment] where
  once := by
    rw [places_below]
    exact once.map List.cons_injective
  inside path listed := by
    rw [places_below] at listed
    obtain ⟨rest, _, same⟩ := List.mem_map.mp listed
    exact ⟨segment, List.mem_singleton_self segment, rest, same.symm⟩

theorem spread_and_then (left right : List Segment) (first second : Survey) (apart : left.Disjoint right)
    (before : first.Spread left) (after : second.Spread right) : (first.andThen second).Spread (left ++ right) := by
  have part := places_and_then first second
  refine ⟨part.nodup (before.once.append after.once fun path here there => ?_), fun path listed => ?_⟩
  · obtain ⟨step, inLeft, rest, same⟩ := before.inside path here
    obtain ⟨other, inRight, tail, again⟩ := after.inside path there
    rw [same, List.cons.injEq] at again
    exact apart inLeft (again.1 ▸ inRight)
  · rcases List.mem_append.mp (part.subset listed) with here | there
    · obtain ⟨step, inLeft, found⟩ := before.inside path here
      exact ⟨step, List.mem_append_left right inLeft, found⟩
    · obtain ⟨step, inRight, found⟩ := after.inside path there
      exact ⟨step, List.mem_append_right left inRight, found⟩

theorem spread_all {α : Type} (items : List α) (step : α → Segment) (part : α → Survey)
    (distinct : (items.map step).Nodup) (each : ∀ item ∈ items, (part item).Spread [step item]) :
    (all (items.map part)).Spread (items.map step) := by
  induction items with
  | nil => exact spread_nothing []
  | cons item rest ih =>
      rw [List.map_cons, List.nodup_cons] at distinct
      rw [List.forall_mem_cons] at each
      have apart : List.Disjoint [step item] (rest.map step) := List.singleton_disjoint.mpr distinct.1
      exact spread_and_then _ _ _ _ apart each.1 (ih distinct.2 each.2)

theorem single_once (kind : ViolationKind) (message : String) : (single kind message).places.Nodup :=
  List.nodup_singleton []

theorem unless_once (accepted : Prop) [Decidable accepted] (kind : ViolationKind) (message : String) :
    (if accepted then nothing else single kind message).places.Nodup := by
  split
  · exact List.nodup_nil
  · exact single_once kind message

theorem required_spread (required : Prop) [Decidable required] (step : Segment) (kind : ViolationKind) (message : String) :
    (if required then (single kind message).below step else nothing).Spread [step] := by
  split
  · exact spread_below step _ (single_once kind message)
  · exact spread_nothing [step]

theorem key_injective : Function.Injective Segment.key := fun _ _ same => Segment.key.inj same

theorem undeclared_spread (fields : List Field) (keys : List String) (distinct : keys.Nodup) :
    (leaf (·.reportUndeclared fields keys)).Spread ((undeclared fields keys).map .key) := by
  have same : (leaf (·.reportUndeclared fields keys)).places = (undeclared fields keys).map fun key => [.key key] := by
    rw [leaf_undeclared, places, List.map_map]
    rfl
  constructor
  · rw [same]
    apply List.Nodup.map _ (distinct.filter _)
    exact fun one other equal => key_injective (List.singleton_injective equal)
  · intro path listed
    rw [same] at listed
    obtain ⟨key, free, rfl⟩ := List.mem_map.mp listed
    exact ⟨.key key, List.mem_map_of_mem free, [], rfl⟩

theorem undeclared_apart (fields : List Field) (keys : List String) :
    (fields.map fun field => Segment.key field.name).Disjoint ((undeclared fields keys).map .key) := by
  intro step declared free
  obtain ⟨field, listed, rfl⟩ := List.mem_map.mp declared
  obtain ⟨key, kept, same⟩ := List.mem_map.mp free
  have unknown : ∀ other ∈ fields, other.name ≠ key := by simpa [undeclared] using (List.mem_filter.mp kept).2
  exact unknown field listed (key_injective same).symm

end Survey

section

variable {ν : Type} (table : Table) (data : Instance ν) (entered : List Nat) (last : Option Segment)

theorem array_once (item : Spec) (value : ν)
    (each : ∀ position child, data.Holds value child →
      (survey table data entered (some (.index position)) item child).places.Nodup) :
    (survey table data entered last (.array item) value).places.Nodup := by
  by_cases sort : data.kind value = .array
  · obtain ⟨id, items, seen⟩ := data.view_array value sort
    have steps : (items.zipIdx.map fun entry => Segment.index entry.2).Nodup := by
      have positions := (List.nodup_zipIdx_map_snd items).map fun _ _ same => Segment.index.inj same
      rwa [List.map_map] at positions
    rw [survey_array _ _ _ _ _ item id items seen]
    refine (Survey.spread_all _ _ _ steps fun entry listed => ?_).once
    have held := data.holds_item value id items entry.1 seen (List.fst_mem_of_mem_zipIdx listed)
    exact Survey.spread_below _ _ (each entry.2 entry.1 held)
  · rw [survey_array_mismatch _ _ _ _ _ item sort]
    exact Survey.single_once _ _

theorem map_once (values : Spec) (value : ν) (keys : (data.view value).keys.Nodup)
    (each : ∀ key child, data.Holds value child →
      (survey table data entered (some (.key key)) values child).places.Nodup) :
    (survey table data entered last (.map values) value).places.Nodup := by
  by_cases sort : data.kind value = .object
  · obtain ⟨id, entries, seen⟩ := data.view_object value sort
    have steps : (entries.map fun entry => Segment.key entry.1).Nodup := by
      rw [seen] at keys
      have named := keys.map Survey.key_injective
      rwa [Layer.keys, Layer.entries, Entries.keys, List.map_map] at named
    rw [survey_map _ _ _ _ _ values id entries seen]
    refine (Survey.spread_all _ _ _ steps fun entry listed => ?_).once
    have held := data.holds_entry value id entries entry seen listed
    exact Survey.spread_below _ _ (each entry.1 entry.2 held)
  · rw [survey_map_mismatch _ _ _ _ _ values sort]
    exact Survey.single_once _ _

theorem field_spread (entries : List (String × ν)) (field : Field)
    (each : ∀ child, (field.name, child) ∈ entries →
      (survey table data entered (some (.key field.name)) field.spec child).places.Nodup) :
    (surveyField table data entered entries field).Spread [.key field.name] := by
  cases found : Entries.get? field.name entries with
  | none =>
      rw [survey_field_absent _ _ _ _ field found, Survey.leaf_missing]
      exact Survey.required_spread _ _ _ _
  | some child =>
      by_cases null : data.kind child = .null
      · rw [survey_field_null _ _ _ _ field child found null, Survey.leaf_null]
        exact Survey.required_spread _ _ _ _
      · rw [survey_field_filled _ _ _ _ field child found null]
        exact Survey.spread_below _ _ (each child (Entries.get_mem _ _ _ found))

theorem shape_once (fields : List Field) (exact : Bool) (value : ν) (distinct : (fields.map Field.name).Nodup)
    (keys : (data.view value).keys.Nodup)
    (each : ∀ field ∈ fields, ∀ child, data.Holds value child →
      (survey table data entered (some (.key field.name)) field.spec child).places.Nodup) :
    (survey table data entered last (.shape fields exact) value).places.Nodup := by
  by_cases sort : data.kind value = .object
  · obtain ⟨id, entries, seen⟩ := data.view_object value sort
    have steps : (fields.map fun field => Segment.key field.name).Nodup := by
      have named := distinct.map Survey.key_injective
      rwa [List.map_map] at named
    have declared : (Survey.all (fields.map (surveyField table data entered entries))).Spread
        (fields.map fun field => .key field.name) := by
      refine Survey.spread_all fields _ _ steps fun field listed => ?_
      apply field_spread
      intro child here
      exact each field listed child (data.holds_entry value id entries _ seen here)
    rw [survey_shape _ _ _ _ _ fields exact id entries seen]
    rw [seen] at keys
    cases exact with
    | true =>
        have free := Survey.undeclared_spread fields (Entries.keys entries) keys
        exact (Survey.spread_and_then _ _ _ _ (Survey.undeclared_apart fields _) declared free).once
    | false =>
        have none := Survey.spread_nothing []
        exact (Survey.spread_and_then _ _ _ _ (List.disjoint_nil_right _) declared none).once
  · rw [survey_shape_mismatch _ _ _ _ _ fields exact sort]
    exact Survey.single_once _ _

theorem reference_once (name : String) (value : ν)
    (inner : ∀ target id, table.get? name = some target → (data.view value).identity? = some id → id ∉ entered →
      (survey table data (id :: entered) last target value).places.Nodup) :
    (survey table data entered last (.reference name) value).places.Nodup := by
  cases found : table.get? name with
  | none =>
      rw [survey_reference_unknown _ _ _ _ name value found]
      exact List.nodup_nil
  | some target =>
      rcases data.view_cases value with ⟨content, seen⟩ | ⟨id, seen⟩
      · by_cases null : content = .null
        · rw [survey_reference_null _ _ _ _ name target value found (null ▸ seen)]
          exact List.nodup_nil
        · rw [survey_reference_scalar _ _ _ _ name target value content found seen null]
          exact Survey.single_once _ _
      · by_cases known : id ∈ entered
        · rw [survey_reference_again _ _ _ _ name target value id found seen known]
          exact List.nodup_nil
        · rw [survey_reference_fresh _ _ _ _ name target value id found seen known, Survey.places_through]
          exact inner target id found seen known

end

theorem survey_once {ν : Type} (table : Table) (data : Instance ν) (distinct : table.FieldsDistinct) (entered : List Nat)
    (last : Option Segment) (spec : Spec) (value : ν) (fields : spec.DistinctFields) (keys : data.DistinctKeys value) :
    (survey table data entered last spec value).places.Nodup := by
  induction entered, last, spec, value using survey_induction table data with
  | primitive entered last kind value =>
      rw [survey, Survey.leaf_primitive]
      exact Survey.unless_once _ _ _
  | enum entered last allowed value =>
      rw [survey, Survey.leaf_enum]
      exact Survey.unless_once _ _ _
  | array entered last item value ih =>
      apply array_once
      intro position child held
      exact ih position child fields (data.distinct_child value child keys held)
  | shape entered last declared exact value ih =>
      apply shape_once table data entered last declared exact value fields.1 (keys value .refl)
      intro field listed child held
      have part := Spec.distinct_field declared fields.2 field listed
      exact ih field listed child part (data.distinct_child value child keys held)
  | map entered last values value ih =>
      apply map_once table data entered last values value (keys value .refl)
      intro key child held
      exact ih key child fields (data.distinct_child value child keys held)
  | reference entered last name value ih =>
      apply reference_once
      intro target id found seen fresh
      exact ih target id found seen fresh (distinct _ (table.get_entry name target found)) keys

structure Table.ReportsOnce {ν : Type} (table : Table) (data : Instance ν) (value : ν) : Prop where
  check : ∀ spec found, spec.DistinctFields → table.check data spec value = .ok found →
    (found.map Violation.path).Nodup
  checkEntry : ∀ name found, table.checkEntry data name value = .ok found → (found.map Violation.path).Nodup
  checkFields : ∀ name fields found, (Spec.shape fields true).DistinctFields →
    table.checkFields data name fields value = .ok found → (found.map Violation.path).Nodup
  checkEntryExactly : ∀ name found, table.checkEntryExactly data name value = .ok found →
    (found.map Violation.path).Nodup

theorem distinct_exactly (spec : Spec) (fields : spec.DistinctFields) : spec.exactly.DistinctFields := by
  cases spec <;> exact fields

theorem violations_once (survey : Survey) (once : survey.places.Nodup) (found : List Violation)
    (ran : survey.violations = .ok found) : (found.map Violation.path).Nodup := by
  have whole := (survey.violations_passed found).mp ran
  rwa [whole] at once

section

variable {ν : Type} (table : Table) (data : Instance ν) (value : ν) (distinct : table.FieldsDistinct)
  (keys : data.DistinctKeys value)
include distinct keys

theorem check_once (spec : Spec) (fields : spec.DistinctFields) (found : List Violation)
    (ran : table.check data spec value = .ok found) : (found.map Violation.path).Nodup := by
  rw [table.check_survey] at ran
  exact violations_once _ (survey_once table data distinct _ _ spec value fields keys) found ran

theorem property_once (name : String) (spec : Spec) (fields : spec.DistinctFields) (found : List Violation)
    (ran : ((survey table data (data.ownIdentity value) (some (.key name)) spec value).below (.key name)).violations =
      .ok found) : (found.map Violation.path).Nodup := by
  have once := survey_once table data distinct (data.ownIdentity value) (some (.key name)) spec value fields keys
  exact violations_once _ (Survey.spread_below (.key name) _ once).once found ran

theorem reports_once : table.ReportsOnce data value where
  check spec found fields ran := check_once table data value distinct keys spec fields found ran
  checkEntry name found ran := by
    cases entry : table.get? name with
    | none =>
        rw [table.check_entry_unknown data name value entry] at ran
        contradiction
    | some spec =>
        rw [table.check_entry_survey data name spec value entry] at ran
        exact check_once table data value distinct keys spec (distinct _ (table.get_entry name spec entry)) found ran
  checkFields name fields found apart ran := by
    rw [table.check_fields_survey] at ran
    exact property_once table data value distinct keys name (.shape fields true) apart found ran
  checkEntryExactly name found ran := by
    cases entry : table.get? name with
    | none =>
        rw [table.check_entry_exactly_unknown data name value entry] at ran
        contradiction
    | some spec =>
        have fields := distinct_exactly spec (distinct _ (table.get_entry name spec entry))
        rw [table.check_entry_exactly_survey data name spec value entry] at ran
        exact property_once table data value distinct keys name spec.exactly fields found ran

end

theorem distinct_of_parts (spec : Spec)
    (each : ∀ route fields exact, spec.PartAt route (.shape fields exact) → (fields.map Field.name).Nodup) :
    spec.DistinctFields := by
  induction spec using spec_induction with
  | primitive kind => trivial
  | enum allowed => trivial
  | array item ih => exact ih fun route fields exact inner => each _ fields exact (.item item _ route inner)
  | shape declared exact ih =>
      refine ⟨each [] declared exact (.whole _), Spec.distinct_within declared fun field listed => ?_⟩
      apply ih field listed
      intro route fields inner part
      exact each _ fields inner (.field declared exact field _ route listed part)
  | map values ih => exact ih fun route fields exact inner => each _ fields exact (.values values _ route inner)
  | reference name => trivial

theorem compiled_distinct (document : Json) (definitions : Definitions) (table : Table) (distinct : document.DistinctKeys)
    (read : Definitions.ofJson document = .ok definitions) (compiled : definitions.compile = .ok table) :
    table.FieldsDistinct := by
  intro ⟨name, spec⟩ entry
  obtain ⟨source, schema, _, sourceDistinct, sourceRead, sourceCompiled⟩ :=
    definitions.entry_compiled document table distinct read compiled name spec entry
  apply distinct_of_parts
  intro route fields exact here
  obtain ⟨node, _, inner⟩ :=
    Schema.part_compiled spec _ route here .definition source schema sourceDistinct sourceRead sourceCompiled
  exact inner.mirrors.distinct

-- Over values with distinct keys, shared and cyclic ones included, a table of shapes with distinct
-- fields reports each place at most once. Tables compiled from documents are of this kind.
theorem places_reported_once (table : Table) :
    (table.FieldsDistinct → ∀ (ν : Type) (data : Instance ν) (value : ν), data.DistinctKeys value →
      table.ReportsOnce data value) ∧
    (table.FieldsDistinct → ∀ tree : Json, tree.DistinctKeys →
      table.ReportsOnce (Tree.data tree.size) (Tree.root tree)) ∧
    ∀ document definitions, document.DistinctKeys → Definitions.ofJson document = .ok definitions →
      definitions.compile = .ok table → table.FieldsDistinct := by
  refine ⟨fun distinct ν data value keys => reports_once table data value distinct keys, fun distinct tree keys => ?_,
    fun document definitions keys read compiled => compiled_distinct document definitions table keys read compiled⟩
  have root := Instance.distinct_unfolds _ _ tree (Tree.root_unfolds tree) keys
  exact reports_once table _ _ distinct root

theorem chain_fields_distinct : Table.chain.FieldsDistinct := by
  intro entry listed
  obtain rfl := List.mem_singleton.mp listed
  exact ⟨by decide, trivial, trivial, trivial⟩

theorem ring_distinct : Heap.ring.data.DistinctKeys (.container 0) := by
  apply Heap.distinct_of_cells
  intro entries listed
  rcases List.mem_pair.mp listed with same | same
  · rw [Cell.object.inj same]
    decide
  · rw [Cell.object.inj same]
    decide

theorem broken_chain_distinct : Table.brokenChain.DistinctKeys :=
  ⟨by decide, trivial, ⟨by decide, trivial, trivial, trivial⟩, trivial⟩

theorem ring_reported_once :
    Table.chain.FieldsDistinct ∧ Heap.ring.data.DistinctKeys (.container 0) ∧
      Table.chain.check Heap.ring.data (.reference "node") (.container 0) = .ok ringViolations ∧
      (ringViolations.map Violation.path).Nodup ∧
      Table.brokenChain.DistinctKeys ∧
      Table.chain.ReportsOnce (Tree.data Table.brokenChain.size) (Tree.root Table.brokenChain) ∧
      parcelDocument.DistinctKeys ∧ Definitions.ofJson parcelDocument = .ok parcelDefinitions ∧
      parcelDefinitions.compile = .ok .parcels ∧ Table.parcels.FieldsDistinct := by
  obtain ⟨graphs, trees, _⟩ := places_reported_once Table.chain
  obtain ⟨_, _, compiled⟩ := places_reported_once Table.parcels
  have ring := graphs chain_fields_distinct Datum Heap.ring.data (.container 0) ring_distinct
  refine ⟨chain_fields_distinct, ring_distinct, ring_checked, ?_, broken_chain_distinct, ?_, parcel_distinct, parcel_read,
    parcel_compiled, ?_⟩
  · exact ring.check (.reference "node") ringViolations trivial ring_checked
  · exact trees chain_fields_distinct Table.brokenChain broken_chain_distinct
  · exact compiled parcelDocument parcelDefinitions parcel_distinct parcel_read parcel_compiled

end ShapeCheck
