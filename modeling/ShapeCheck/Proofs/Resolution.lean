import ShapeCheck.Proofs.Findings
import ShapeCheck.Proofs.Slots

set_option autoImplicit false

namespace ShapeCheck

namespace Table

theorem dangling_none (table : Table) : table.dangling = [] ↔ ∀ name ∈ table.references, table.contains name = true := by
  rw [List.eq_nil_iff_forall_not_mem]
  refine forall_congr' fun name => ?_
  rw [mem_dangling, not_and, contains, Option.isSome_iff_ne_none]

def Resolves (table : Table) : Prop :=
  ∀ name spec, table.get? name = some spec → ∀ reference ∈ spec.references, table.contains reference = true

theorem resolves_of_dangling (table : Table) (closed : table.dangling = []) : table.Resolves := by
  intro name spec found reference listed
  apply table.dangling_none.mp closed
  have entry := table.get_entry name spec found
  exact List.mem_flatMap.mpr ⟨(name, spec), entry, listed⟩

end Table

theorem field_references (fields : List Field) (field : Field) (listed : field ∈ fields) (reference : String)
    (used : reference ∈ field.spec.references) : reference ∈ Spec.fieldReferences fields := by
  induction fields with
  | nil => simp at listed
  | cons first rest ih =>
      rcases first with ⟨name, spec, required⟩
      rw [Spec.fieldReferences, List.mem_append]
      rcases List.mem_cons.mp listed with same | later
      · exact .inl (by rwa [same] at used)
      · exact .inr (ih later)

theorem survey_field_passes {ν : Type} (table : Table) (data : Instance ν) (entered : List Nat)
    (entries : List (String × ν)) (field : Field)
    (passes : ∀ child, (survey table data entered (some (.key field.name)) field.spec child).failure = none) :
    (surveyField table data entered entries field).failure = none := by
  cases found : Entries.get? field.name entries with
  | none =>
      rw [survey_field_absent _ _ _ _ _ found]
      rfl
  | some child =>
      by_cases null : data.kind child = .null
      · rw [survey_field_null _ _ _ _ _ child found null]
        rfl
      · rw [survey_field_filled _ _ _ _ _ child found null, Survey.below, passes child, Option.map_none]

theorem survey_passes {ν : Type} (table : Table) (data : Instance ν) (resolves : table.Resolves) (entered : List Nat)
    (last : Option Segment) (spec : Spec) (value : ν)
    (known : ∀ reference ∈ spec.references, table.contains reference = true) :
    (survey table data entered last spec value).failure = none := by
  induction entered, last, spec, value using survey_induction table data with
  | primitive entered last kind value => rw [survey]; rfl
  | enum entered last allowed value => rw [survey]; rfl
  | array entered last item value ih =>
      by_cases sort : data.kind value = .array
      · obtain ⟨id, items, seen⟩ := data.view_array value sort
        rw [survey_array _ _ _ _ _ item id items seen]
        refine Survey.all_failure _ fun part listed => ?_
        obtain ⟨entry, _, same⟩ := List.mem_map.mp listed
        rw [← same, Survey.below, ih entry.2 entry.1 known, Option.map_none]
      · rw [survey_array_mismatch _ _ _ _ _ item sort]
        rfl
  | shape entered last fields exact value ih =>
      by_cases sort : data.kind value = .object
      · obtain ⟨id, entries, seen⟩ := data.view_object value sort
        have passed : ∀ field ∈ fields, (surveyField table data entered entries field).failure = none := by
          intro field declared
          apply survey_field_passes
          intro child
          apply ih field declared child
          intro reference used
          exact known reference (field_references fields field declared reference used)
        rw [survey_shape _ _ _ _ _ fields exact id entries seen, Survey.and_then_passed]
        · cases exact <;> rfl
        · refine Survey.all_failure _ fun part listed => ?_
          obtain ⟨field, declared, same⟩ := List.mem_map.mp listed
          exact same ▸ passed field declared
      · rw [survey_shape_mismatch _ _ _ _ _ fields exact sort]
        rfl
  | map entered last values value ih =>
      by_cases sort : data.kind value = .object
      · obtain ⟨id, entries, seen⟩ := data.view_object value sort
        rw [survey_map _ _ _ _ _ values id entries seen]
        refine Survey.all_failure _ fun part listed => ?_
        obtain ⟨entry, _, same⟩ := List.mem_map.mp listed
        rw [← same, Survey.below, ih entry.1 entry.2 known, Option.map_none]
      · rw [survey_map_mismatch _ _ _ _ _ values sort]
        rfl
  | reference entered last name value ih =>
      have present := known name List.mem_cons_self
      rw [Table.contains, Option.isSome_iff_exists] at present
      obtain ⟨target, found⟩ := present
      rcases data.view_cases value with ⟨content, seen⟩ | ⟨id, seen⟩
      · by_cases null : content = .null
        · rw [survey_reference_null table data _ _ name target value found (null ▸ seen)]
          rfl
        · rw [survey_reference_scalar table data _ _ name target value content found seen null]
          rfl
      · by_cases again : id ∈ entered
        · rw [survey_reference_again table data _ _ name target value id found seen again]
          rfl
        · rw [survey_reference_fresh table data _ _ name target value id found seen again]
          exact ih target id found seen again (resolves name target found)

end ShapeCheck
