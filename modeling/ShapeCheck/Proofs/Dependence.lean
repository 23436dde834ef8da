import Mathlib.Data.Set.Insert
import Mathlib.Logic.Relation
import ShapeCheck.Proofs.Acceptance
import ShapeCheck.Proofs.Slots

set_option autoImplicit false

namespace ShapeCheck

variable {ν : Type}

def Spec.Within (names : Set String) (spec : Spec) : Prop := ∀ reference ∈ spec.references, reference ∈ names

theorem within_exactly (names : Set String) (spec : Spec) (within : spec.Within names) : spec.exactly.Within names := by
  cases spec <;> exact within

theorem within_field (names : Set String) (fields : List Field) (exact : Bool) (field : Field) (declared : field ∈ fields)
    (within : (Spec.shape fields exact).Within names) : field.spec.Within names := by
  intro reference used
  exact within reference (field_references fields field declared reference used)

namespace Table

def ClosedOn (table : Table) (names : Set String) : Prop :=
  ∀ name ∈ names, ∀ spec, table.get? name = some spec → spec.Within names

def AgreesOn (first second : Table) (names : Set String) : Prop := ∀ name ∈ names, first.get? name = second.get? name

theorem entry_within (table : Table) (name : String) (spec : Spec) (found : table.get? name = some spec) :
    spec.Within {reference | reference ∈ table.references} := by
  intro reference used
  have entry := table.get_entry name spec found
  exact List.mem_flatMap.mpr ⟨(name, spec), entry, used⟩

theorem closed_references (table : Table) : table.ClosedOn {reference | reference ∈ table.references} :=
  fun name _ spec found => table.entry_within name spec found

end Table

section

variable (first second : Table) (data : Instance ν) (entered others : List Nat) (last : Option Segment)

theorem survey_field_same (entries : List (String × ν)) (field : Field)
    (each : ∀ child, Entries.get? field.name entries = some child → data.kind child ≠ .null →
      survey first data entered (some (.key field.name)) field.spec child =
        survey second data others (some (.key field.name)) field.spec child) :
    surveyField first data entered entries field = surveyField second data others entries field := by
  rw [surveyField, surveyField]
  cases found : Entries.get? field.name entries with
  | none => rfl
  | some child =>
      by_cases null : data.kind child = .null
      · simp only [if_pos null]
      · simp only [if_neg null, each child found null]

theorem survey_parts_same (spec : Spec) (value : ν)
    (parts : ∀ segment part child, Part data segment spec value part child →
      survey first data entered (some segment) part child = survey second data others (some segment) part child)
    (direct : ∀ name, spec ≠ .reference name) :
    survey first data entered last spec value = survey second data others last spec value := by
  cases spec with
  | primitive kind => rw [survey, survey]
  | enum allowed => rw [survey, survey]
  | array item =>
      by_cases sort : data.kind value = .array
      · obtain ⟨id, items, seen⟩ := data.view_array value sort
        rw [survey_array _ _ _ _ _ item id items seen, survey_array _ _ _ _ _ item id items seen]
        refine congrArg Survey.all (List.map_congr_left fun entry listed => ?_)
        have placed := List.mem_zipIdx_iff_getElem?.mp listed
        rw [parts _ item entry.1 (.item item value id items entry.2 entry.1 seen placed)]
      · rw [survey_array_mismatch _ _ _ _ _ item sort, survey_array_mismatch _ _ _ _ _ item sort]
  | shape fields exact =>
      by_cases sort : data.kind value = .object
      · obtain ⟨id, entries, seen⟩ := data.view_object value sort
        have each : fields.map (surveyField first data entered entries) =
            fields.map (surveyField second data others entries) := by
          refine List.map_congr_left fun field declared => survey_field_same first second data entered others entries field ?_
          intro child found filled
          exact parts _ _ child (.field fields exact value id entries field child seen declared found filled)
        rw [survey_shape _ _ _ _ _ fields exact id entries seen, survey_shape _ _ _ _ _ fields exact id entries seen, each]
      · rw [survey_shape_mismatch _ _ _ _ _ fields exact sort, survey_shape_mismatch _ _ _ _ _ fields exact sort]
  | map values =>
      by_cases sort : data.kind value = .object
      · obtain ⟨id, entries, seen⟩ := data.view_object value sort
        rw [survey_map _ _ _ _ _ values id entries seen, survey_map _ _ _ _ _ values id entries seen]
        refine congrArg Survey.all (List.map_congr_left fun entry listed => ?_)
        rw [parts _ values entry.2 (.entry values value id entries entry.1 entry.2 seen listed)]
      · rw [survey_map_mismatch _ _ _ _ _ values sort, survey_map_mismatch _ _ _ _ _ values sort]
  | reference name => exact absurd rfl (direct name)

theorem survey_reference_same (marks : ∀ id, id ∈ others ↔ id ∈ entered) (name : String) (value : ν)
    (same : first.get? name = second.get? name)
    (inner : ∀ target id, first.get? name = some target → (data.view value).identity? = some id → id ∉ entered →
      survey first data (id :: entered) last target value = survey second data (id :: others) last target value) :
    survey first data entered last (.reference name) value = survey second data others last (.reference name) value := by
  cases found : first.get? name with
  | none =>
      have absent := same.symm.trans found
      rw [survey_reference_unknown first data _ _ name value found, survey_reference_unknown second data _ _ name value absent]
  | some target =>
      have foundToo := same.symm.trans found
      rcases data.view_cases value with ⟨content, seen⟩ | ⟨id, seen⟩
      · by_cases null : content = .null
        · subst null
          rw [survey_reference_null first data _ _ name target value found seen,
            survey_reference_null second data _ _ name target value foundToo seen]
        · rw [survey_reference_scalar first data _ _ name target value content found seen null,
            survey_reference_scalar second data _ _ name target value content foundToo seen null]
      · by_cases again : id ∈ entered
        · rw [survey_reference_again first data _ _ name target value id found seen again,
            survey_reference_again second data _ _ name target value id foundToo seen ((marks id).mpr again)]
        · have fresh : id ∉ others := fun known => again ((marks id).mp known)
          rw [survey_reference_fresh first data _ _ name target value id found seen again,
            survey_reference_fresh second data _ _ name target value id foundToo seen fresh, inner target id found seen again]

end

section

variable (first second : Table) (data : Instance ν) (names : Set String) (entered : List Nat)
variable (closed : first.ClosedOn names) (agree : first.AgreesOn second names)
include closed agree

-- The descent looks up no name but those it starts with and those their entries refer to.
theorem survey_same (last : Option Segment) (spec : Spec) (value : ν) (within : spec.Within names) :
    survey first data entered last spec value = survey second data entered last spec value := by
  induction entered, last, spec, value using survey_induction first data with
  | primitive entered last kind value => rw [survey, survey]
  | enum entered last allowed value => rw [survey, survey]
  | array entered last item value ih =>
      refine survey_parts_same first second data entered entered last _ value ?_ (fun _ => Spec.noConfusion)
      intro segment part child asks
      cases asks with
      | item => exact ih _ child within
  | shape entered last fields exact value ih =>
      refine survey_parts_same first second data entered entered last _ value ?_ (fun _ => Spec.noConfusion)
      intro segment part child asks
      cases asks with
      | field _ _ _ _ _ field _ _ declared => exact ih field declared child (within_field names fields exact field declared within)
  | map entered last values value ih =>
      refine survey_parts_same first second data entered entered last _ value ?_ (fun _ => Spec.noConfusion)
      intro segment part child asks
      cases asks with
      | entry => exact ih _ child within
  | reference entered last name value ih =>
      have named : name ∈ names := within name List.mem_cons_self
      apply survey_reference_same first second data entered entered last (fun _ => Iff.rfl) name value (agree name named)
      intro target id found seen fresh
      exact ih target id found seen fresh (closed name named target found)

theorem check_same (spec : Spec) (value : ν) (within : spec.Within names) :
    first.check data spec value = second.check data spec value := by
  rw [Table.check_survey, Table.check_survey, survey_same first second data names _ closed agree none spec value within]

theorem check_entry_same (name : String) (value : ν) (named : name ∈ names) :
    first.checkEntry data name value = second.checkEntry data name value := by
  have same := agree name named
  cases entry : first.get? name with
  | none => rw [first.check_entry_unknown data name value entry, second.check_entry_unknown data name value (same ▸ entry)]
  | some spec =>
      rw [first.check_entry_survey data name spec value entry,
        second.check_entry_survey data name spec value (same ▸ entry)]
      exact check_same first second data names closed agree spec value (closed name named spec entry)

theorem check_entry_exactly_same (name : String) (value : ν) (named : name ∈ names) :
    first.checkEntryExactly data name value = second.checkEntryExactly data name value := by
  have same := agree name named
  cases entry : first.get? name with
  | none =>
      rw [first.check_entry_exactly_unknown data name value entry,
        second.check_entry_exactly_unknown data name value (same ▸ entry)]
  | some spec =>
      have within := within_exactly names spec (closed name named spec entry)
      rw [first.check_entry_exactly_answer data name spec value entry,
        second.check_entry_exactly_answer data name spec value (same ▸ entry), Visit.answer, Visit.answer, Visit.asProperty]
      rw [Table.inspect_below_start, Table.inspect_below_start,
        survey_same first second data names _ closed agree _ spec.exactly value within]

end

namespace Table

def RefersTo (table : Table) (name reference : String) : Prop :=
  ∃ spec, table.get? name = some spec ∧ reference ∈ spec.references

def Leads (table : Table) (spec : Spec) (name : String) : Prop :=
  ∃ first ∈ spec.references, Relation.ReflTransGen table.RefersTo first name

theorem leads_within (table : Table) (spec : Spec) : spec.Within {name | table.Leads spec name} :=
  fun reference used => ⟨reference, used, .refl⟩

theorem leads_closed (table : Table) (spec : Spec) : table.ClosedOn {name | table.Leads spec name} := by
  intro name ⟨first, used, way⟩ entry found reference further
  exact ⟨first, used, way.tail ⟨entry, found, further⟩⟩

theorem leads_inside (table : Table) (spec : Spec) (names : Set String) (within : spec.Within names)
    (closed : table.ClosedOn names) (name : String) (leads : table.Leads spec name) : name ∈ names := by
  obtain ⟨first, used, way⟩ := leads
  induction way with
  | refl => exact within first used
  | tail _ refers ih =>
      obtain ⟨entry, found, further⟩ := refers
      exact closed _ ih entry found _ further

theorem leads_unchanged (table : Table) (spec : Spec) (name : String) (other : Spec) (apart : ¬ table.Leads spec name) :
    table.AgreesOn (table.insert name other).1 {reached | table.Leads spec reached} := by
  intro reached leads
  have different : reached ≠ name := fun same => apart (same ▸ leads)
  rw [get_insert, if_neg different]

end Table

theorem check_by_reached_entries (first : Table) (spec : Spec) :
    (∀ (second : Table) (names : Set String), spec.Within names → first.ClosedOn names → first.AgreesOn second names →
      ∀ (ν : Type) (data : Instance ν) (value : ν), first.check data spec value = second.check data spec value) ∧
    (∀ second : Table, (∀ name, first.Leads spec name → first.get? name = second.get? name) →
      ∀ (ν : Type) (data : Instance ν) (value : ν), first.check data spec value = second.check data spec value) ∧
    ∀ (name : String) (other : Spec), ¬ first.Leads spec name →
      ∀ (ν : Type) (data : Instance ν) (value : ν),
        (first.insert name other).1.check data spec value = first.check data spec value := by
  have within := first.leads_within spec
  have closed := first.leads_closed spec
  refine ⟨fun second names within closed agree ν data value => ?_, fun second agree ν data value => ?_,
    fun name other apart ν data value => ?_⟩
  · exact check_same first second data names closed agree spec value within
  · exact check_same first second data _ closed agree spec value within
  · have agree := first.leads_unchanged spec name other apart
    exact (check_same first _ data _ closed agree spec value within).symm

def Table.chainBesideUnknown : Table := (Table.chain.insert "other" (.reference "nowhere")).1

theorem chain_beside_unknown :
    (Spec.reference "node").Within {"node"} ∧ Table.chain.ClosedOn {"node"} ∧
      Table.chain.AgreesOn Table.chainBesideUnknown {"node"} ∧ ¬ Table.chain.Leads (.reference "node") "other" ∧
      Table.chainBesideUnknown.dangling = ["nowhere"] ∧
      Table.chainBesideUnknown.check Heap.ring.data (.reference "node") (.container 0) = .ok ringViolations ∧
      (Table.chain.insert "other" (.primitive .string)).1.check Heap.ring.data (.reference "node") (.container 0) =
        .ok ringViolations := by
  have within : (Spec.reference "node").Within {"node"} := fun _ used => List.mem_singleton.mp used
  have closed : Table.chain.ClosedOn {"node"} := by
    intro name named spec found reference used
    rw [Set.mem_singleton_iff.mp named] at found
    cases found
    exact List.mem_singleton.mp used
  have agree : Table.chain.AgreesOn Table.chainBesideUnknown {"node"} := by
    intro name named
    rw [Set.mem_singleton_iff.mp named]
    rfl
  have apart : ¬ Table.chain.Leads (.reference "node") "other" := by
    intro leads
    have inside := Table.chain.leads_inside _ _ within closed "other" leads
    exact absurd (Set.mem_singleton_iff.mp inside) (by decide)
  obtain ⟨same, _, inserted⟩ := check_by_reached_entries Table.chain (.reference "node")
  have beside := same Table.chainBesideUnknown {"node"} within closed agree Datum Heap.ring.data (.container 0)
  have unchanged := inserted "other" (.primitive .string) apart Datum Heap.ring.data (.container 0)
  exact ⟨within, closed, agree, apart, by decide, beside.symm.trans ring_checked, unchanged.trans ring_checked⟩

end ShapeCheck
