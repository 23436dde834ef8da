import Mathlib.Data.List.Permutation
import ShapeCheck.Instance.Heap
import ShapeCheck.Proofs.Faults
import ShapeCheck.Proofs.Visits

set_option autoImplicit false

namespace ShapeCheck

namespace Survey

def Includes (whole part : Survey) : Prop := whole.failure = none → part.failure = none ∧ part.found ⊆ whole.found

theorem includes_refl (part : Survey) : part.Includes part := fun passed => ⟨passed, List.Subset.refl _⟩

theorem includes_trans (whole middle part : Survey) (outer : whole.Includes middle) (inner : middle.Includes part) :
    whole.Includes part := by
  intro passed
  obtain ⟨middlePassed, upper⟩ := outer passed
  obtain ⟨partPassed, lower⟩ := inner middlePassed
  exact ⟨partPassed, List.Subset.trans lower upper⟩

theorem includes_first (first second : Survey) : (first.andThen second).Includes first := by
  intro passed
  cases failed : first.failure with
  | some failure =>
      rw [and_then_failed first second failure failed, failed] at passed
      contradiction
  | none =>
      rw [and_then_passed first second failed]
      exact ⟨rfl, List.subset_append_left _ _⟩

theorem includes_second (first second : Survey) : (first.andThen second).Includes second := by
  intro passed
  have before := (includes_first first second passed).1
  rw [and_then_passed first second before] at passed ⊢
  exact ⟨passed, List.subset_append_right _ _⟩

theorem includes_all (parts : List Survey) (part : Survey) (listed : part ∈ parts) : (all parts).Includes part := by
  induction parts with
  | nil => simp at listed
  | cons first rest ih =>
      rw [all_cons]
      rcases List.mem_cons.mp listed with same | later
      · exact same ▸ includes_first first (all rest)
      · exact includes_trans _ _ _ (includes_second first (all rest)) (ih later)

end Survey

section

variable {ν : Type} (table : Table) (data : Instance ν)

theorem part_included (entered : List Nat) (last : Option Segment) (segment : Segment) (whole part : Spec)
    (value child : ν) (asks : Part data segment whole value part child) :
    (survey table data entered last whole value).Includes
      ((survey table data entered (some segment) part child).below segment) := by
  cases asks with
  | item _ _ id items position _ seen placed =>
      have indexed : (child, position) ∈ items.zipIdx := List.mk_mem_zipIdx_iff_getElem?.mpr placed
      rw [survey_array _ _ _ _ _ part id items seen]
      exact Survey.includes_all _ _ (List.mem_map_of_mem indexed)
  | entry _ _ id entries key _ seen listed =>
      rw [survey_map _ _ _ _ _ part id entries seen]
      exact Survey.includes_all _ _ (List.mem_map_of_mem listed)
  | field fields exact _ id entries field _ seen declared found filled =>
      have same := survey_field_filled table data entered entries field child found filled
      rw [survey_shape _ _ _ _ _ fields exact id entries seen, ← same]
      apply Survey.includes_trans _ _ _ (Survey.includes_first _ _)
      exact Survey.includes_all _ _ (List.mem_map_of_mem declared)

theorem field_included (entered : List Nat) (last : Option Segment) (fields : List Field) (exact : Bool) (value : ν)
    (id : Nat) (entries : List (String × ν)) (seen : data.view value = .object id entries) (field : Field)
    (declared : field ∈ fields) (flaw : Violation) (reported : surveyField table data entered entries field = ⟨[flaw], none⟩) :
    (survey table data entered last (.shape fields exact) value).Includes ⟨[flaw], none⟩ := by
  rw [survey_shape _ _ _ _ _ fields exact id entries seen, ← reported]
  apply Survey.includes_trans _ _ _ (Survey.includes_first _ _)
  exact Survey.includes_all _ _ (List.mem_map_of_mem declared)

theorem flaw_included (entered : List Nat) (last : Option Segment) (spec : Spec) (value : ν) (flaw : Violation)
    (wrong : Flaw table data last spec value flaw) :
    (survey table data entered last spec value).Includes ⟨[flaw], none⟩ := by
  cases wrong with
  | primitive kind _ refused =>
      rw [survey, Survey.leaf_primitive, refused, if_neg Bool.false_ne_true]
      exact Survey.includes_refl _
  | enum allowed _ other =>
      have none : ¬ allowed.any (data.view value).equalsLiteral = true := by simpa using other
      rw [survey, Survey.leaf_enum, if_neg none]
      exact Survey.includes_refl _
  | array item _ apart =>
      rw [survey_array_mismatch _ _ _ _ _ item apart]
      exact Survey.includes_refl _
  | shape fields exact _ apart =>
      rw [survey_shape_mismatch _ _ _ _ _ fields exact apart]
      exact Survey.includes_refl _
  | map values _ apart =>
      rw [survey_map_mismatch _ _ _ _ _ values apart]
      exact Survey.includes_refl _
  | reference name target _ content found seen filled =>
      rw [survey_reference_scalar table data _ _ name target value content found seen filled]
      exact Survey.includes_refl _
  | missing fields exact _ id entries field seen declared required absent =>
      apply field_included table data entered last fields exact value id entries seen field declared
      rw [survey_field_absent _ _ _ _ _ absent, Survey.leaf_missing, if_pos required]
      rfl
  | null fields exact _ id entries field child seen declared required found null =>
      apply field_included table data entered last fields exact value id entries seen field declared
      rw [survey_field_null _ _ _ _ _ child found null, Survey.leaf_null, if_pos required]
      rfl
  | undeclared fields _ id entries key seen listed unknown =>
      have free : key ∈ Survey.undeclared fields (Entries.keys entries) := by
        rw [Survey.undeclared, List.mem_filter]
        exact ⟨listed, by simpa using unknown⟩
      rw [survey_shape _ _ _ _ _ fields true id entries seen, if_pos rfl, Survey.leaf_undeclared]
      apply Survey.includes_trans _ _ _ (Survey.includes_second _ _)
      refine fun _ => ⟨rfl, ?_⟩
      rw [List.cons_subset]
      exact ⟨List.mem_map_of_mem free, List.nil_subset _⟩

theorem calls_reported (outer inner : Visit ν) (calls : Calls table data outer inner)
    (passed : outer.failed table data = none) :
    inner.failed table data = none ∧ inner.reported table data ⊆ outer.reported table data := by
  rw [Visit.failed, Option.map_eq_none_iff] at passed
  cases calls with
  | part progress segment whole part value child asks =>
      obtain ⟨partPassed, included⟩ := part_included table data _ _ segment whole part value child asks passed
      rw [failed_below, reported_below, partPassed]
      exact ⟨rfl, List.map_subset _ included⟩
  | follow progress name target value id found seen fresh =>
      have same := survey_reference_fresh table data progress.entered progress.path.getLast? name target value id found
        seen fresh
      rw [Visit.survey, same] at passed
      rw [failed_follow, reported_follow, passed, Visit.reported, Visit.survey, same]
      exact ⟨rfl, List.Subset.refl _⟩

theorem reports_reported (visit : Visit ν) (passed : visit.failed table data = none) (violation : Violation)
    (reports : visit.Reports table data violation) : violation ∈ visit.reported table data := by
  obtain ⟨flaw, wrong, same⟩ := reports
  rw [Visit.failed, Option.map_eq_none_iff] at passed
  obtain ⟨_, included⟩ := flaw_included table data _ _ visit.spec visit.value flaw wrong passed
  subst same
  exact List.mem_map_of_mem (included List.mem_cons_self)

theorem reached_reported (start visit : Visit ν) (reached : Reached table data start visit)
    (passed : start.failed table data = none) :
    visit.failed table data = none ∧ visit.reported table data ⊆ start.reported table data := by
  induction reached with
  | refl => exact ⟨passed, List.Subset.refl _⟩
  | tail _ calls ih =>
      obtain ⟨outerPassed, included⟩ := ih
      obtain ⟨innerPassed, inner⟩ := calls_reported table data _ _ calls outerPassed
      exact ⟨innerPassed, List.Subset.trans inner included⟩

theorem reported_iff (start : Visit ν) (passed : start.failed table data = none) (violation : Violation) :
    violation ∈ start.reported table data ↔
      ∃ visit, Reached table data start visit ∧ visit.Reports table data violation := by
  constructor
  · exact reported_reached table data start violation
  · intro ⟨visit, reached, reports⟩
    obtain ⟨visitPassed, included⟩ := reached_reported table data start visit reached passed
    exact included (reports_reported table data visit visitPassed violation reports)

end

-- What a check reports is what is wrong with the values it comes to by way of its spec, each
-- violation located by the way there.
theorem check_reports_reached (table : Table) (heap : Heap) (spec : Spec) (root : Datum) (found : List Violation)
    (ran : table.check heap.data spec root = .ok found) (violation : Violation) :
    violation ∈ found ↔
      ∃ visit, Reached table heap.data (.atRoot heap.data spec root) visit ∧
        visit.Reports table heap.data violation := by
  rw [table.check_answer, answer_passed _ _ _ (at_root_clean heap.data spec root)] at ran
  rw [← ran.2]
  exact reported_iff table heap.data _ ran.1 violation

def nodeSpec : Spec := .shape [⟨"label", .primitive .string, true⟩, ⟨"next", .reference "node", false⟩] true

def Heap.ring : Heap :=
  ⟨[.object [("label", .scalar (.boolean true)), ("next", .container 1)], .object [("next", .container 0)]]⟩

def ringViolations : List Violation :=
  [⟨[.key "label"], ["node"], "expected string, found boolean", .typeMismatch⟩,
    ⟨[.key "next", .key "label"], ["node", "node (referenced as \"next\")"], "required property `label` is missing",
      .missingRequired⟩]

theorem ring_checked : Table.chain.check Heap.ring.data (.reference "node") (.container 0) = .ok ringViolations := by cbv

theorem ring_reports :
    Table.chain.check Heap.ring.data (.reference "node") (.container 0) = .ok ringViolations ∧
      ∀ violation ∈ ringViolations, ∃ visit,
        Reached Table.chain Heap.ring.data (.atRoot Heap.ring.data (.reference "node") (.container 0)) visit ∧
          visit.Reports Table.chain Heap.ring.data violation := by
  refine ⟨ring_checked, fun violation listed => ?_⟩
  have exactly := check_reports_reached Table.chain Heap.ring (.reference "node") (.container 0) _ ring_checked violation
  exact exactly.mp listed

end ShapeCheck
