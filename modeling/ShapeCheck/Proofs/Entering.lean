import Mathlib.Data.Set.Card
import ShapeCheck.Proofs.Reports

set_option autoImplicit false

namespace ShapeCheck

variable {ν : Type}

namespace Instance

def containers (data : Instance ν) (root : ν) : Set Nat :=
  {id | ∃ value, data.Reaches root value ∧ (data.view value).identity? = some id}

theorem containers_finite (data : Instance ν) (root : ν) : (data.containers root).Finite := by
  apply (Set.finite_lt_nat data.bound).subset
  intro id inside
  obtain ⟨value, _, seen⟩ := inside
  exact data.bounded value id seen

theorem containers_count (data : Instance ν) (root : ν) (ids : List Nat) (distinct : ids.Nodup)
    (inside : ∀ id ∈ ids, id ∈ data.containers root) : ids.length ≤ (data.containers root).ncard := by
  have counted : ((ids.toFinset : Finset Nat) : Set Nat).ncard = ids.length := by
    rw [Set.ncard_coe_finset, List.toFinset_card_of_nodup distinct]
  rw [← counted]
  apply Set.ncard_le_ncard _ (data.containers_finite root)
  intro id listed
  exact inside id (by simpa using listed)

end Instance

theorem part_held (data : Instance ν) (segment : Segment) (whole part : Spec) (value child : ν)
    (asks : Part data segment whole value part child) : data.Holds value child := by
  cases asks with
  | item _ _ id items position _ seen placed =>
      exact data.holds_item value id items child seen (List.mem_of_getElem? placed)
  | entry _ _ id entries key _ seen listed => exact data.holds_entry value id entries (key, child) seen listed
  | field fields exact _ id entries field _ seen declared found filled =>
      have listed := Entries.get_mem field.name child entries found
      exact data.holds_entry value id entries (field.name, child) seen listed

structure Visit.Entered (data : Instance ν) (start visit : Visit ν) (ids : List Nat) : Prop where
  entered : visit.progress.entered = ids ++ start.progress.entered
  followed : visit.progress.via.length = start.progress.via.length + ids.length
  distinct : ids.Nodup
  unmarked : ∀ id ∈ ids, id ∉ start.progress.entered
  inside : ∀ id ∈ ids, id ∈ data.containers start.value
  reaches : data.Reaches start.value visit.value

theorem entered_start (data : Instance ν) (start : Visit ν) : Visit.Entered data start start [] where
  entered := rfl
  followed := rfl
  distinct := .nil
  unmarked := nofun
  inside := nofun
  reaches := .refl

-- One more visit: only a reference enters a container, and only one that is not marked.
theorem calls_entered (table : Table) (data : Instance ν) (start outer inner : Visit ν) (ids : List Nat)
    (before : Visit.Entered data start outer ids) (calls : Calls table data outer inner) :
    ∃ more, Visit.Entered data start inner more := by
  cases calls with
  | part progress segment whole part value child asks =>
      have held := part_held data segment whole part value child asks
      exact ⟨ids, { before with reaches := before.reaches.tail held }⟩
  | follow progress name target value id found seen fresh =>
      rw [before.entered, List.mem_append, not_or] at fresh
      have here : id ∈ data.containers start.value := ⟨value, before.reaches, seen⟩
      refine ⟨id :: ids, ?_, ?_, ?_, ?_, ?_, before.reaches⟩
      · exact congrArg (List.cons id) before.entered
      · have counted := before.followed
        simp only [Progress.follow, List.length_append, List.length_cons, List.length_nil] at counted ⊢
        omega
      · exact List.nodup_cons.mpr ⟨fresh.1, before.distinct⟩
      · exact List.forall_mem_cons.mpr ⟨fresh.2, before.unmarked⟩
      · exact List.forall_mem_cons.mpr ⟨here, before.inside⟩

theorem reached_entered (table : Table) (data : Instance ν) (start visit : Visit ν)
    (reached : Reached table data start visit) : ∃ ids, Visit.Entered data start visit ids := by
  induction reached with
  | refl => exact ⟨[], entered_start data start⟩
  | tail _ calls ih =>
      obtain ⟨ids, before⟩ := ih
      exact calls_entered table data start _ _ ids before calls

theorem flaw_direct (table : Table) (data : Instance ν) (last : Option Segment) (spec : Spec) (value : ν)
    (flaw : Violation) (wrong : Flaw table data last spec value flaw) : flaw.via = [] := by
  cases wrong <;> rfl

-- Each violation is reported at the end of some way from the start, and no such way enters a
-- container twice, nor the root where it counts as entered from the start.
def EntersOnce (table : Table) (data : Instance ν) (start : Visit ν) (rooted : Prop)
    (answer : Except Unresolved (List Violation)) : Prop :=
  ∀ found, answer = .ok found → ∀ violation ∈ found,
    (∃ visit, Reached table data start visit ∧ visit.Reports table data violation) ∧
    (∀ visit, Reached table data start visit → visit.Reports table data violation →
      ∃ ids, visit.progress.entered = ids ++ start.progress.entered ∧ ids.length = violation.via.length ∧ ids.Nodup ∧
        (∀ id ∈ ids, id ∈ data.containers start.value) ∧
        (rooted → ∀ id ∈ ids, (data.view start.value).identity? ≠ some id)) ∧
    violation.via.length ≤ (data.containers start.value).ncard

theorem answer_enters_once (table : Table) (data : Instance ν) (start : Visit ν) (rooted : Prop)
    (clean : start.progress.violations = []) (direct : start.progress.via = [])
    (marks : rooted → start.progress.entered = data.ownIdentity start.value) :
    EntersOnce table data start rooted (start.answer table data) := by
  intro found ran violation listed
  rw [answer_passed table data start clean] at ran
  obtain ⟨visit, reached, reports⟩ := reported_reached table data start violation (ran.2 ▸ listed)
  have ways : ∀ visit, Reached table data start visit → visit.Reports table data violation →
      ∃ ids, Visit.Entered data start visit ids ∧ ids.length = violation.via.length := by
    intro visit reached reports
    obtain ⟨ids, way⟩ := reached_entered table data start visit reached
    obtain ⟨flaw, wrong, same⟩ := reports
    have through : violation.via = visit.progress.via := by
      rw [same, Progress.place, flaw_direct table data _ _ _ flaw wrong, List.append_nil]
    refine ⟨ids, way, ?_⟩
    rw [through, way.followed, direct, List.length_nil, Nat.zero_add]
  refine ⟨⟨visit, reached, reports⟩, fun other otherReached otherReports => ?_, ?_⟩
  · obtain ⟨ids, way, counted⟩ := ways other otherReached otherReports
    refine ⟨ids, way.entered, counted, way.distinct, way.inside, fun root id entered seen => ?_⟩
    have marked : id ∈ start.progress.entered := by
      rw [marks root, Instance.ownIdentity, Option.mem_toList]
      exact seen
    exact way.unmarked id entered marked
  · obtain ⟨ids, way, counted⟩ := ways visit reached reports
    rw [← counted]
    exact data.containers_count start.value ids way.distinct way.inside

theorem at_root_enters_once (table : Table) (data : Instance ν) (spec : Spec) (root : ν) :
    EntersOnce table data (.atRoot data spec root) (spec.isReference = false) (table.check data spec root) := by
  rw [table.check_answer]
  apply answer_enters_once
  · exact at_root_clean data spec root
  · rw [Visit.atRoot]
    cases spec.isReference <;> rfl
  · intro rooted
    rw [Visit.atRoot, rooted, if_neg Bool.false_ne_true]
    rfl

theorem as_property_enters_once (table : Table) (data : Instance ν) (name : String) (spec : Spec) (root : ν) :
    EntersOnce table data (.asProperty data name spec root) True
      ((Visit.asProperty data name spec root).answer table data) :=
  answer_enters_once table data _ True (as_property_clean data name spec root) rfl fun _ => rfl

-- A check ends on any table and any data, and on the way to what it reports it enters no
-- container twice. So no violation is under more references than there are containers.
theorem checks_enter_once (table : Table) (heap : Heap) (root : Datum) :
    (WellFounded fun inner outer : Visit Datum => Calls table heap.data outer inner) ∧
    (∀ spec, EntersOnce table heap.data (.atRoot heap.data spec root) (spec.isReference = false)
      (table.check heap.data spec root)) ∧
    (∀ name spec, table.get? name = some spec →
      EntersOnce table heap.data (.atRoot heap.data spec root) (spec.isReference = false)
        (table.checkEntry heap.data name root)) ∧
    (∀ name fields, EntersOnce table heap.data (.asProperty heap.data name (.shape fields true) root) True
      (table.checkFields heap.data name fields root)) ∧
    ∀ name spec, table.get? name = some spec →
      EntersOnce table heap.data (.asProperty heap.data name spec.exactly root) True
        (table.checkEntryExactly heap.data name root) := by
  refine ⟨calls_well_founded table heap.data, fun spec => ?_, fun name spec entry => ?_, fun name fields => ?_,
    fun name spec entry => ?_⟩
  · exact at_root_enters_once table heap.data spec root
  · rw [table.check_entry_survey heap.data name spec root entry]
    exact at_root_enters_once table heap.data spec root
  · rw [table.check_fields_answer]
    exact as_property_enters_once table heap.data name (.shape fields true) root
  · rw [table.check_entry_exactly_answer heap.data name spec root entry]
    exact as_property_enters_once table heap.data name spec.exactly root

def secondViolation : Violation :=
  ⟨[.key "next", .key "label"], ["node (referenced as \"next\")"], "required property `label` is missing",
    .missingRequired⟩

theorem ring_entry_checked :
    Table.chain.checkEntry Heap.ring.data "node" (.container 0) =
      .ok [⟨[.key "label"], [], "expected string, found boolean", .typeMismatch⟩, secondViolation] := by cbv

theorem ring_enters_once :
    Table.chain.get? "node" = some nodeSpec ∧
      (∃ visit ids, Reached Table.chain Heap.ring.data (.atRoot Heap.ring.data nodeSpec (.container 0)) visit ∧
        visit.Reports Table.chain Heap.ring.data secondViolation ∧ visit.progress.entered = ids ++ [0] ∧
        ids.length = 1 ∧ 0 ∉ ids) ∧
      1 ≤ (Heap.ring.data.containers (.container 0)).ncard := by
  have entry : Table.chain.get? "node" = some nodeSpec := rfl
  have once := (checks_enter_once Table.chain Heap.ring (.container 0)).2.2.1 "node" nodeSpec entry
  obtain ⟨⟨visit, reached, reports⟩, ways, bound⟩ := once _ ring_entry_checked secondViolation (by simp)
  obtain ⟨ids, entered, counted, _, _, unmarked⟩ := ways visit reached reports
  refine ⟨entry, ⟨visit, ids, reached, reports, entered, counted, fun listed => ?_⟩, bound⟩
  exact unmarked rfl 0 listed rfl

end ShapeCheck
