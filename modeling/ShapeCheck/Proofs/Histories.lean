import Mathlib.Data.List.Induction
import ShapeCheck.Proofs.Slots

set_option autoImplicit false

namespace ShapeCheck

inductive Call where
  | reserve (name : String)
  | fill (id : SlotId) (spec : Spec)
  | insert (name : String) (spec : Spec)

def Call.name? : Call → Option String
  | .reserve name => some name
  | .fill _ _ => none
  | .insert name _ => some name

def Call.filled? (names : List String) : Call → Option (String × Spec)
  | .reserve _ => none
  | .fill id spec => names[id.index]?.map fun name => (name, spec)
  | .insert name spec => some (name, spec)

def registered (calls : List Call) : List String := (calls.filterMap Call.name?).eraseDups

def LastFilled (names : List String) (calls : List Call) (name : String) (spec : Spec) : Prop :=
  ∃ before call after, calls = before ++ call :: after ∧ call.filled? names = some (name, spec) ∧
    ∀ later ∈ after, ∀ other, later.filled? names ≠ some (name, other)

theorem last_filled_append (names : List String) (calls : List Call) (call : Call) (name : String) (spec : Spec) :
    LastFilled names (calls ++ [call]) name spec ↔ call.filled? names = some (name, spec) ∨
      (∀ other, call.filled? names ≠ some (name, other)) ∧ LastFilled names calls name spec := by
  constructor
  · rintro ⟨before, found, after, same, filled, last⟩
    rcases List.eq_nil_or_concat' after with rfl | ⟨others, final, rfl⟩
    · obtain ⟨_, rfl⟩ := List.append_singleton_inj.mp same
      exact .inl filled
    · rw [← List.cons_append, ← List.append_assoc] at same
      obtain ⟨rfl, rfl⟩ := List.append_singleton_inj.mp same
      rw [List.forall_mem_append, List.forall_mem_singleton] at last
      exact .inr ⟨last.2, before, found, others, rfl, filled, last.1⟩
  · rintro (filled | ⟨apart, before, found, after, rfl, filled, last⟩)
    · exact ⟨calls, call, [], rfl, filled, fun later listed => absurd listed List.not_mem_nil⟩
    · refine ⟨before, found, after ++ [call], by rw [List.append_assoc, List.cons_append], filled, ?_⟩
      rw [List.forall_mem_append, List.forall_mem_singleton]
      exact ⟨last, apart⟩

theorem last_filled_exists (names : List String) (calls : List Call) (name : String) :
    (∃ spec, LastFilled names calls name spec) ↔ ∃ call ∈ calls, ∃ spec, call.filled? names = some (name, spec) := by
  induction calls using List.reverseRecOn with
  | nil =>
      constructor
      · rintro ⟨spec, before, call, after, same, _⟩
        exact absurd same (by simp)
      · rintro ⟨call, listed, _⟩
        exact absurd listed List.not_mem_nil
  | append_singleton earlier call ih =>
      simp only [last_filled_append, List.mem_append, List.mem_singleton, or_and_right, exists_or, exists_eq_left]
      rw [← ih]
      by_cases last : ∃ spec, call.filled? names = some (name, spec)
      · simp [last]
      · have apart : ∀ other, call.filled? names ≠ some (name, other) := not_exists.mp last
        simp [apart]

namespace Table

def perform (table : Table) : Call → Table
  | .reserve name => (table.reserve name).1
  | .fill id spec => table.fill id spec
  | .insert name spec => (table.insert name spec).1

def answer? (table : Table) : Call → Option SlotId
  | .reserve name => some (table.reserve name).2
  | .fill _ _ => none
  | .insert name spec => some (table.insert name spec).2

def after (calls : List Call) : Table := calls.foldl perform .empty

@[simp] theorem after_append (calls : List Call) (call : Call) : after (calls ++ [call]) = (after calls).perform call :=
  List.foldl_append

def Given (calls : List Call) (id : SlotId) : Prop :=
  ∃ before call rest, calls = before ++ call :: rest ∧ (after before).answer? call = some id

-- Slots are only filled by ids that earlier calls were answered with.
def Admissible (calls : List Call) : Prop :=
  ∀ before id spec rest, calls = before ++ .fill id spec :: rest → Given before id

theorem perform_built (table : Table) (call : Call) (built : table.Built) : (table.perform call).Built := by
  cases call with
  | reserve name => exact .reserve table name built
  | fill id spec => exact .fill table id spec built
  | insert name spec => exact built_insert table name spec built

theorem after_distinct (calls : List Call) : (after calls).names.Nodup := by
  apply built_distinct
  induction calls using List.reverseRecOn with
  | nil => exact .empty
  | append_singleton earlier call ih =>
      rw [after_append]
      exact perform_built _ call ih

theorem names_perform (table : Table) (call : Call) :
    (table.perform call).names = match call.name? with
      | some name => if name ∈ table.names then table.names else table.names ++ [name]
      | none => table.names := by
  cases call with
  | reserve name => exact names_reserve table name
  | fill id spec => exact names_fill table id spec
  | insert name spec => exact names_insert table name spec

theorem names_kept (table : Table) (call : Call) : table.names <+: (table.perform call).names := by
  rw [names_perform]
  cases call.name? with
  | none => exact List.prefix_rfl
  | some name =>
      dsimp only
      split
      · exact List.prefix_rfl
      · exact List.prefix_append _ _

theorem names_kept_after (calls rest : List Call) : (after calls).names <+: (after (calls ++ rest)).names := by
  induction rest using List.reverseRecOn with
  | nil => simp
  | append_singleton earlier call ih =>
      rw [← List.append_assoc, after_append]
      exact ih.trans (names_kept _ call)

theorem name_kept (names more : List String) (kept : names <+: more) (position : Nat) (name : String)
    (placed : names[position]? = some name) : more[position]? = some name := by
  obtain ⟨bound, here⟩ := List.getElem?_eq_some_iff.mp placed
  rw [List.prefix_iff_getElem?.mp kept position bound, here]

section

variable (table : Table) (distinct : table.names.Nodup)
include distinct

theorem slot_iff (name : String) (id : SlotId) : table.slot? name = some id ↔ table.names[id.index]? = some name := by
  rw [slot?, Option.map_eq_some_iff, List.getElem?_eq_some_iff]
  constructor
  · rintro ⟨position, found, rfl⟩
    obtain ⟨bound, here, _⟩ := List.idxOf?_eq_some_iff.mp found
    exact ⟨bound, here⟩
  · rintro ⟨bound, here⟩
    refine ⟨id.index, List.idxOf?_eq_some_iff.mpr ⟨bound, here, fun earlier before again => ?_⟩, rfl⟩
    have same := (distinct.getElem_inj_iff).mp (again.trans here.symm)
    omega

theorem get_iff (name : String) (spec : Spec) :
    table.get? name = some spec ↔ ∃ id, table.names[id.index]? = some name ∧ table.specAt? id = some spec := by
  rw [get?, Option.bind_eq_some_iff]
  exact exists_congr fun id => and_congr_left fun _ => table.slot_iff distinct name id

end

theorem spec_at_fill (table : Table) (id other : SlotId) (spec : Spec) :
    (table.fill id spec).specAt? other =
      if other = id ∧ id.index < table.slots.length then some spec else table.specAt? other := by
  rw [specAt?, specAt?, fill, List.getElem?_modify]
  rcases id with ⟨position⟩
  rcases other with ⟨query⟩
  by_cases here : query = position
  · subst here
    cases found : table.slots[query]? with
    | none => simp [List.getElem?_eq_none_iff.mp found]
    | some slot => simp [(List.getElem?_eq_some_iff.mp found).1]
  · have apart : ¬ position = query := fun same => here same.symm
    cases table.slots[query]? <;> simp [here, apart]

theorem get_fill (table : Table) (distinct : table.names.Nodup) (id : SlotId) (spec : Spec) (query : String) :
    (table.fill id spec).get? query = if table.names[id.index]? = some query then some spec else table.get? query := by
  simp only [← table.slot_iff distinct]
  rw [get?, slot_fill, get?]
  cases found : table.slot? query with
  | none => rfl
  | some other =>
      rw [Option.bind_some, Option.bind_some, spec_at_fill]
      by_cases here : other = id
      · have placed := (table.slot_iff distinct query other).mp found
        have bound := (List.getElem?_eq_some_iff.mp placed).1
        rw [names, List.length_map] at bound
        rw [if_pos ⟨here, here ▸ bound⟩, if_pos (congrArg some here)]
      · rw [if_neg fun both => here both.1, if_neg fun same => here (Option.some.inj same)]

theorem get_perform (table : Table) (distinct : table.names.Nodup) (call : Call) (query : String) (spec : Spec) :
    (table.perform call).get? query = some spec ↔
      call.filled? table.names = some (query, spec) ∨
        (∀ other, call.filled? table.names ≠ some (query, other)) ∧ table.get? query = some spec := by
  cases call with
  | reserve name => simp [perform, Call.filled?]
  | fill id content =>
      rw [perform, table.get_fill distinct, Call.filled?]
      by_cases here : table.names[id.index]? = some query
      · simp [here]
      · simp [here]
  | insert name content =>
      rw [perform, get_insert, Call.filled?]
      by_cases here : query = name
      · simp [here]
      · simp [here, Ne.symm here]

theorem reserve_placed (table : Table) (distinct : table.names.Nodup) (name : String) :
    (table.reserve name).1.names[(table.reserve name).2.index]? = some name := by
  rw [reserve]
  cases found : table.slot? name with
  | some id => exact (table.slot_iff distinct name id).mp found
  | none =>
      have length : table.slots.length = table.names.length := (List.length_map _).symm
      rw [length]
      simp [names]

theorem answer_placed (table : Table) (distinct : table.names.Nodup) (call : Call) (id : SlotId)
    (answered : table.answer? call = some id) :
    ∃ name, call.name? = some name ∧ (table.perform call).names[id.index]? = some name := by
  cases call with
  | reserve name =>
      obtain rfl := Option.some.inj answered
      exact ⟨name, rfl, table.reserve_placed distinct name⟩
  | fill other spec => contradiction
  | insert name spec =>
      obtain rfl := Option.some.inj answered
      refine ⟨name, rfl, ?_⟩
      rw [perform, names_insert, ← names_reserve]
      exact table.reserve_placed distinct name

theorem erase_dups_append (names : List String) (name : String) :
    (names ++ [name]).eraseDups = if name ∈ names.eraseDups then names.eraseDups else names.eraseDups ++ [name] := by
  rw [List.eraseDups_append]
  by_cases old : name ∈ names <;> simp [List.removeAll, List.eraseDups_cons, old]

theorem registered_append (calls : List Call) (call : Call) :
    registered (calls ++ [call]) = match call.name? with
      | some name => if name ∈ registered calls then registered calls else registered calls ++ [name]
      | none => registered calls := by
  rw [registered, List.filterMap_append, registered]
  cases named : call.name? with
  | none =>
      have silent : [call].filterMap Call.name? = [] := by simp [named]
      rw [silent, List.append_nil]
  | some name =>
      have single : [call].filterMap Call.name? = [name] := by simp [named]
      rw [single, erase_dups_append]

theorem names_after (calls : List Call) : (after calls).names = registered calls := by
  induction calls using List.reverseRecOn with
  | nil => rfl
  | append_singleton earlier call ih => rw [after_append, names_perform, registered_append, ih]

theorem registered_kept (calls rest : List Call) : registered calls <+: registered (calls ++ rest) := by
  rw [← names_after, ← names_after]
  exact names_kept_after calls rest

theorem answer_lasts (calls rest : List Call) (call : Call) (id : SlotId)
    (answered : (after calls).answer? call = some id) :
    ∃ name, call.name? = some name ∧ (after (calls ++ call :: rest)).names[id.index]? = some name := by
  obtain ⟨name, asked, placed⟩ := answer_placed _ (after_distinct calls) call id answered
  rw [← after_append] at placed
  have kept := name_kept _ _ (names_kept_after (calls ++ [call]) rest) _ _ placed
  rw [List.append_assoc, List.singleton_append] at kept
  exact ⟨name, asked, kept⟩

theorem admissible_before (calls rest : List Call) (admissible : Admissible (calls ++ rest)) : Admissible calls := by
  intro before id spec others same
  exact admissible before id spec (others ++ rest) (by rw [same, List.append_assoc, List.cons_append])

theorem admissible_placed (calls : List Call) (admissible : Admissible calls) (id : SlotId) (spec : Spec)
    (listed : .fill id spec ∈ calls) : ∃ name, (registered calls)[id.index]? = some name := by
  obtain ⟨before, rest, rfl⟩ := List.append_of_mem listed
  obtain ⟨earlier, call, others, rfl, answered⟩ := admissible before id spec rest rfl
  obtain ⟨name, _, placed⟩ := answer_lasts earlier others call id answered
  rw [names_after] at placed
  exact ⟨name, name_kept _ _ (registered_kept _ _) _ _ placed⟩

theorem filled_kept (calls rest : List Call) (admissible : Admissible calls) (call : Call) (listed : call ∈ calls) :
    call.filled? (registered (calls ++ rest)) = call.filled? (registered calls) := by
  cases call with
  | reserve name => rfl
  | fill id spec =>
      obtain ⟨name, placed⟩ := admissible_placed calls admissible id spec listed
      rw [Call.filled?, Call.filled?, placed, name_kept _ _ (registered_kept calls rest) _ _ placed]
  | insert name spec => rfl

theorem last_filled_congr (names others : List String) (calls : List Call)
    (same : ∀ call ∈ calls, call.filled? names = call.filled? others) (name : String) (spec : Spec) :
    LastFilled names calls name spec ↔ LastFilled others calls name spec := by
  refine exists_congr fun before => exists_congr fun call => exists_congr fun rest => and_congr_right fun parts => ?_
  rw [parts, List.forall_mem_append, List.forall_mem_cons] at same
  rw [same.2.1]
  refine and_congr_right fun _ => forall_congr' fun later => forall_congr' fun listed => ?_
  rw [same.2.2 later listed]

theorem get_after (calls : List Call) (admissible : Admissible calls) (name : String) (spec : Spec) :
    (after calls).get? name = some spec ↔ LastFilled (registered calls) calls name spec := by
  induction calls using List.reverseRecOn with
  | nil =>
      constructor
      · intro found
        contradiction
      · rintro ⟨before, call, rest, same, _⟩
        exact absurd same (by simp)
  | append_singleton earlier call ih =>
      have before := admissible_before earlier [call] admissible
      have kept := last_filled_congr _ _ earlier (filled_kept earlier [call] before) name spec
      have own : call.filled? (registered (earlier ++ [call])) = call.filled? (registered earlier) := by
        cases call with
        | reserve other => rfl
        | fill id content => rw [registered_append]; rfl
        | insert other content => rfl
      rw [after_append, get_perform _ (after_distinct earlier), ih before, names_after, last_filled_append, kept, own]

theorem get_after_none (calls : List Call) (admissible : Admissible calls) (name : String) :
    (after calls).get? name = none ↔ ∀ call ∈ calls, ∀ spec, call.filled? (registered calls) ≠ some (name, spec) := by
  have filled := last_filled_exists (registered calls) calls name
  simp only [← get_after calls admissible, ← Option.isSome_iff_exists] at filled
  rw [← Option.not_isSome_iff_eq_none, filled]
  push Not
  rfl

theorem entry_keys (table : Table) (distinct : table.names.Nodup) :
    Entries.keys table.entries = table.names.filter table.contains := by
  rw [table.entries_by_name distinct, Entries.keys, List.map_filterMap, ← List.filterMap_eq_filter]
  refine List.filterMap_congr fun name _ => ?_
  rw [Option.guard, contains]
  cases table.get? name <;> rfl

theorem fill_apart (table : Table) (distinct : table.names.Nodup) (id : SlotId) (spec : Spec) (name : String)
    (placed : table.names[id.index]? = some name) (other : String) (different : other ≠ name) :
    (table.fill id spec).get? other = table.get? other := by
  have elsewhere : table.names[id.index]? ≠ some other := by
    rw [placed, ne_eq, Option.some.injEq]
    exact Ne.symm different
  rw [table.get_fill distinct, if_neg elsewhere]

theorem contains_listed (table : Table) (distinct : table.names.Nodup) (name : String) :
    table.contains name = true ↔ name ∈ Entries.keys table.entries := by
  rw [table.entry_keys distinct, List.mem_filter]
  refine (and_iff_right_of_imp fun present => ?_).symm
  obtain ⟨spec, found⟩ := (table.contains_iff name).mp present
  obtain ⟨id, placed, _⟩ := (table.get_iff distinct name spec).mp found
  exact List.mem_of_getElem? placed

-- A table holds what was put into it last, under the names it was given, in the order they came.
structure Records (calls : List Call) (table : Table) : Prop where
  length : table.names.length = table.slots.length
  distinct : table.names.Nodup
  order : table.names = registered calls
  slot : ∀ name id, table.slot? name = some id ↔ table.names[id.index]? = some name
  lasting : ∀ before call rest id, calls = before ++ call :: rest → (after before).answer? call = some id →
    ∃ name, call.name? = some name ∧ table.slot? name = some id
  found : ∀ name spec, table.get? name = some spec ↔ LastFilled (registered calls) calls name spec
  missing : ∀ name, table.get? name = none ↔
    ∀ call ∈ calls, ∀ spec, call.filled? (registered calls) ≠ some (name, spec)
  apart : ∀ id spec name, table.names[id.index]? = some name →
    (∀ other, other ≠ name → (table.fill id spec).get? other = table.get? other ∧
      (table.fill id spec).contains other = table.contains other) ∧
    ∀ other, other ≠ id → (table.fill id spec).specAt? other = table.specAt? other
  entries : table.entries = (registered calls).filterMap fun name => (table.get? name).map fun spec => (name, spec)
  listed : Entries.keys table.entries = (registered calls).filter table.contains
  once : (Entries.keys table.entries).Nodup
  size : table.size = (registered calls).countP table.contains
  entry : ∀ name, table.contains name = true ↔ name ∈ Entries.keys table.entries
  present : ∀ name, table.contains name = true ↔ ∃ spec, table.get? name = some spec

theorem after_records (calls : List Call) (admissible : Admissible calls) : Records calls (after calls) := by
  have distinct := after_distinct calls
  have order := names_after calls
  have keys := entry_keys _ distinct
  constructor
  case length => exact List.length_map _
  case distinct => exact distinct
  case order => exact order
  case slot => exact slot_iff _ distinct
  case lasting =>
    rintro before call rest id rfl answered
    obtain ⟨name, asked, placed⟩ := answer_lasts before rest call id answered
    exact ⟨name, asked, (slot_iff _ distinct name id).mpr placed⟩
  case found => exact get_after calls admissible
  case missing => exact get_after_none calls admissible
  case apart =>
    intro id spec name placed
    refine ⟨fun other different => ?_, fun other different => ?_⟩
    · have same := fill_apart _ distinct id spec name placed other different
      exact ⟨same, congrArg Option.isSome same⟩
    · rw [spec_at_fill, if_neg fun both => different both.1]
  case entries => rw [entries_by_name _ distinct, order]
  case listed => rw [keys, order]
  case once =>
    rw [keys]
    exact distinct.filter _
  case size => rw [List.countP_eq_length_filter, ← order, ← keys, size, Entries.keys, List.length_map]
  case entry => exact contains_listed _ distinct
  case present => exact contains_iff _

end Table

-- A table with its parts kept apart: the names, what their slots hold, and an index, by which a name is looked
-- up instead of searched for. The parts have to be kept in step by every call.
structure Ledger where
  names : List String
  contents : List (Option Spec)
  index : Entries SlotId

namespace Ledger

def empty : Ledger := ⟨[], [], []⟩

def reserve (ledger : Ledger) (name : String) : Ledger × SlotId :=
  match Entries.get? name ledger.index with
  | some id => (ledger, id)
  | none =>
      let id : SlotId := ⟨ledger.contents.length⟩
      (⟨ledger.names ++ [name], ledger.contents ++ [none], Entries.insert name id ledger.index⟩, id)

def fill (ledger : Ledger) (id : SlotId) (spec : Spec) : Ledger :=
  { ledger with contents := ledger.contents.set id.index (some spec) }

def insert (ledger : Ledger) (name : String) (spec : Spec) : Ledger × SlotId :=
  let (reserved, id) := ledger.reserve name
  (reserved.fill id spec, id)

def specAt? (ledger : Ledger) (id : SlotId) : Option Spec := ledger.contents[id.index]?.join

def get? (ledger : Ledger) (name : String) : Option Spec :=
  (Entries.get? name ledger.index).bind ledger.specAt?

def entries (ledger : Ledger) : List (String × Spec) :=
  (ledger.names.zip ledger.contents).filterMap fun slot => slot.2.map fun spec => (slot.1, spec)

def perform (ledger : Ledger) : Call → Ledger
  | .reserve name => (ledger.reserve name).1
  | .fill id spec => ledger.fill id spec
  | .insert name spec => (ledger.insert name spec).1

def answer? (ledger : Ledger) : Call → Option SlotId
  | .reserve name => some (ledger.reserve name).2
  | .fill _ _ => none
  | .insert name spec => some (ledger.insert name spec).2

def after (calls : List Call) : Ledger := calls.foldl perform .empty

structure Keeps (ledger : Ledger) (table : Table) : Prop where
  names : ledger.names = table.names
  contents : ledger.contents = table.slots.map Prod.snd
  index : ∀ name, Entries.get? name ledger.index = table.slot? name

section

variable (ledger : Ledger) (table : Table) (kept : ledger.Keeps table)
include kept

theorem reserve_kept (name : String) :
    (ledger.reserve name).1.Keeps (table.reserve name).1 ∧ (ledger.reserve name).2 = (table.reserve name).2 := by
  rw [reserve, Table.reserve, kept.index]
  cases found : table.slot? name with
  | some id => exact ⟨kept, rfl⟩
  | none =>
      have length : ledger.contents.length = table.slots.length := by rw [kept.contents, List.length_map]
      refine ⟨⟨?_, ?_, fun query => ?_⟩, congrArg SlotId.mk length⟩
      · simp [kept.names, Table.names]
      · simp [kept.contents]
      · rw [Table.slot_appended table name found, Entries.get_insert, kept.index, length]

theorem fill_kept (id : SlotId) (spec : Spec) : (ledger.fill id spec).Keeps (table.fill id spec) := by
  refine ⟨?_, ?_, fun query => ?_⟩
  · rw [Table.names_fill, ← kept.names, fill]
  · apply List.ext_getElem?
    intro position
    simp only [fill, Table.fill, kept.contents, List.getElem?_set', List.getElem?_map, List.getElem?_modify]
    by_cases here : id.index = position
    · cases table.slots[position]? <;> simp [here]
    · simp [here]
  · rw [Table.slot_fill, ← kept.index, fill]

theorem perform_kept (call : Call) :
    (ledger.perform call).Keeps (table.perform call) ∧ ledger.answer? call = table.answer? call := by
  cases call with
  | reserve name =>
      obtain ⟨reserved, answer⟩ := reserve_kept ledger table kept name
      exact ⟨reserved, congrArg some answer⟩
  | fill id spec => exact ⟨fill_kept ledger table kept id spec, rfl⟩
  | insert name spec =>
      obtain ⟨reserved, answer⟩ := reserve_kept ledger table kept name
      have filled := fill_kept _ _ reserved (table.reserve name).2 spec
      have same : ledger.perform (.insert name spec) = (ledger.reserve name).1.fill (table.reserve name).2 spec :=
        congrArg ((ledger.reserve name).1.fill · spec) answer
      exact ⟨same ▸ filled, congrArg some answer⟩

theorem spec_kept (id : SlotId) : ledger.specAt? id = table.specAt? id := by
  rw [specAt?, Table.specAt?, kept.contents, List.getElem?_map]
  cases table.slots[id.index]? <;> rfl

theorem get_kept (name : String) : ledger.get? name = table.get? name := by
  rw [get?, Table.get?, kept.index]
  exact Option.bind_congr fun id _ => spec_kept ledger table kept id

theorem entries_kept : ledger.entries = table.entries := by
  have slots : ledger.names.zip ledger.contents = table.slots := by
    simp [kept.names, kept.contents, Table.names, List.zip_map']
  rw [entries, Table.entries, slots]

end

theorem after_kept (calls : List Call) : (after calls).Keeps (Table.after calls) := by
  induction calls using List.reverseRecOn with
  | nil => exact ⟨rfl, rfl, fun name => rfl⟩
  | append_singleton earlier call ih =>
      rw [after, List.foldl_append, Table.after_append]
      exact (perform_kept _ _ ih call).1

structure Agrees (ledger : Ledger) (table : Table) : Prop where
  length : ledger.names.length = ledger.contents.length
  names : ledger.names = table.names
  index : ∀ name id, Entries.get? name ledger.index = some id ↔ ledger.names[id.index]? = some name
  slot : ∀ name, Entries.get? name ledger.index = table.slot? name
  held : ∀ id, ledger.specAt? id = table.specAt? id
  found : ∀ name, ledger.get? name = table.get? name
  entries : ledger.entries = table.entries
  answer : ∀ call, ledger.answer? call = table.answer? call

theorem after_agrees (calls : List Call) : (after calls).Agrees (Table.after calls) := by
  have kept := after_kept calls
  constructor
  case length => rw [kept.names, kept.contents, Table.names, List.length_map, List.length_map]
  case names => exact kept.names
  case index =>
    intro name id
    rw [kept.index, kept.names]
    exact Table.slot_iff _ (Table.after_distinct calls) name id
  case slot => exact kept.index
  case held => exact spec_kept _ _ kept
  case found => exact get_kept _ _ kept
  case entries => exact entries_kept _ _ kept
  case answer => exact fun call => (perform_kept _ _ kept call).2

end Ledger

theorem calls_recorded (calls : List Call) (admissible : Table.Admissible calls) :
    Table.Records calls (Table.after calls) ∧ Ledger.Agrees (Ledger.after calls) (Table.after calls) :=
  ⟨Table.after_records calls admissible, Ledger.after_agrees calls⟩

def boxCalls : List Call :=
  [.reserve "lid", .insert "box" (.primitive .string), .reserve "lid", .fill ⟨1⟩ (.primitive .number), .reserve "tag",
    .fill ⟨0⟩ (.primitive .boolean), .insert "lid" (.primitive .object)]

theorem box_calls_recorded :
    Table.Admissible boxCalls ∧
      (Table.Records boxCalls (Table.after boxCalls) ∧ Ledger.Agrees (Ledger.after boxCalls) (Table.after boxCalls)) ∧
      registered boxCalls = ["lid", "box", "tag"] ∧
      (Table.after boxCalls).entries = [("lid", .primitive .object), ("box", .primitive .number)] := by
  have admissible : Table.Admissible boxCalls := by
    intro before id spec rest same
    simp only [boxCalls, List.cons_eq_append_iff, List.cons.injEq, List.nil_eq, List.append_eq_nil_iff, reduceCtorEq,
      false_and, and_false, exists_false, false_or, or_false, Call.fill.injEq] at same
    -- The two calls that fill a slot by its id.
    obtain ⟨_, rfl, _, rfl, _, rfl, ⟨rfl, ⟨rfl, _⟩, _⟩ | ⟨_, rfl, _, rfl, rfl, ⟨rfl, _⟩, _⟩⟩ := same
    · exact ⟨[.reserve "lid"], .insert "box" (.primitive .string), _, rfl, rfl⟩
    · exact ⟨[], .reserve "lid", _, rfl, rfl⟩
  exact ⟨admissible, calls_recorded boxCalls admissible, rfl, rfl⟩

end ShapeCheck
