import Mathlib.Data.List.Dedup
import Mathlib.Data.List.Induction
import ShapeCheck.Proofs.Compilation

set_option autoImplicit false

namespace ShapeCheck

def failure? {ε α : Type} : Except ε α → Option ε
  | .error cause => some cause
  | .ok _ => none

@[simp] theorem failure_some {ε α : Type} (answer : Except ε α) (cause : ε) :
    failure? answer = some cause ↔ answer = .error cause := by
  cases answer <;> simp [failure?]

@[simp] theorem failure_none {ε α : Type} (answer : Except ε α) : failure? answer = none ↔ ∃ result, answer = .ok result := by
  cases answer <;> simp [failure?]

theorem failure_exists {ε α : Type} (answer : Except ε α) :
    (∃ cause, answer = .error cause) ↔ ¬ ∃ result, answer = .ok result := by
  cases answer <;> simp

namespace Table

theorem slot_get (table : Table) (distinct : table.names.Nodup) (name : String) (content : Option Spec)
    (listed : (name, content) ∈ table.slots) : table.get? name = content := by
  rcases table with ⟨slots⟩
  induction slots with
  | nil => exact absurd listed List.not_mem_nil
  | cons slot rest ih =>
      rcases slot with ⟨key, other⟩
      rw [names, List.map_cons, List.nodup_cons] at distinct
      rw [get_cons]
      rcases List.mem_cons.mp listed with here | later
      · rw [Prod.mk.injEq] at here
        rw [if_pos here.1.symm, here.2]
      · have named : (name, content).1 ∈ rest.map Prod.fst := List.mem_map_of_mem later
        have apart : key ≠ name := fun same => distinct.1 (same ▸ named)
        rw [if_neg apart]
        exact ih distinct.2 later

theorem entry_names (table : Table) (filled : ∀ slot ∈ table.slots, slot.2 ≠ none) :
    Entries.keys table.entries = table.names := by
  rcases table with ⟨slots⟩
  induction slots with
  | nil => rfl
  | cons slot rest ih =>
      rcases slot with ⟨key, content⟩
      rw [List.forall_mem_cons] at filled
      cases content with
      | none => exact absurd rfl filled.1
      | some spec => exact congrArg (List.cons key) (ih filled.2)

theorem slot_absent (table : Table) (name : String) (absent : name ∉ table.names) : table.slot? name = none := by
  rw [slot?, List.idxOf?_eq_none_iff.mpr absent, Option.map_none]

theorem get_absent (table : Table) (name : String) (absent : name ∉ table.names) : table.get? name = none := by
  rw [get?, table.slot_absent name absent, Option.bind_none]

end Table

namespace Definitions

theorem mem_reserve_all (definitions : List (String × Schema)) (table : Table) (name : String) :
    name ∈ (reserveAll definitions table).names ↔ name ∈ table.names ∨ name ∈ Entries.keys definitions := by
  induction definitions generalizing table with
  | nil => exact (or_iff_left List.not_mem_nil).symm
  | cons entry rest ih =>
      have first : name ∈ (table.reserve entry.1).1.names ↔ name ∈ table.names ∨ name = entry.1 := by
        rw [Table.names_reserve]
        by_cases known : entry.1 ∈ table.names
        · rw [if_pos known]
          exact (or_iff_left_of_imp fun same => same ▸ known).symm
        · rw [if_neg known, List.mem_append, List.mem_singleton]
      rw [Entries.keys, List.map_cons, List.mem_cons, ← or_assoc, ← first]
      exact ih _

theorem reserve_all_built (definitions : List (String × Schema)) (table : Table) (built : table.Built) :
    (reserveAll definitions table).Built := by
  induction definitions generalizing table with
  | nil => exact built
  | cons entry rest ih => exact ih _ (.reserve table entry.1 built)

-- The last definition gets a slot behind all others or none, so the induction is on the end of the list.
theorem reserve_all_order (definitions : List (String × Schema)) :
    (reserveAll definitions .empty).names.Pairwise fun one other =>
      (Entries.keys definitions).idxOf one < (Entries.keys definitions).idxOf other := by
  induction definitions using List.reverseRecOn with
  | nil => exact .nil
  | append_singleton earlier entry ih =>
      have inside : ∀ name ∈ (reserveAll earlier .empty).names, name ∈ Entries.keys earlier := by
        intro name listed
        exact ((mem_reserve_all earlier .empty name).mp listed).resolve_left List.not_mem_nil
      have keys : Entries.keys (earlier ++ [entry]) = Entries.keys earlier ++ [entry.1] := List.map_append
      have kept : (reserveAll earlier .empty).names.Pairwise fun one other =>
          (Entries.keys earlier ++ [entry.1]).idxOf one < (Entries.keys earlier ++ [entry.1]).idxOf other := by
        refine ih.imp_of_mem fun {one other} first second order => ?_
        rwa [List.idxOf_append_of_mem (inside one first), List.idxOf_append_of_mem (inside other second)]
      have step : (reserveAll (earlier ++ [entry]) .empty).names =
          if entry.1 ∈ (reserveAll earlier .empty).names then (reserveAll earlier .empty).names
          else (reserveAll earlier .empty).names ++ [entry.1] := by
        rw [reserveAll, List.foldl_append]
        exact Table.names_reserve _ _
      rw [step, keys]
      by_cases known : entry.1 ∈ (reserveAll earlier .empty).names
      · rwa [if_pos known]
      · have fresh : entry.1 ∉ Entries.keys earlier := fun listed =>
          known ((mem_reserve_all earlier .empty entry.1).mpr (.inr listed))
        rw [if_neg known, List.pairwise_append]
        refine ⟨kept, List.pairwise_singleton _ _, fun name listed last same => ?_⟩
        rw [List.mem_singleton.mp same, List.idxOf_append_of_mem (inside name listed),
          List.idxOf_append_of_notMem fresh]
        have bound := List.idxOf_lt_length_of_mem (inside name listed)
        omega

theorem fill_all_cons (name : String) (schema : Schema) (rest : List (String × Schema)) (table final : Table)
    (filled : (fillAll ((name, schema) :: rest) table).result = .ok final) :
    ∃ spec, schema.compileDefinition = .ok spec ∧ (fillAll rest (table.insert name spec).1).result = .ok final := by
  rw [fillAll] at filled
  cases compiled : schema.compileDefinition with
  | error cause =>
      rw [compiled] at filled
      contradiction
  | ok spec =>
      rw [compiled] at filled
      exact ⟨spec, rfl, filled⟩

theorem fill_all_other (definitions : List (String × Schema)) (table final : Table) (name : String)
    (absent : name ∉ Entries.keys definitions) (filled : (fillAll definitions table).result = .ok final) :
    final.get? name = table.get? name := by
  induction definitions generalizing table with
  | nil =>
      rw [fillAll, Except.ok.injEq] at filled
      rw [filled]
  | cons entry rest ih =>
      obtain ⟨spec, _, others⟩ := fill_all_cons _ _ rest table final filled
      rw [Entries.keys, List.map_cons, List.mem_cons, not_or] at absent
      rw [ih _ absent.2 others, Table.get_insert, if_neg absent.1]

theorem fill_all_last (before after : List (String × Schema)) (name : String) (schema : Schema)
    (last : name ∉ Entries.keys after) (table final : Table)
    (filled : (fillAll (before ++ (name, schema) :: after) table).result = .ok final) :
    ∃ spec, schema.compileDefinition = .ok spec ∧ final.get? name = some spec := by
  induction before generalizing table with
  | nil =>
      obtain ⟨spec, compiled, others⟩ := fill_all_cons name schema after table final filled
      refine ⟨spec, compiled, ?_⟩
      rw [fill_all_other after _ final name last others, Table.get_insert, if_pos rfl]
  | cons entry rest ih =>
      obtain ⟨spec, _, others⟩ := fill_all_cons _ _ _ table final filled
      exact ih _ others

theorem fill_all_failure (definitions : List (String × Schema)) (table : Table) :
    failure? (fillAll definitions table).result =
      definitions.findSome? fun pair => (failure? pair.2.compileDefinition).map (.inDefinition pair.1) := by
  induction definitions generalizing table with
  | nil => rfl
  | cons entry rest ih =>
      rcases entry with ⟨name, schema⟩
      rw [fillAll, List.findSome?_cons]
      cases compiled : schema.compileDefinition with
      | error cause => rfl
      | ok spec => exact ih _

def objectNames (pairs : List (String × Schema)) : List String := Entries.keys (ofPairs pairs).objects

theorem mem_object_names (pairs : List (String × Schema)) (name : String) :
    name ∈ objectNames pairs ↔ ∃ schema, (name, schema) ∈ pairs ∧ schema.describesObject = true := by
  simp [objectNames, Entries.keys, objects, ofPairs]

def FirstFailing (pairs : List (String × Schema)) (failure : SchemaError) : Prop :=
  ∃ before name schema after cause, pairs = before ++ (name, schema) :: after ∧
    (∀ pair ∈ before, pair.2.describesObject = true → ∃ spec, pair.2.compileDefinition = .ok spec) ∧
    schema.describesObject = true ∧ schema.compileDefinition = .error cause ∧ failure = .inDefinition name cause

def LastObject (pairs : List (String × Schema)) (name : String) (schema : Schema) : Prop :=
  ∃ before after, pairs = before ++ (name, schema) :: after ∧ schema.describesObject = true ∧
    ∀ pair ∈ after, pair.2.describesObject = true → pair.1 ≠ name

def pairFailure? (pair : String × Schema) : Option SchemaError :=
  if pair.2.describesObject then (failure? pair.2.compileDefinition).map (.inDefinition pair.1) else none

theorem pair_failure_some (name : String) (schema : Schema) (failure : SchemaError) :
    pairFailure? (name, schema) = some failure ↔
      schema.describesObject = true ∧ ∃ cause, schema.compileDefinition = .error cause ∧
        failure = .inDefinition name cause := by
  rw [pairFailure?]
  by_cases object : schema.describesObject = true
  · rw [if_pos object, Option.map_eq_some_iff, and_iff_right object]
    exact exists_congr fun cause => and_congr (failure_some _ cause) eq_comm
  · simp [object]

theorem pair_failure_none (pair : String × Schema) :
    pairFailure? pair = none ↔ (pair.2.describesObject = true → ∃ spec, pair.2.compileDefinition = .ok spec) := by
  rw [pairFailure?]
  by_cases object : pair.2.describesObject = true
  · rw [if_pos object, Option.map_eq_none_iff, failure_none, forall_prop_of_true object]
  · simp [object]

theorem compile_failure (pairs : List (String × Schema)) :
    failure? (ofPairs pairs).compile = pairs.findSome? pairFailure? := by
  have kept : ∀ list : List (String × Schema),
      (list.filter (·.2.describesObject)).findSome?
        (fun pair => (failure? pair.2.compileDefinition).map (.inDefinition pair.1)) =
        list.findSome? pairFailure? := by
    intro list
    induction list with
    | nil => rfl
    | cons pair rest ih =>
        by_cases object : pair.2.describesObject = true
        · rw [List.filter_cons, if_pos object, List.findSome?_cons, List.findSome?_cons, pairFailure?, if_pos object, ih]
        · rw [List.filter_cons, if_neg object, List.findSome?_cons, pairFailure?, if_neg object, ih]
  rw [compile_by_name]
  exact (fill_all_failure _ _).trans (kept pairs)

theorem compile_fails_first (pairs : List (String × Schema)) (failure : SchemaError) :
    (ofPairs pairs).compile = .error failure ↔ FirstFailing pairs failure := by
  rw [← failure_some, compile_failure, List.findSome?_eq_some_iff]
  constructor
  · rintro ⟨before, ⟨name, schema⟩, after, same, fails, passed⟩
    obtain ⟨object, cause, failed, wrapped⟩ := (pair_failure_some name schema failure).mp fails
    have compiles := fun pair listed => (pair_failure_none pair).mp (passed pair listed)
    exact ⟨before, name, schema, after, cause, same, compiles, object, failed, wrapped⟩
  · rintro ⟨before, name, schema, after, cause, same, passed, object, failed, wrapped⟩
    have fails := (pair_failure_some name schema failure).mpr ⟨object, cause, failed, wrapped⟩
    exact ⟨before, (name, schema), after, same, fails,
      fun pair listed => (pair_failure_none pair).mpr (passed pair listed)⟩

theorem last_object_exists (pairs : List (String × Schema)) (name : String) (listed : name ∈ objectNames pairs) :
    ∃ schema, LastObject pairs name schema := by
  induction pairs with
  | nil => exact absurd listed List.not_mem_nil
  | cons pair rest ih =>
      by_cases later : name ∈ objectNames rest
      · obtain ⟨schema, before, after, same, last⟩ := ih later
        exact ⟨schema, pair :: before, after, congrArg (List.cons pair) same, last⟩
      · obtain ⟨schema, here, object⟩ := (mem_object_names (pair :: rest) name).mp listed
        have others : ∀ other ∈ rest, other.2.describesObject = true → other.1 ≠ name := by
          rintro other inside describes rfl
          exact later ((mem_object_names rest other.1).mpr ⟨other.2, inside, describes⟩)
        rcases List.mem_cons.mp here with first | again
        · exact ⟨schema, [], rest, congrArg (· :: rest) first.symm, object, others⟩
        · exact absurd rfl (others _ again object)

section

variable (pairs : List (String × Schema)) (table : Table) (compiled : (ofPairs pairs).compile = .ok table)
include compiled

theorem compiled_names : table.names = (reserveAll (ofPairs pairs).objects .empty).names := by
  rw [compile_by_name] at compiled
  refine fill_all_names _ _ table (fun name listed => ?_) compiled
  exact (mem_reserve_all _ .empty name).mpr (.inr listed)

theorem compiled_distinct : table.names.Nodup := by
  rw [compiled_names pairs table compiled]
  exact Table.built_distinct _ (reserve_all_built _ _ .empty)

theorem mem_compiled_names (name : String) : name ∈ table.names ↔ name ∈ objectNames pairs := by
  rw [compiled_names pairs table compiled, mem_reserve_all]
  exact or_iff_right List.not_mem_nil

theorem last_compiled (name : String) (schema : Schema) (last : LastObject pairs name schema) :
    ∃ spec, schema.compileDefinition = .ok spec ∧ table.get? name = some spec := by
  obtain ⟨before, after, same, object, others⟩ := last
  have kept : (ofPairs pairs).objects =
      before.filter (·.2.describesObject) ++ (name, schema) :: after.filter (·.2.describesObject) := by
    rw [objects, ofPairs, same, List.filter_append, List.filter_cons, if_pos object]
  have final : name ∉ Entries.keys (after.filter (·.2.describesObject)) := by
    intro listed
    obtain ⟨pair, inside, again⟩ := List.mem_map.mp listed
    obtain ⟨member, describes⟩ := List.mem_filter.mp inside
    exact others pair member describes again
  rw [compile_by_name, kept] at compiled
  exact fill_all_last _ _ name schema final _ table compiled

theorem name_compiled (name : String) (named : name ∈ table.names) :
    ∃ schema spec, LastObject pairs name schema ∧ schema.compileDefinition = .ok spec ∧ table.get? name = some spec := by
  have object := (mem_compiled_names pairs table compiled name).mp named
  obtain ⟨schema, last⟩ := last_object_exists pairs name object
  obtain ⟨spec, same, stored⟩ := last_compiled pairs table compiled name schema last
  exact ⟨schema, spec, last, same, stored⟩

theorem get_last_compiled (name : String) (spec : Spec) :
    table.get? name = some spec ↔ ∃ schema, LastObject pairs name schema ∧ schema.compileDefinition = .ok spec := by
  constructor
  · intro found
    have named : name ∈ table.names := by
      by_contra absent
      rw [table.get_absent name absent] at found
      contradiction
    obtain ⟨schema, other, last, same, stored⟩ := name_compiled pairs table compiled name named
    rw [found, Option.some.injEq] at stored
    exact ⟨schema, last, stored ▸ same⟩
  · rintro ⟨schema, last, same⟩
    obtain ⟨other, again, stored⟩ := last_compiled pairs table compiled name schema last
    rw [same, Except.ok.injEq] at again
    rwa [again]

theorem compiled_filled : ∀ slot ∈ table.slots, slot.2 ≠ none := by
  rintro ⟨name, content⟩ listed empty
  have named : name ∈ table.names := List.mem_map.mpr ⟨(name, content), listed, rfl⟩
  obtain ⟨_, spec, _, _, stored⟩ := name_compiled pairs table compiled name named
  have held := table.slot_get (compiled_distinct pairs table compiled) name content listed
  exact Option.some_ne_none spec (stored.symm.trans (held.trans empty))

theorem compiled_size : table.names.length = (objectNames pairs).dedup.length := by
  have distinct := compiled_distinct pairs table compiled
  refine ((List.perm_ext_iff_of_nodup distinct (List.nodup_dedup _)).mpr fun name => ?_).length_eq
  rw [mem_compiled_names pairs table compiled, List.mem_dedup]

end

-- What is collected from pairs in which names may repeat. A name stands where it first stood for an
-- object, with what it stood for last.
structure Collected (pairs : List (String × Schema)) (table : Table) : Prop where
  once : (Entries.keys table.entries).Nodup
  listed : ∀ name, name ∈ Entries.keys table.entries ↔ name ∈ objectNames pairs
  order : (Entries.keys table.entries).Pairwise fun one other =>
    (objectNames pairs).idxOf one < (objectNames pairs).idxOf other
  content : ∀ name spec, (name, spec) ∈ table.entries ↔
    ∃ schema, LastObject pairs name schema ∧ schema.compileDefinition = .ok spec
  found : ∀ name spec, table.get? name = some spec ↔ (name, spec) ∈ table.entries
  filled : ∀ slot ∈ table.slots, slot.2 ≠ none
  size : table.size = (objectNames pairs).dedup.length
  absent : ∀ name, name ∉ objectNames pairs →
    table.get? name = none ∧ table.contains name = false ∧ table.slot? name = none

theorem collected (pairs : List (String × Schema)) (table : Table) (compiled : (ofPairs pairs).compile = .ok table) :
    Collected pairs table := by
  have distinct := compiled_distinct pairs table compiled
  have named := mem_compiled_names pairs table compiled
  have filled := compiled_filled pairs table compiled
  have keys := table.entry_names filled
  have found : ∀ name spec, table.get? name = some spec ↔ (name, spec) ∈ table.entries := fun name spec =>
    ⟨table.get_entry name spec, table.entry_get distinct name spec⟩
  constructor
  case once => exact keys ▸ distinct
  case listed => exact keys ▸ named
  case order =>
    rw [keys, compiled_names pairs table compiled]
    exact reserve_all_order (ofPairs pairs).objects
  case content =>
    intro name spec
    rw [← found, get_last_compiled pairs table compiled]
  case found => exact found
  case filled => exact filled
  case size =>
    rw [← compiled_size pairs table compiled, ← keys, Entries.keys, List.length_map, Table.size]
  case absent =>
    intro name other
    have unnamed : name ∉ table.names := fun listed => other ((named name).mp listed)
    have missing := table.get_absent name unnamed
    refine ⟨missing, ?_, table.slot_absent name unnamed⟩
    rw [Table.contains, missing, Option.isSome_none]

theorem compile_fails (pairs : List (String × Schema)) :
    (∃ failure, (ofPairs pairs).compile = .error failure) ↔
      ∃ pair ∈ pairs, pair.2.describesObject = true ∧ ∃ cause, pair.2.compileDefinition = .error cause := by
  rw [failure_exists, compile_succeeds]
  simp only [not_forall, exists_prop, failure_exists, ofPairs]

theorem compile_collects (pairs : List (String × Schema)) :
    ((∃ failure, (ofPairs pairs).compile = .error failure) ↔
      ∃ pair ∈ pairs, pair.2.describesObject = true ∧ ∃ cause, pair.2.compileDefinition = .error cause) ∧
    (∀ failure, (ofPairs pairs).compile = .error failure ↔ FirstFailing pairs failure) ∧
    ((∃ table, (ofPairs pairs).compile = .ok table ∧ Collected pairs table) ↔
      ∀ pair ∈ pairs, pair.2.describesObject = true → ∃ spec, pair.2.compileDefinition = .ok spec) ∧
    ∀ table, (ofPairs pairs).compile = .ok table → Collected pairs table := by
  refine ⟨compile_fails pairs, compile_fails_first pairs, ?_, collected pairs⟩
  refine Iff.trans ?_ (ofPairs pairs).compile_succeeds
  exact exists_congr fun table => and_iff_left_of_imp (collected pairs table)

def holding (goods : String) : Schema :=
  ⟨some "object", none, none, some [("goods", ⟨some goods, none, none, none, [], none, none⟩)], [], none, none⟩

def labelText : Schema := ⟨some "string", none, none, none, [], none, none⟩

def boxPairs : List (String × Schema) :=
  [("label", labelText), ("box", holding "string"), ("lid", holding "number"), ("box", holding "boolean"),
    ("lid", labelText)]

def boxTable : Table :=
  ⟨[("box", some (.shape [⟨"goods", .primitive .boolean, false⟩] false)),
    ("lid", some (.shape [⟨"goods", .primitive .number, false⟩] false))]⟩

def brokenPairs : List (String × Schema) :=
  [("label", labelText), ("lid", holding "paper"), ("lid", holding "number"), ("box", holding "glass")]

theorem boxes_collected :
    (ofPairs boxPairs).compile = .ok boxTable ∧ Collected boxPairs boxTable ∧
      FirstFailing brokenPairs (.inDefinition "lid" (.inProperty "goods" (.unknownType "paper"))) := by
  have passed : (ofPairs boxPairs).compile = .ok boxTable := rfl
  have failed : (ofPairs brokenPairs).compile =
      .error (.inDefinition "lid" (.inProperty "goods" (.unknownType "paper"))) := rfl
  exact ⟨passed, (compile_collects boxPairs).2.2.2 boxTable passed, ((compile_collects brokenPairs).2.1 _).mp failed⟩

end Definitions

end ShapeCheck
