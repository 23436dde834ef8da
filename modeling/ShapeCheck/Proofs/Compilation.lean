import Mathlib.Data.List.Forall2
import ShapeCheck.Proofs.Faults
import ShapeCheck.Proofs.Forms
import ShapeCheck.Proofs.Registration
import ShapeCheck.Proofs.Trees

set_option autoImplicit false

namespace ShapeCheck

namespace Definitions

theorem reserve_all_empty (definitions : List (String × Schema)) (table : Table) (query : String) :
    (reserveAll definitions table).get? query = table.get? query := by
  induction definitions generalizing table with
  | nil => rfl
  | cons entry rest ih =>
      rw [reserveAll, List.foldl_cons]
      exact (ih _).trans (table.get_reserve entry.1 query)

theorem fill_all_get (definitions : List (String × Schema)) (distinct : (Entries.keys definitions).Nodup)
    (table final : Table) (filled : (fillAll definitions table).result = .ok final) (query : String) :
    match Entries.get? query definitions with
    | some schema => ∃ spec, schema.compileDefinition = .ok spec ∧ final.get? query = some spec
    | none => final.get? query = table.get? query := by
  induction definitions generalizing table with
  | nil =>
      rw [fillAll, Except.ok.injEq] at filled
      rw [← filled]
      rfl
  | cons entry rest ih =>
      rcases entry with ⟨name, schema⟩
      rw [Entries.keys, List.map_cons, List.nodup_cons] at distinct
      rw [fillAll] at filled
      cases compiled : schema.compileDefinition with
      | error cause =>
          rw [compiled] at filled
          contradiction
      | ok spec =>
          rw [compiled] at filled
          have others := ih distinct.2 _ filled
          rw [Entries.get?]
          by_cases same : name = query
          · have absent := Entries.get_fresh name rest distinct.1
            rw [← same, absent] at others
            rw [if_pos same]
            refine ⟨spec, compiled, ?_⟩
            rw [← same, others, Table.get_insert, if_pos rfl]
          · rw [if_neg same]
            cases found : Entries.get? query rest with
            | none =>
                rw [found] at others
                rw [others, Table.get_insert, if_neg (Ne.symm same)]
            | some other =>
                rw [found] at others
                exact others

theorem read_members_keys (members : List (String × Json)) (entries : List (String × Schema))
    (read : readMembers members = .ok entries) : Entries.keys entries = Entries.keys members := by
  induction members generalizing entries with
  | nil =>
      rw [readMembers, Except.ok.injEq] at read
      rw [← read]
      rfl
  | cons member rest ih =>
      rcases member with ⟨name, value⟩
      rw [readMembers] at read
      obtain ⟨schema, _, read⟩ := bind_passed _ _ _ read
      obtain ⟨others, later, read⟩ := bind_passed _ _ _ read
      cases read
      exact congrArg (List.cons name) (ih others later)

theorem read_distinct (json : Json) (definitions : Definitions) (distinct : json.DistinctKeys)
    (read : ofJson json = .ok definitions) : (Entries.keys definitions.entries).Nodup := by
  cases json with
  | scalar content => contradiction
  | array items => contradiction
  | object members =>
      rw [ofJson] at read
      cases entries : readMembers members with
      | error defect =>
          rw [entries] at read
          contradiction
      | ok named =>
          rw [entries] at read
          cases read
          rw [ofPairs, read_members_keys members named entries]
          exact distinct.1

theorem objects_distinct (definitions : Definitions) (distinct : (Entries.keys definitions.entries).Nodup) :
    (Entries.keys definitions.objects).Nodup :=
  List.Nodup.sublist (List.Sublist.map _ List.filter_sublist) distinct

structure Represents (definitions : Definitions) (table : Table) : Prop where
  entry : ∀ name schema, definitions.get? name = some schema → schema.describesObject = true →
    ∃ spec, schema.compileDefinition = .ok spec ∧ table.get? name = some spec
  source : ∀ name spec, table.get? name = some spec →
    ∃ schema, definitions.get? name = some schema ∧ schema.compileDefinition = .ok spec

theorem compile_represents (definitions : Definitions) (table : Table)
    (distinct : (Entries.keys definitions.entries).Nodup) (compiled : definitions.compile = .ok table) :
    definitions.Represents table := by
  have kept := definitions.objects_distinct distinct
  rw [compile_by_name] at compiled
  have filled := fill_all_get definitions.objects kept _ table compiled
  constructor
  · intro name schema found object
    have given := filled name
    rw [objects, Entries.get_filter name _ Schema.describesObject distinct schema found object] at given
    exact given
  · intro name spec entry
    have given := filled name
    cases listed : Entries.get? name definitions.objects with
    | none =>
        rw [listed, reserve_all_empty, entry] at given
        contradiction
    | some schema =>
        rw [listed] at given
        obtain ⟨other, same, stored⟩ := given
        rw [entry, Option.some.injEq] at stored
        have kept := Entries.get_mem name schema definitions.objects listed
        have member : (name, schema) ∈ definitions.entries := List.mem_of_mem_filter kept
        have found := get_distinct definitions.entries distinct (name, schema) member
        exact ⟨schema, found, stored ▸ same⟩

theorem represents_direct (definitions : Definitions) (table : Table) (represents : definitions.Represents table) :
    table.Direct := by
  intro name spec entry
  obtain ⟨schema, _, compiled⟩ := represents.source name spec entry
  have form := schema.compile_object_form .definition spec rfl compiled
  exact Schema.object_form_direct .definition schema spec form

def compiled? (pair : String × Schema) : Option (String × Spec) :=
  if pair.2.describesObject then
    match pair.2.compileDefinition with
    | .ok spec => some (pair.1, spec)
    | .error _ => none
  else none

theorem reserve_all_names (definitions : List (String × Schema)) (table : Table)
    (distinct : (Entries.keys definitions).Nodup) (fresh : ∀ name ∈ Entries.keys definitions, name ∉ table.names) :
    (reserveAll definitions table).names = table.names ++ Entries.keys definitions := by
  induction definitions generalizing table with
  | nil => exact (List.append_nil _).symm
  | cons entry rest ih =>
      rw [Entries.keys, List.map_cons, List.nodup_cons] at distinct
      rw [Entries.keys, List.map_cons] at fresh
      have added : (table.reserve entry.1).1.names = table.names ++ [entry.1] := by
        rw [Table.names_reserve, if_neg (fresh entry.1 List.mem_cons_self)]
      have others : ∀ name ∈ Entries.keys rest, name ∉ (table.reserve entry.1).1.names := by
        intro name listed
        rw [added, List.mem_append, List.mem_singleton, not_or]
        exact ⟨fresh name (List.mem_cons_of_mem _ listed), fun same => distinct.1 (same ▸ listed)⟩
      have later := ih _ distinct.2 others
      rw [added, List.append_assoc] at later
      exact later

theorem fill_all_names (definitions : List (String × Schema)) (table final : Table)
    (reserved : ∀ name ∈ Entries.keys definitions, name ∈ table.names)
    (filled : (fillAll definitions table).result = .ok final) : final.names = table.names := by
  induction definitions generalizing table with
  | nil =>
      rw [fillAll, Except.ok.injEq] at filled
      rw [filled]
  | cons entry rest ih =>
      rcases entry with ⟨name, schema⟩
      rw [Entries.keys, List.map_cons, List.forall_mem_cons] at reserved
      rw [fillAll] at filled
      cases compiled : schema.compileDefinition with
      | error cause =>
          rw [compiled] at filled
          contradiction
      | ok spec =>
          rw [compiled] at filled
          have kept : (table.insert name spec).1.names = table.names := by
            rw [Table.names_insert, if_pos reserved.1]
          rw [← kept]
          exact ih _ (fun other listed => kept ▸ reserved.2 other listed) filled

theorem fill_all_succeeds (definitions : List (String × Schema)) (table : Table) :
    (∃ final, (fillAll definitions table).result = .ok final) ↔
      ∀ pair ∈ definitions, ∃ spec, pair.2.compileDefinition = .ok spec := by
  induction definitions generalizing table with
  | nil => exact ⟨fun _ _ listed => absurd listed List.not_mem_nil, fun _ => ⟨table, rfl⟩⟩
  | cons entry rest ih =>
      rcases entry with ⟨name, schema⟩
      rw [List.forall_mem_cons, fillAll]
      cases compiled : schema.compileDefinition with
      | error cause => simp
      | ok spec => simp [ih]

theorem compile_succeeds (definitions : Definitions) :
    (∃ table, definitions.compile = .ok table) ↔
      ∀ pair ∈ definitions.entries, pair.2.describesObject = true → ∃ spec, pair.2.compileDefinition = .ok spec := by
  rw [compile_by_name]
  refine (fill_all_succeeds definitions.objects _).trans ?_
  simp only [objects, List.mem_filter, and_imp]

theorem compile_names (definitions : Definitions) (distinct : (Entries.keys definitions.entries).Nodup)
    (table : Table) (compiled : definitions.compile = .ok table) : table.names = Entries.keys definitions.objects := by
  have kept := definitions.objects_distinct distinct
  have reserved : (reserveAll definitions.objects .empty).names = Entries.keys definitions.objects :=
    reserve_all_names definitions.objects .empty kept fun _ _ => List.not_mem_nil
  have inside : ∀ name ∈ Entries.keys definitions.objects, name ∈ (reserveAll definitions.objects .empty).names := by
    intro name listed
    rwa [reserved]
  rw [compile_by_name] at compiled
  exact (fill_all_names definitions.objects _ table inside compiled).trans reserved

theorem compile_entries (definitions : Definitions) (distinct : (Entries.keys definitions.entries).Nodup)
    (table : Table) (compiled : definitions.compile = .ok table) : table.entries = definitions.entries.filterMap compiled? := by
  have kept := definitions.objects_distinct distinct
  have named := compile_names definitions distinct table compiled
  rw [compile_by_name] at compiled
  have each : ∀ pair ∈ definitions.objects,
      (table.get? pair.1).map (fun spec => (pair.1, spec)) = compiled? pair := by
    intro pair listed
    have given := fill_all_get definitions.objects kept _ table compiled pair.1
    rw [get_distinct definitions.objects kept pair listed] at given
    obtain ⟨spec, same, stored⟩ := given
    rw [stored, compiled?, if_pos (List.mem_filter.mp listed).2, same]
    rfl
  have skipped : ∀ pair ∈ definitions.entries,
      (if pair.2.describesObject then compiled? pair else none) = compiled? pair := by
    intro pair _
    rw [compiled?]
    split <;> rfl
  rw [table.entries_by_name (named ▸ kept), named, Entries.keys, List.filterMap_map]
  refine (List.filterMap_congr each).trans ?_
  rw [objects, List.filterMap_filter]
  exact List.filterMap_congr skipped

end Definitions

end ShapeCheck
