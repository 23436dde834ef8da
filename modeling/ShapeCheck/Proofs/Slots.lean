import Mathlib.Data.List.Basic
import Mathlib.Data.List.Nodup
import ShapeCheck.Spec.Table

set_option autoImplicit false

namespace ShapeCheck.Table

@[simp] theorem get_nil (name : String) : (Table.mk []).get? name = none := rfl

theorem get_cons (key name : String) (content : Option Spec) (rest : List (String × Option Spec)) :
    (Table.mk ((key, content) :: rest)).get? name = if key = name then content else (Table.mk rest).get? name := by
  simp only [get?, slot?, names, List.map_cons, List.idxOf?_cons, beq_iff_eq]
  by_cases same : key = name
  · simp [same, specAt?]
  · rw [if_neg same, if_neg same]
    cases List.idxOf? name (rest.map Prod.fst) with
    | none => rfl
    | some position => simp [specAt?]

theorem get_entry (table : Table) (name : String) (spec : Spec) (found : table.get? name = some spec) :
    (name, spec) ∈ table.entries := by
  rcases table with ⟨slots⟩
  induction slots with
  | nil => simp at found
  | cons slot rest ih =>
      rcases slot with ⟨key, content⟩
      rw [get_cons] at found
      by_cases same : key = name
      · rw [if_pos same] at found
        simp [entries, found, same]
      · rw [if_neg same] at found
        have later := ih found
        simp only [entries, List.mem_filterMap] at later ⊢
        obtain ⟨other, listed, kept⟩ := later
        exact ⟨other, List.mem_cons_of_mem _ listed, kept⟩

@[simp] theorem insert_nil (name : String) (spec : Spec) : ((Table.mk []).insert name spec).1 = ⟨[(name, some spec)]⟩ := rfl

theorem insert_cons (key name : String) (content : Option Spec) (rest : List (String × Option Spec)) (spec : Spec) :
    ((Table.mk ((key, content) :: rest)).insert name spec).1 =
      if key = name then ⟨(key, some spec) :: rest⟩
      else ⟨(key, content) :: ((Table.mk rest).insert name spec).1.slots⟩ := by
  simp only [insert, reserve, slot?, names, List.map_cons, List.idxOf?_cons, beq_iff_eq]
  by_cases same : key = name
  · simp [same, fill]
  · rw [if_neg same, if_neg same]
    cases List.idxOf? name (rest.map Prod.fst) with
    | none => simp [fill]
    | some position => simp [fill]

theorem get_insert (table : Table) (name query : String) (spec : Spec) :
    (table.insert name spec).1.get? query = if query = name then some spec else table.get? query := by
  rcases table with ⟨slots⟩
  induction slots with
  | nil =>
      rw [insert_nil, get_cons, get_nil]
      by_cases same : query = name
      · rw [if_pos same.symm, if_pos same]
      · rw [if_neg (Ne.symm same), if_neg same]
  | cons slot rest ih =>
      rcases slot with ⟨key, content⟩
      rw [insert_cons]
      by_cases here : key = name
      · rw [if_pos here, get_cons, get_cons, here]
        by_cases same : query = name
        · rw [if_pos same.symm, if_pos same]
        · rw [if_neg (Ne.symm same), if_neg (Ne.symm same), if_neg same]
      · rw [if_neg here, get_cons, get_cons]
        by_cases first : key = query
        · rw [if_pos first, if_pos first, if_neg (first ▸ here)]
        · rw [if_neg first, if_neg first]
          exact ih

@[simp] theorem get_reserve (table : Table) (name query : String) : (table.reserve name).1.get? query = table.get? query := by
  have appended : ∀ slots : List (String × Option Spec),
      (Table.mk (slots ++ [(name, none)])).get? query = (Table.mk slots).get? query := by
    intro slots
    induction slots with
    | nil =>
        rw [List.nil_append, get_cons, get_nil]
        by_cases same : name = query
        · rw [if_pos same]
        · rw [if_neg same]
    | cons slot rest ih =>
        rcases slot with ⟨key, content⟩
        rw [List.cons_append, get_cons, get_cons, ih]
  rw [reserve]
  cases table.slot? name with
  | some id => rfl
  | none => exact appended table.slots

theorem entry_get (table : Table) (distinct : table.names.Nodup) (name : String) (spec : Spec)
    (entry : (name, spec) ∈ table.entries) : table.get? name = some spec := by
  rcases table with ⟨slots⟩
  induction slots with
  | nil => simp [entries] at entry
  | cons slot rest ih =>
      rcases slot with ⟨key, content⟩
      rw [names, List.map_cons, List.nodup_cons] at distinct
      rw [get_cons]
      obtain ⟨other, listed, kept⟩ := List.mem_filterMap.mp entry
      obtain ⟨held, filled, same⟩ := Option.map_eq_some_iff.mp kept
      rw [Prod.mk.injEq] at same
      rcases List.mem_cons.mp listed with here | later
      · subst here
        rw [if_pos same.1, ← same.2]
        exact filled
      · have named : name ∈ rest.map Prod.fst := same.1 ▸ List.mem_map_of_mem later
        have apart : key ≠ name := fun again => distinct.1 (again ▸ named)
        rw [if_neg apart]
        exact ih distinct.2 (List.mem_filterMap.mpr ⟨other, later, kept⟩)

theorem names_reserve (table : Table) (name : String) :
    (table.reserve name).1.names = if name ∈ table.names then table.names else table.names ++ [name] := by
  rw [reserve, slot?]
  cases known : table.names.idxOf? name with
  | none =>
      rw [List.idxOf?_eq_none_iff] at known
      rw [if_neg known, Option.map_none]
      simp [names]
  | some position =>
      have listed : name ∈ table.names := by
        by_contra absent
        rw [List.idxOf?_eq_none_iff.mpr absent] at known
        contradiction
      rw [if_pos listed, Option.map_some]

@[simp] theorem names_fill (table : Table) (id : SlotId) (spec : Spec) : (table.fill id spec).names = table.names := by
  apply List.ext_getElem?
  intro position
  simp only [fill, names, List.getElem?_map, List.getElem?_modify]
  cases table.slots[position]? with
  | none => rfl
  | some slot => by_cases here : id.index = position <;> simp [here]

@[simp] theorem slot_fill (table : Table) (id : SlotId) (spec : Spec) (name : String) :
    (table.fill id spec).slot? name = table.slot? name := by
  rw [slot?, names_fill, slot?]

theorem slot_appended (table : Table) (name : String) (fresh : table.slot? name = none) (query : String) :
    slot? ⟨table.slots ++ [(name, none)]⟩ query =
      if query = name then some ⟨table.slots.length⟩ else table.slot? query := by
  rw [slot?, names, List.map_append, List.idxOf?, List.findIdx?_append]
  by_cases here : query = name
  · subst here
    rw [slot?, Option.map_eq_none_iff, names, List.idxOf?] at fresh
    simp [fresh, List.findIdx?_cons]
  · have apart : ¬ name = query := fun same => here same.symm
    simp [here, apart, List.findIdx?_cons, slot?, names, List.idxOf?]

theorem reserve_slot (table : Table) (name : String) :
    (table.reserve name).1.slot? name = some (table.reserve name).2 := by
  rw [reserve]
  cases found : table.slot? name with
  | some id => exact found
  | none => rw [slot_appended table name found, if_pos rfl]

theorem slot_reserve (table : Table) (name query : String) (id : SlotId) (found : table.slot? query = some id) :
    (table.reserve name).1.slot? query = some id := by
  rw [reserve]
  cases known : table.slot? name with
  | some other => exact found
  | none =>
      have apart : query ≠ name := by
        rintro rfl
        rw [known] at found
        contradiction
      rw [slot_appended table name known, if_neg apart, found]

theorem insert_known (table : Table) (name : String) (spec : Spec) (id : SlotId) (found : table.slot? name = some id) :
    (table.insert name spec).1 = table.fill id spec := by
  rw [insert, reserve, found]

theorem names_insert (table : Table) (name : String) (spec : Spec) :
    (table.insert name spec).1.names = if name ∈ table.names then table.names else table.names ++ [name] :=
  (names_fill _ _ spec).trans (names_reserve table name)

theorem entries_by_name (table : Table) (distinct : table.names.Nodup) :
    table.entries = table.names.filterMap fun name => (table.get? name).map fun spec => (name, spec) := by
  rcases table with ⟨slots⟩
  induction slots with
  | nil => rfl
  | cons slot rest ih =>
      rcases slot with ⟨key, content⟩
      rw [names, List.map_cons, List.nodup_cons] at distinct
      have later : (rest.map Prod.fst).filterMap (fun name => ((Table.mk ((key, content) :: rest)).get? name).map
          fun spec => (name, spec)) = (Table.mk rest).entries := by
        rw [ih distinct.2]
        refine List.filterMap_congr fun name listed => ?_
        have apart : key ≠ name := fun same => distinct.1 (same ▸ listed)
        rw [get_cons, if_neg apart]
      rw [names, List.map_cons, List.filterMap_cons, later, get_cons, if_pos rfl]
      cases content <;> rfl

-- The tables that come about: names are reserved and slots filled, in any order and any number
-- of times. To insert is to do both.
inductive Built : Table → Prop where
  | empty : Built .empty
  | reserve (table : Table) (name : String) (built : Built table) : Built (table.reserve name).1
  | fill (table : Table) (id : SlotId) (spec : Spec) (built : Built table) : Built (table.fill id spec)

theorem built_insert (table : Table) (name : String) (spec : Spec) (built : table.Built) :
    (table.insert name spec).1.Built :=
  .fill _ _ spec (.reserve table name built)

theorem built_distinct (table : Table) (built : table.Built) : table.names.Nodup := by
  induction built with
  | empty => exact .nil
  | reserve table name _ ih =>
      rw [names_reserve]
      by_cases known : name ∈ table.names
      · rwa [if_pos known]
      · rw [if_neg known, ← List.concat_eq_append]
        exact ih.concat known
  | fill table id spec _ ih => rwa [names_fill]

theorem contains_iff (table : Table) (name : String) : table.contains name = true ↔ ∃ spec, table.get? name = some spec := by
  rw [contains, Option.isSome_iff_exists]

def notice (table : Table) (missing : List String) (name : String) : List String :=
  if table.contains name || missing.contains name then missing else missing ++ [name]

theorem mem_notice (table : Table) (missing : List String) (name query : String) :
    query ∈ table.notice missing name ↔ query ∈ missing ∨ query = name ∧ table.get? query = none := by
  rw [notice, contains]
  cases found : table.get? name with
  | some spec =>
      have filled : query = name → table.get? query ≠ none := by
        intro same
        rw [same, found]
        exact Option.some_ne_none spec
      rw [Option.isSome_some, Bool.true_or, if_pos rfl, or_iff_left]
      exact fun both => filled both.1 both.2
  | none =>
      rw [Option.isSome_none, Bool.false_or]
      by_cases known : name ∈ missing
      · rw [if_pos (List.contains_iff_mem.mpr known), or_iff_left_of_imp]
        exact fun both => both.1 ▸ known
      · have fresh : ¬ missing.contains name = true := fun listed => known (List.contains_iff_mem.mp listed)
        rw [if_neg fresh, List.mem_append, List.mem_singleton]
        apply or_congr_right
        exact (and_iff_left_of_imp fun same => same ▸ found).symm

theorem mem_dangling (table : Table) (name : String) :
    name ∈ table.dangling ↔ name ∈ table.references ∧ table.get? name = none := by
  have scan : ∀ names missing : List String,
      name ∈ names.foldl table.notice missing ↔ name ∈ missing ∨ name ∈ names ∧ table.get? name = none := by
    intro names
    induction names with
    | nil => simp
    | cons first rest ih =>
        intro missing
        rw [List.foldl_cons, ih, mem_notice, List.mem_cons, or_assoc, or_and_right]
  exact (scan table.references []).trans (or_iff_right List.not_mem_nil)

theorem dangling_distinct (table : Table) : table.dangling.Nodup := by
  have scan : ∀ names missing : List String, missing.Nodup → (names.foldl table.notice missing).Nodup := by
    intro names
    induction names with
    | nil => exact fun _ distinct => distinct
    | cons first rest ih =>
        intro missing distinct
        apply ih
        rw [notice]
        split
        · exact distinct
        · rename_i unseen
          have fresh : first ∉ missing := fun listed => unseen (by simp [listed])
          rw [← List.concat_eq_append]
          exact distinct.concat fresh
  exact scan table.references [] .nil

end ShapeCheck.Table
