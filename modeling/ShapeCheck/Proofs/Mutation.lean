import Mathlib.Data.List.Induction
import ShapeCheck.Proofs.HeapData
import ShapeCheck.Proofs.Histories
import ShapeCheck.Proofs.Survey

set_option autoImplicit false

namespace ShapeCheck

namespace Entries

variable {α : Type}

theorem of_pairs_append (pairs : List (String × α)) (pair : String × α) :
    ofPairs (pairs ++ [pair]) = insert pair.1 pair.2 (ofPairs pairs) :=
  List.foldl_append

theorem of_pairs_keys (pairs : List (String × α)) : keys (ofPairs pairs) = (keys pairs).eraseDups := by
  induction pairs using List.reverseRecOn with
  | nil => rfl
  | append_singleton earlier pair ih =>
      have given : keys (earlier ++ [pair]) = keys earlier ++ [pair.1] := List.map_append
      rw [of_pairs_append, keys_insert, ih, given, Table.erase_dups_append]

theorem of_pairs_get (pairs : List (String × α)) (key : String) :
    get? key (ofPairs pairs) = (pairs.reverse.find? (·.1 == key)).map Prod.snd := by
  induction pairs using List.reverseRecOn with
  | nil => rfl
  | append_singleton earlier pair ih =>
      rw [of_pairs_append, get_insert, ih, List.reverse_append, List.reverse_singleton, List.singleton_append,
        List.find?_cons]
      by_cases here : key = pair.1
      · simp [here]
      · have apart : (pair.1 == key) = false := beq_false_of_ne (Ne.symm here)
        rw [if_neg here, apart]

theorem of_pairs_nodup (pairs : List (String × α)) : (keys (ofPairs pairs)).Nodup := by
  induction pairs using List.reverseRecOn with
  | nil => exact List.nodup_nil
  | append_singleton earlier pair ih =>
      rw [of_pairs_append]
      exact insert_keys_distinct pair.1 pair.2 _ ih

theorem of_pairs_mem (pairs : List (String × α)) (key : String) (value : α) (listed : (key, value) ∈ ofPairs pairs) :
    (key, value) ∈ pairs := by
  have found := get_distinct (ofPairs pairs) (of_pairs_nodup pairs) (key, value) listed
  rw [of_pairs_get, Option.map_eq_some_iff] at found
  obtain ⟨⟨name, content⟩, last, rfl⟩ := found
  obtain rfl : name = key := by simpa using List.find?_some last
  exact List.mem_reverse.mp (List.mem_of_find?_eq_some last)

theorem insert_place (key : String) (value : α) (entries : Entries α) (distinct : (keys entries).Nodup)
    (position : Nat) (name : String) (old : α) (placed : entries[position]? = some (name, old)) :
    (insert key value entries)[position]? = some (name, if name = key then value else old) := by
  induction entries generalizing position with
  | nil => simp at placed
  | cons entry rest ih =>
      rcases entry with ⟨first, content⟩
      rw [keys, List.map_cons, List.nodup_cons] at distinct
      rw [insert]
      cases position with
      | zero =>
          rw [List.getElem?_cons_zero, Option.some.injEq, Prod.mk.injEq] at placed
          obtain ⟨rfl, rfl⟩ := placed
          by_cases same : first = key <;> simp [same]
      | succ before =>
          rw [List.getElem?_cons_succ] at placed
          by_cases same : first = key
          · have later : name ∈ rest.map Prod.fst := List.mem_map_of_mem (List.mem_of_getElem? placed)
            have apart : name ≠ key := fun again => distinct.1 (same.trans again.symm ▸ later)
            rw [if_pos same, List.getElem?_cons_succ, placed, if_neg apart]
          · rw [if_neg same, List.getElem?_cons_succ]
            exact ih distinct.2 before placed

theorem entries_by_key (entries : Entries α) (distinct : (keys entries).Nodup) :
    ((keys entries).filterMap fun key => (get? key entries).map fun value => (key, value)) = entries := by
  have looked : ∀ entry ∈ entries, ((get? entry.1 entries).map fun value => (entry.1, value)) = some entry := by
    intro entry listed
    rw [get_distinct entries distinct entry listed]
    rfl
  rw [keys, List.filterMap_map]
  exact (List.filterMap_congr looked).trans List.filterMap_some

theorem get_iff_mem (entries : Entries α) (distinct : (keys entries).Nodup) (key : String) (value : α) :
    get? key entries = some value ↔ (key, value) ∈ entries :=
  ⟨get_mem key value entries, get_distinct entries distinct (key, value)⟩

end Entries

@[simp] theorem same_container (id : Nat) (other : Datum) :
    (Datum.container id).sameContainer other = true ↔ other = .container id := by
  cases other with
  | scalar content => simp [Datum.sameContainer]
  | container twin => rw [Datum.sameContainer, beq_iff_eq, Datum.container.injEq, eq_comm]

theorem apart_container (id : Nat) (other : Datum) :
    (Datum.container id).sameContainer other = false ↔ other ≠ .container id := by
  rw [← Bool.not_eq_true, same_container]

namespace Heap

section

variable (heap : Heap) (target : Datum) (id : Nat)

theorem object_cell (entries : List (String × Datum)) (seen : heap.view target = .object id entries) :
    target = .container id ∧ heap.cells[id]? = some (.object entries) := by
  obtain rfl := heap.identity_handle target id (by rw [seen]; rfl)
  rw [view] at seen
  cases cell : heap.cells[id]? with
  | none => simp [cell] at seen
  | some content => cases content <;> simp [cell] at seen ⊢; exact seen

theorem array_cell (items : List Datum) (seen : heap.view target = .array id items) :
    target = .container id ∧ heap.cells[id]? = some (.array items) := by
  obtain rfl := heap.identity_handle target id (by rw [seen]; rfl)
  rw [view] at seen
  cases cell : heap.cells[id]? with
  | none => simp [cell] at seen
  | some content => cases content <;> simp [cell] at seen ⊢; exact seen

theorem view_object (entries : List (String × Datum)) (cell : heap.cells[id]? = some (.object entries)) :
    heap.view (.container id) = .object id entries := by
  rw [view, cell]

theorem view_array (items : List Datum) (cell : heap.cells[id]? = some (.array items)) :
    heap.view (.container id) = .array id items := by
  rw [view, cell]

theorem insert_object (entries : List (String × Datum)) (key : String) (value : Datum)
    (cell : heap.cells[id]? = some (.object entries)) :
    heap.insert (.container id) key value = (⟨heap.cells.set id (.object (Entries.insert key value entries))⟩, true) := by
  simp only [insert, cell?, cell, write]

theorem push_array (items : List Datum) (value : Datum) (cell : heap.cells[id]? = some (.array items)) :
    heap.push (.container id) value = (⟨heap.cells.set id (.array (items ++ [value]))⟩, true) := by
  simp only [push, cell?, cell, write]

theorem written_cell (cell old : Cell) (there : heap.cells[id]? = some old) : (heap.cells.set id cell)[id]? = some cell :=
  List.getElem?_set_self (List.getElem?_eq_some_iff.mp there).1

theorem insert_refused (key : String) (value : Datum) (other : (heap.view target).kind ≠ .object) :
    heap.insert target key value = (heap, false) := by
  rw [insert]
  split
  · rename_i entries cell
    cases target with
    | scalar content => contradiction
    | container id =>
        have seen := heap.view_object id entries cell
        exact absurd (congrArg Layer.kind seen) other
  · rfl

theorem push_refused (value : Datum) (other : (heap.view target).kind ≠ .array) :
    heap.push target value = (heap, false) := by
  rw [push]
  split
  · rename_i items cell
    cases target with
    | scalar content => contradiction
    | container id =>
        have seen := heap.view_array id items cell
        exact absurd (congrArg Layer.kind seen) other
  · rfl

end

theorem insert_cases (heap : Heap) (target : Datum) (key : String) (value : Datum) :
    (∃ id entries, target = .container id ∧ heap.cells[id]? = some (.object entries) ∧
      heap.insert target key value = (⟨heap.cells.set id (.object (Entries.insert key value entries))⟩, true)) ∨
    ((heap.view target).kind ≠ .object ∧ heap.insert target key value = (heap, false)) := by
  by_cases object : (heap.view target).kind = .object
  · obtain ⟨id, entries, seen⟩ := heap.data.view_object target object
    obtain ⟨rfl, cell⟩ := heap.object_cell target id entries seen
    exact .inl ⟨id, entries, rfl, cell, heap.insert_object id entries key value cell⟩
  · exact .inr ⟨object, heap.insert_refused target key value object⟩

theorem push_cases (heap : Heap) (target value : Datum) :
    (∃ id items, target = .container id ∧ heap.cells[id]? = some (.array items) ∧
      heap.push target value = (⟨heap.cells.set id (.array (items ++ [value]))⟩, true)) ∨
    ((heap.view target).kind ≠ .array ∧ heap.push target value = (heap, false)) := by
  by_cases array : (heap.view target).kind = .array
  · obtain ⟨id, items, seen⟩ := heap.data.view_array target array
    obtain ⟨rfl, cell⟩ := heap.array_cell target id items seen
    exact .inl ⟨id, items, rfl, cell, heap.push_array id items value cell⟩
  · exact .inr ⟨array, heap.push_refused target value array⟩

theorem get_entry (heap : Heap) (id : Nat) (entries : List (String × Datum)) (key : String)
    (cell : heap.cells[id]? = some (.object entries)) : heap.get? (.container id) key = Entries.get? key entries := by
  simp only [get?, cell?, cell]

structure Frame (heap later : Heap) (target : Datum) : Prop where
  apart : ∀ other, target.sameContainer other = false → later.view other = heap.view other
  kind : (later.view target).kind = (heap.view target).kind
  size : later.cells.length = heap.cells.length

theorem written_view (heap : Heap) (id : Nat) (cell : Cell) (other : Datum) (apart : other ≠ .container id) :
    view ⟨heap.cells.set id cell⟩ other = heap.view other := by
  cases other with
  | scalar content => rfl
  | container twin =>
      have elsewhere : id ≠ twin := fun same => apart (same ▸ rfl)
      simp only [view, List.getElem?_set_ne elsewhere]

structure Inserted (heap later : Heap) (target : Datum) (key : String) (value : Datum) : Prop where
  frame : heap.Frame later target
  found : ∀ handle, target.sameContainer handle = true → later.get? handle key = some value
  others : ∀ handle, target.sameContainer handle = true → ∀ other, other ≠ key →
    later.get? handle other = heap.get? handle other
  keys : (later.view target).keys =
    if key ∈ (heap.view target).keys then (heap.view target).keys else (heap.view target).keys ++ [key]
  places : ∀ (position : Nat) (name : String) (old : Datum), (heap.view target).entries[position]? = some (name, old) →
    (later.view target).entries[position]? = some (name, if name = key then value else old)

structure Pushed (heap later : Heap) (target value : Datum) : Prop where
  frame : heap.Frame later target
  items : ∀ handle, target.sameContainer handle = true → (later.view handle).items = (heap.view handle).items ++ [value]

theorem inserted (heap : Heap) (target : Datum) (id : Nat) (entries : List (String × Datum)) (key : String)
    (value : Datum) (seen : heap.view target = .object id entries) (distinct : (Entries.keys entries).Nodup) :
    ∃ later, heap.insert target key value = (later, true) ∧ heap.Inserted later target key value := by
  obtain ⟨rfl, cell⟩ := heap.object_cell target id entries seen
  have there := heap.written_cell id (.object (Entries.insert key value entries)) _ cell
  have now := view_object ⟨_⟩ id _ there
  refine ⟨_, heap.insert_object id entries key value cell, ⟨⟨?_, ?_, ?_⟩, ?_, ?_, ?_, ?_⟩⟩
  · intro other apart
    exact heap.written_view id _ other ((apart_container id other).mp apart)
  · rw [now, seen]
    rfl
  · exact List.length_set
  · intro handle same
    obtain rfl := (same_container id handle).mp same
    rw [get_entry _ _ _ key there, Entries.get_insert, if_pos rfl]
  · intro handle same other apart
    obtain rfl := (same_container id handle).mp same
    rw [get_entry _ _ _ other there, get_entry _ _ _ other cell, Entries.get_insert, if_neg apart]
  · rw [now, seen]
    exact Entries.keys_insert key value entries
  · intro position name old placed
    rw [seen] at placed
    rw [now]
    exact Entries.insert_place key value entries distinct position name old placed

theorem pushed (heap : Heap) (target : Datum) (id : Nat) (items : List Datum) (value : Datum)
    (seen : heap.view target = .array id items) :
    ∃ later, heap.push target value = (later, true) ∧ heap.Pushed later target value := by
  obtain ⟨rfl, cell⟩ := heap.array_cell target id items seen
  have now := view_array ⟨_⟩ id _ (heap.written_cell id (.array (items ++ [value])) _ cell)
  refine ⟨_, heap.push_array id items value cell, ⟨⟨?_, ?_, ?_⟩, ?_⟩⟩
  · intro other apart
    exact heap.written_view id _ other ((apart_container id other).mp apart)
  · rw [now, seen]
    rfl
  · exact List.length_set
  · intro handle same
    obtain rfl := (same_container id handle).mp same
    rw [now, seen]
    rfl

end Heap

end ShapeCheck
