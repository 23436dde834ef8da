import ShapeCheck.Proofs.Mutation

set_option autoImplicit false

namespace ShapeCheck

def Entries.putAll {α : Type} (pairs : List (String × α)) (entries : Entries α) : Entries α :=
  pairs.foldl (fun entries pair => insert pair.1 pair.2 entries) entries

theorem Entries.put_all_append {α : Type} (one other : List (String × α)) (entries : Entries α) :
    putAll (one ++ other) entries = putAll other (putAll one entries) :=
  List.foldl_append

abbrev Puts := List (Nat × (String × Datum))

namespace Puts

def into (puts : Puts) (id : Nat) : List (String × Datum) :=
  (puts.filter (·.1 == id)).map Prod.snd

@[simp] theorem into_append (one other : Puts) (id : Nat) : into (one ++ other) id = into one id ++ into other id := by
  simp only [into, List.filter_append, List.map_append]

theorem into_one (target id : Nat) (pairs : List (String × Datum)) :
    into (pairs.map (target, ·)) id = if id = target then pairs else [] := by
  by_cases here : id = target
  · simp [into, here, List.filter_map, Function.comp_def]
  · simp [into, here, Ne.symm here, List.filter_map, Function.comp_def]

end Puts

namespace Heap

-- All objects took these puts in turn, and their entries did not change otherwise. What is no object counts as empty.
def Wrote (heap later : Heap) (puts : Puts) : Prop :=
  ∀ id, (later.view (.container id)).entries = Entries.putAll (puts.into id) (heap.view (.container id)).entries

theorem wrote_nothing (heap : Heap) : heap.Wrote heap [] := fun _ => rfl

theorem wrote_trans (heap middle later : Heap) (one other : Puts) (first : heap.Wrote middle one)
    (second : middle.Wrote later other) : heap.Wrote later (one ++ other) := by
  intro id
  rw [second id, first id, Puts.into_append, Entries.put_all_append]

theorem view_outside (heap : Heap) (id : Nat) (outside : heap.cells.length ≤ id) :
    heap.view (.container id) = .scalar .null := by
  rw [view, List.getElem?_eq_none outside]

theorem allocate_view (heap : Heap) (cell : Cell) (id : Nat) (apart : id ≠ heap.cells.length) :
    (heap.allocate cell).1.view (.container id) = heap.view (.container id) := by
  have same : (heap.cells ++ [cell])[id]? = heap.cells[id]? := by
    by_cases inside : id < heap.cells.length
    · exact List.getElem?_append_left inside
    · rw [List.getElem?_eq_none (by simp; omega), List.getElem?_eq_none (by omega)]
  simp only [view, allocate, same]

theorem array_wrote (heap : Heap) (items : List Datum) : heap.Wrote (heap.array items).1 [] := by
  intro id
  by_cases here : id = heap.cells.length
  · have cell := heap.allocated_cell _ (.array items) (extends_refl _)
    rw [here, array, view_array _ _ items cell, view_outside heap _ (Nat.le_refl _)]
    rfl
  · rw [array, allocate_view heap _ id here]
    rfl

theorem object_wrote (heap : Heap) (pairs : List (String × Datum)) :
    heap.Wrote (heap.object pairs).1 (pairs.map (heap.cells.length, ·)) := by
  intro id
  rw [Puts.into_one]
  by_cases here : id = heap.cells.length
  · have cell := heap.allocated_cell _ (.object (Entries.ofPairs pairs)) (extends_refl _)
    rw [if_pos here, here, object, view_object _ _ _ cell, view_outside heap _ (Nat.le_refl _)]
    rfl
  · rw [if_neg here, object, allocate_view heap _ id here]
    rfl

def insertPuts (heap : Heap) (target : Datum) (key : String) (value : Datum) : Puts :=
  match heap.view target with
  | .object id _ => [(id, (key, value))]
  | _ => []

theorem insert_puts_refused (heap : Heap) (target : Datum) (key : String) (value : Datum)
    (other : (heap.view target).kind ≠ .object) : heap.insertPuts target key value = [] := by
  rw [insertPuts]
  split
  · rename_i id entries seen
    exact absurd (congrArg Layer.kind seen) other
  · rfl

theorem insert_wrote (heap : Heap) (target : Datum) (key : String) (value : Datum) :
    heap.Wrote (heap.insert target key value).1 (heap.insertPuts target key value) := by
  rcases heap.insert_cases target key value with ⟨id, entries, rfl, cell, done⟩ | ⟨object, refused⟩
  · rw [done, insertPuts, heap.view_object id entries cell]
    intro other
    by_cases here : other = id
    · have now := heap.written_cell id (.object (Entries.insert key value entries)) _ cell
      rw [here, view_object ⟨_⟩ id _ now, view_object heap id _ cell]
      simp [Puts.into, Entries.putAll, Layer.entries]
    · rw [heap.written_view id _ (.container other) fun same => here (Datum.container.inj same)]
      simp [Puts.into, Entries.putAll, Ne.symm here]
  · rw [refused, heap.insert_puts_refused target key value object]
    exact heap.wrote_nothing

theorem push_wrote (heap : Heap) (target value : Datum) : heap.Wrote (heap.push target value).1 [] := by
  rcases heap.push_cases target value with ⟨id, items, rfl, cell, done⟩ | ⟨_, refused⟩
  · rw [done]
    intro other
    by_cases here : other = id
    · have now := heap.written_cell id (.array (items ++ [value])) _ cell
      rw [here, view_array ⟨_⟩ id _ now, view_array heap id _ cell]
      rfl
    · rw [heap.written_view id _ (.container other) fun same => here (Datum.container.inj same)]
      rfl
  · rw [refused]
    exact heap.wrote_nothing

mutual
-- Loading is the puts of its objects, and an object is filled when all its values are there.
def loadPuts (heap : Heap) : Json → Puts
  | .scalar _ => []
  | .array items => loadItemsPuts heap items
  | .object entries =>
      loadEntriesPuts heap entries ++
        (loadEntries heap entries).2.map ((loadEntries heap entries).1.cells.length, ·)
def loadItemsPuts (heap : Heap) : List Json → Puts
  | [] => []
  | item :: rest => loadPuts heap item ++ loadItemsPuts (load heap item).1 rest
def loadEntriesPuts (heap : Heap) : List (String × Json) → Puts
  | [] => []
  | (_, value) :: rest => loadPuts heap value ++ loadEntriesPuts (load heap value).1 rest
end

mutual
theorem load_wrote (heap : Heap) (tree : Json) : heap.Wrote (load heap tree).1 (loadPuts heap tree) := by
  cases tree with
  | scalar content => exact heap.wrote_nothing
  | array items =>
      have inner := load_items_wrote heap items
      have whole := heap.wrote_trans _ _ _ _ inner (array_wrote _ (loadItems heap items).2)
      rwa [List.append_nil] at whole
  | object entries =>
      have inner := load_entries_wrote heap entries
      exact heap.wrote_trans _ _ _ _ inner (object_wrote _ (loadEntries heap entries).2)
theorem load_items_wrote (heap : Heap) (items : List Json) :
    heap.Wrote (loadItems heap items).1 (loadItemsPuts heap items) := by
  cases items with
  | nil => exact heap.wrote_nothing
  | cons item rest =>
      have first := load_wrote heap item
      exact heap.wrote_trans _ _ _ _ first (load_items_wrote _ rest)
theorem load_entries_wrote (heap : Heap) (entries : List (String × Json)) :
    heap.Wrote (loadEntries heap entries).1 (loadEntriesPuts heap entries) := by
  cases entries with
  | nil => exact heap.wrote_nothing
  | cons entry rest =>
      have first := load_wrote heap entry.2
      exact heap.wrote_trans _ _ _ _ first (load_entries_wrote _ rest)
end

end Heap

end ShapeCheck
