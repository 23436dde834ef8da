import ShapeCheck.Instance.Heap
import ShapeCheck.Proofs.Unfolding

set_option autoImplicit false

namespace ShapeCheck

namespace Entries

variable {α : Type}

theorem insert_fresh (key : String) (value : α) (entries : Entries α) (fresh : key ∉ keys entries) :
    insert key value entries = entries ++ [(key, value)] := by
  induction entries with
  | nil => rfl
  | cons entry rest ih =>
      rcases entry with ⟨name, old⟩
      simp only [keys, List.map_cons, List.mem_cons, not_or] at fresh
      rw [insert, if_neg (Ne.symm fresh.1), ih fresh.2]
      rfl

theorem fold_insert_distinct (pairs : List (String × α)) (entries : Entries α)
    (distinct : (keys (entries ++ pairs)).Nodup) :
    pairs.foldl (fun entries pair => insert pair.1 pair.2 entries) entries = entries ++ pairs := by
  induction pairs generalizing entries with
  | nil => rw [List.foldl_nil, List.append_nil]
  | cons pair rest ih =>
      have fresh : pair.1 ∉ keys entries := by
        simp only [keys, List.map_append, List.map_cons] at distinct ⊢
        intro listed
        exact (List.nodup_append.mp distinct).2.2 _ listed _ List.mem_cons_self rfl
      rw [List.foldl_cons, insert_fresh _ _ _ fresh, ih, List.append_assoc]
      · rfl
      · simpa using distinct

theorem of_pairs_distinct (pairs : List (String × α)) (distinct : (keys pairs).Nodup) : ofPairs pairs = pairs :=
  fold_insert_distinct pairs [] distinct

end Entries

namespace Heap

theorem identity_handle (heap : Heap) (value : Datum) (id : Nat) (seen : (heap.view value).identity? = some id) :
    value = .container id := by
  cases value with
  | scalar content => simp [view, Layer.identity?] at seen
  | container number =>
      cases cell : heap.cells[number]? with
      | none => simp [view, cell, Layer.identity?] at seen
      | some content => cases content <;> simp [view, cell, Layer.identity?] at seen <;> rw [seen]

theorem identity_single (heap : Heap) (value other : Datum) (id : Nat)
    (here : (heap.data.view value).identity? = some id) (there : (heap.data.view other).identity? = some id) :
    value = other := by
  rw [heap.identity_handle value id here, heap.identity_handle other id there]

theorem acyclic_of_unfolds (heap : Heap) (root : Datum) (tree : Json) (unfolds : heap.data.Unfolds root tree) :
    heap.data.Acyclic root :=
  heap.data.acyclic_of_unfolds heap.identity_single root tree unfolds

theorem distinct_of_cells (heap : Heap) (root : Datum)
    (distinct : ∀ entries, Cell.object entries ∈ heap.cells → (Entries.keys entries).Nodup) :
    heap.data.DistinctKeys root := by
  intro value _
  change (heap.view value).keys.Nodup
  cases value with
  | scalar content => exact List.nodup_nil
  | container number =>
      rw [view]
      cases cell : heap.cells[number]? with
      | none => exact List.nodup_nil
      | some content =>
          cases content with
          | array items => exact List.nodup_nil
          | object entries => exact distinct entries (List.mem_of_getElem? cell)

def Extends (heap later : Heap) : Prop := heap.cells <+: later.cells

@[simp] theorem extends_refl (heap : Heap) : heap.Extends heap := List.prefix_rfl

theorem extends_trans (heap middle later : Heap) (one : heap.Extends middle) (two : middle.Extends later) :
    heap.Extends later :=
  List.IsPrefix.trans one two

theorem allocate_extends (heap : Heap) (cell : Cell) : heap.Extends (heap.allocate cell).1 :=
  List.prefix_append _ _

theorem allocated_cell (heap later : Heap) (cell : Cell) (grown : (heap.allocate cell).1.Extends later) :
    later.cells[heap.cells.length]? = some cell := by
  obtain ⟨more, same⟩ := grown
  simp [← same, allocate]

-- A loaded tree stays readable whatever is put on the heap afterwards.
def Loaded (grown : Heap) (value : Datum) (tree : Json) : Prop :=
  ∀ later, grown.Extends later → later.data.Unfolds value tree

theorem load_entries_keys (heap : Heap) (entries : List (String × Json)) :
    Entries.keys (loadEntries heap entries).2 = Entries.keys entries := by
  induction entries generalizing heap with
  | nil => rfl
  | cons entry rest ih => exact congrArg (List.cons entry.1) (ih (load heap entry.2).1)

mutual
theorem load_extends (heap : Heap) (tree : Json) : heap.Extends (load heap tree).1 := by
  cases tree with
  | scalar content => exact heap.extends_refl
  | array items =>
      have inner := load_items_extends heap items
      exact extends_trans _ _ _ inner (allocate_extends _ _)
  | object entries =>
      have inner := load_entries_extends heap entries
      exact extends_trans _ _ _ inner (allocate_extends _ _)
theorem load_items_extends (heap : Heap) (items : List Json) : heap.Extends (loadItems heap items).1 := by
  cases items with
  | nil => exact heap.extends_refl
  | cons item rest =>
      have first := load_extends heap item
      exact extends_trans _ _ _ first (load_items_extends _ rest)
theorem load_entries_extends (heap : Heap) (entries : List (String × Json)) :
    heap.Extends (loadEntries heap entries).1 := by
  cases entries with
  | nil => exact heap.extends_refl
  | cons entry rest =>
      have first := load_extends heap entry.2
      exact extends_trans _ _ _ first (load_entries_extends _ rest)
end

mutual
theorem load_unfolds (heap : Heap) (tree : Json) (distinct : tree.DistinctKeys) :
    Loaded (load heap tree).1 (load heap tree).2 tree := by
  cases tree with
  | scalar content => exact fun later _ => .scalar _ content rfl
  | array items =>
      intro later grown
      have inside := extends_trans _ _ _ (allocate_extends _ _) grown
      have each := load_items_unfold heap items distinct later inside
      have cell := allocated_cell _ later _ grown
      refine .array _ (loadItems heap items).1.cells.length _ items ?_ each
      simp only [load, array, allocate, data, view, cell]
  | object entries =>
      intro later grown
      have inside := extends_trans _ _ _ (allocate_extends _ _) grown
      have each := load_entries_unfold heap entries distinct.2 later inside
      have keys := load_entries_keys heap entries
      have cell := allocated_cell _ later _ grown
      rw [Entries.of_pairs_distinct _ (keys ▸ distinct.1)] at cell
      refine .object _ (loadEntries heap entries).1.cells.length _ entries ?_ keys each
      simp only [load, object, allocate, data, view, cell]
theorem load_items_unfold (heap : Heap) (items : List Json) (distinct : Json.DistinctItems items) (later : Heap)
    (grown : (loadItems heap items).1.Extends later) :
    List.Forall₂ later.data.Unfolds (loadItems heap items).2 items := by
  cases items with
  | nil => exact .nil
  | cons item rest =>
      have before := extends_trans _ _ _ (load_items_extends _ rest) grown
      have first := load_unfolds heap item distinct.1 later before
      have others := load_items_unfold _ rest distinct.2 later grown
      exact .cons first others
theorem load_entries_unfold (heap : Heap) (entries : List (String × Json))
    (distinct : Json.DistinctEntries entries) (later : Heap) (grown : (loadEntries heap entries).1.Extends later) :
    List.Forall₂ later.data.Unfolds ((loadEntries heap entries).2.map Prod.snd) (entries.map Prod.snd) := by
  cases entries with
  | nil => exact .nil
  | cons entry rest =>
      have before := extends_trans _ _ _ (load_entries_extends _ rest) grown
      have first := load_unfolds heap entry.2 distinct.1 later before
      have others := load_entries_unfold _ rest distinct.2 later grown
      exact .cons first others
end

end Heap

end ShapeCheck
