import ShapeCheck.Proofs.Mutation
import ShapeCheck.Validation.Path

set_option autoImplicit false

namespace ShapeCheck

section

variable {ν : Type}

def Layer.child? (layer : Layer ν) : Segment → Option ν
  | .index position => layer.items[position]?
  | .key name => layer.field? name

def Instance.at? (data : Instance ν) : ν → Path → Option ν
  | value, [] => some value
  | value, segment :: rest => ((data.view value).child? segment).bind (data.at? · rest)

theorem Instance.unfolds_at (data : Instance ν) (value : ν) (tree : Json) (unfolds : data.Unfolds value tree)
    (path : Path) (node : Json) (found : tree.at? path = some node) :
    ∃ inner, data.at? value path = some inner ∧ data.Unfolds inner node := by
  induction path generalizing value tree with
  | nil =>
      obtain rfl : tree = node := by simpa [Json.at?] using found
      exact ⟨value, rfl, unfolds⟩
  | cons segment rest ih =>
      have below : ∃ child inner, (data.view value).child? segment = some child ∧ data.Unfolds child inner ∧
          inner.at? rest = some node := by
        cases unfolds with
        | scalar _ content _ => cases segment <;> simp [Json.at?] at found
        | array _ id items trees seen each =>
            cases segment with
            | key name => simp [Json.at?] at found
            | index position =>
                obtain ⟨inner, placed, found⟩ := Option.bind_eq_some_iff.mp found
                obtain ⟨bound, rfl⟩ := List.getElem?_eq_some_iff.mp placed
                have there : position < items.length := each.length_eq ▸ bound
                exact ⟨items[position], _, by rw [seen]; exact List.getElem?_eq_getElem there, each.get there bound, found⟩
        | object _ id entries members seen keys each =>
            cases segment with
            | index position => simp [Json.at?] at found
            | key name =>
                obtain ⟨inner, placed, found⟩ := Option.bind_eq_some_iff.mp found
                have paired := entries_paired data.Unfolds entries members keys each
                obtain ⟨child, held, unfolded⟩ := get_paired_some data.Unfolds name entries members paired inner placed
                exact ⟨child, inner, by rw [seen]; exact held, unfolded, found⟩
      obtain ⟨child, inner, held, unfolded, found⟩ := below
      obtain ⟨last, reached, same⟩ := ih child inner unfolded found
      exact ⟨last, by rw [Instance.at?, held]; exact reached, same⟩

end

namespace Heap

-- All containers that a value leads to have numbers of a range of their own, and each is found at one place only.
structure Owned (heap : Heap) (value : Datum) (low high : Nat) : Prop where
  within : ∀ path id, heap.data.at? value path = some (.container id) → low ≤ id ∧ id < high
  once : ∀ path other id, heap.data.at? value path = some (.container id) →
    heap.data.at? value other = some (.container id) → path = other

structure OwnedEach (heap : Heap) (values : List Datum) (low high : Nat) : Prop where
  within : ∀ (position : Nat) path id, (values[position]?.bind (heap.data.at? · path)) = some (.container id) →
    low ≤ id ∧ id < high
  once : ∀ (position place : Nat) path other id, (values[position]?.bind (heap.data.at? · path)) = some (.container id) →
    (values[place]?.bind (heap.data.at? · other)) = some (.container id) → position = place ∧ path = other

theorem scalar_at (heap : Heap) (content : Scalar) (path : Path) (id : Nat) :
    heap.data.at? (.scalar content) path ≠ some (.container id) := by
  intro found
  cases path with
  | nil => simp [Instance.at?] at found
  | cons segment rest =>
      cases segment <;> simp [Instance.at?, data, view, Layer.child?, Layer.items, Layer.field?, Layer.entries,
        Entries.get?] at found

theorem owned_scalar (heap : Heap) (content : Scalar) (low high : Nat) : heap.Owned (.scalar content) low high where
  within path id found := absurd found (heap.scalar_at content path id)
  once path _ id found := absurd found (heap.scalar_at content path id)

theorem owned_nil (heap : Heap) (low high : Nat) : heap.OwnedEach [] low high where
  within position path id found := absurd found (by simp)
  once position place path other id found := absurd found (by simp)

theorem owned_cons (heap : Heap) (first : Datum) (rest : List Datum) (low middle high : Nat) (rises : low ≤ middle)
    (ends : middle ≤ high) (own : heap.Owned first low middle) (others : heap.OwnedEach rest middle high) :
    heap.OwnedEach (first :: rest) low high := by
  constructor
  case within =>
    intro position path id found
    cases position with
    | zero =>
        have inside := own.within path id found
        omega
    | succ before =>
        have inside := others.within before path id found
        omega
  case once =>
    intro position place path other id found again
    -- Places in the first value and in the others lead to different ranges.
    cases position with
    | zero =>
        cases place with
        | zero => exact ⟨rfl, own.once path other id found again⟩
        | succ before =>
            have one := own.within path id found
            have two := others.within before other id again
            omega
    | succ before =>
        cases place with
        | zero =>
            have one := others.within before path id found
            have two := own.within other id again
            omega
        | succ later =>
            obtain ⟨same, paths⟩ := others.once before later path other id found again
            exact ⟨congrArg Nat.succ same, paths⟩

theorem owned_container (heap : Heap) (id : Nat) (values : List Datum) (low : Nat) (rises : low ≤ id)
    (each : heap.OwnedEach values low id) (step? : Nat → Option Segment)
    (placed : ∀ segment child, (heap.view (.container id)).child? segment = some child →
      ∃ position, values[position]? = some child ∧ step? position = some segment) :
    heap.Owned (.container id) low (id + 1) := by
  have below : ∀ segment rest inner, heap.data.at? (.container id) (segment :: rest) = some (.container inner) →
      ∃ position, step? position = some segment ∧
        (values[position]?.bind (heap.data.at? · rest)) = some (.container inner) := by
    intro segment rest inner found
    obtain ⟨child, held, found⟩ := Option.bind_eq_some_iff.mp found
    obtain ⟨position, here, step⟩ := placed segment child held
    exact ⟨position, step, by rw [here]; exact found⟩
  have itself : ∀ inner, heap.data.at? (.container id) [] = some (.container inner) → inner = id := by
    intro inner found
    exact (Datum.container.inj (Option.some.inj found)).symm
  constructor
  case within =>
    intro path inner found
    cases path with
    | nil =>
        obtain rfl := itself inner found
        omega
    | cons segment rest =>
        obtain ⟨position, _, found⟩ := below segment rest inner found
        have inside := each.within position rest inner found
        omega
  case once =>
    intro path other inner found again
    cases path with
    | nil =>
        cases other with
        | nil => rfl
        | cons segment rest =>
            obtain rfl := itself inner found
            obtain ⟨position, _, again⟩ := below segment rest inner again
            exact absurd (each.within position rest inner again).2 (Nat.lt_irrefl inner)
    | cons segment rest =>
        obtain ⟨position, step, held⟩ := below segment rest inner found
        cases other with
        | nil =>
            obtain rfl := itself inner again
            exact absurd (each.within position rest inner held).2 (Nat.lt_irrefl inner)
        | cons twin others =>
            obtain ⟨place, stepToo, again⟩ := below twin others inner again
            obtain ⟨rfl, rfl⟩ := each.once position place rest others inner held again
            rw [Option.some.inj (step.symm.trans stepToo)]

theorem owned_array (heap : Heap) (id : Nat) (items : List Datum) (low : Nat) (rises : low ≤ id)
    (cell : heap.cells[id]? = some (.array items)) (each : heap.OwnedEach items low id) :
    heap.Owned (.container id) low (id + 1) := by
  apply heap.owned_container id items low rises each fun position => some (.index position)
  intro segment child held
  rw [heap.view_array id items cell] at held
  cases segment with
  | index position => exact ⟨position, held, rfl⟩
  | key name => simp [Layer.child?, Layer.field?, Layer.entries, Entries.get?] at held

theorem owned_object (heap : Heap) (id : Nat) (pairs : List (String × Datum)) (low : Nat) (rises : low ≤ id)
    (cell : heap.cells[id]? = some (.object (Entries.ofPairs pairs)))
    (each : heap.OwnedEach (pairs.map Prod.snd) low id) : heap.Owned (.container id) low (id + 1) := by
  apply heap.owned_container id _ low rises each fun position => pairs[position]?.map fun pair => .key pair.1
  intro segment child held
  rw [heap.view_object id _ cell] at held
  cases segment with
  | index position => simp [Layer.child?, Layer.items] at held
  | key name =>
      have listed := Entries.of_pairs_mem pairs name child (Entries.get_mem name child _ held)
      obtain ⟨position, placed⟩ := List.getElem?_of_mem listed
      exact ⟨position, by simp [placed], by simp [placed]⟩

theorem extends_size (heap later : Heap) (grown : heap.Extends later) : heap.cells.length ≤ later.cells.length :=
  grown.length_le

@[simp] theorem allocate_size (heap : Heap) (cell : Cell) : (heap.allocate cell).1.cells.length = heap.cells.length + 1 := by
  simp [allocate]

mutual
-- What is loaded stays apart from all else, whatever is put on the heap afterwards.
theorem load_owned (heap : Heap) (tree : Json) (later : Heap) (grown : (load heap tree).1.Extends later) :
    later.Owned (load heap tree).2 heap.cells.length (load heap tree).1.cells.length := by
  cases tree with
  | scalar content => exact later.owned_scalar content _ _
  | array items =>
      have inside := extends_trans _ _ _ (allocate_extends _ _) grown
      have each := load_items_owned heap items later inside
      have rises := extends_size _ _ (load_items_extends heap items)
      have cell := allocated_cell _ later _ grown
      have owned := later.owned_array _ _ _ rises cell each
      rwa [← allocate_size] at owned
  | object entries =>
      have inside := extends_trans _ _ _ (allocate_extends _ _) grown
      have each := load_entries_owned heap entries later inside
      have rises := extends_size _ _ (load_entries_extends heap entries)
      have cell := allocated_cell _ later _ grown
      have owned := later.owned_object _ _ _ rises cell each
      rwa [← allocate_size] at owned
theorem load_items_owned (heap : Heap) (items : List Json) (later : Heap)
    (grown : (loadItems heap items).1.Extends later) :
    later.OwnedEach (loadItems heap items).2 heap.cells.length (loadItems heap items).1.cells.length := by
  cases items with
  | nil => exact later.owned_nil _ _
  | cons item rest =>
      have before := extends_trans _ _ _ (load_items_extends _ rest) grown
      have first := load_owned heap item later before
      have others := load_items_owned _ rest later grown
      exact later.owned_cons _ _ _ _ _ (extends_size _ _ (load_extends heap item))
        (extends_size _ _ (load_items_extends _ rest)) first others
theorem load_entries_owned (heap : Heap) (entries : List (String × Json)) (later : Heap)
    (grown : (loadEntries heap entries).1.Extends later) :
    later.OwnedEach ((loadEntries heap entries).2.map Prod.snd) heap.cells.length
      (loadEntries heap entries).1.cells.length := by
  cases entries with
  | nil => exact later.owned_nil _ _
  | cons entry rest =>
      have before := extends_trans _ _ _ (load_entries_extends _ rest) grown
      have first := load_owned heap entry.2 later before
      have others := load_entries_owned _ rest later grown
      exact later.owned_cons _ _ _ _ _ (extends_size _ _ (load_extends heap entry.2))
        (extends_size _ _ (load_entries_extends _ rest)) first others
end

end Heap

end ShapeCheck
