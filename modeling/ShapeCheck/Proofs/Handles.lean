import ShapeCheck.Proofs.Loading
import ShapeCheck.Proofs.Puts

set_option autoImplicit false

namespace ShapeCheck

def Datum.Inside (size : Nat) : Datum → Prop
  | .scalar _ => True
  | .container id => id < size

theorem Datum.inside_later (size more : Nat) (grown : size ≤ more) (value : Datum) (inside : value.Inside size) :
    value.Inside more := by
  cases value with
  | scalar content => trivial
  | container id => exact Nat.lt_of_lt_of_le inside grown

def Cell.values : Cell → List Datum
  | .array items => items
  | .object entries => entries.map Prod.snd

namespace Entries

variable {α : Type}

theorem insert_values (key : String) (value : α) (entries : Entries α) (content : α)
    (listed : content ∈ (insert key value entries).map Prod.snd) :
    content = value ∨ content ∈ entries.map Prod.snd := by
  induction entries with
  | nil => exact .inl (by simpa [insert] using listed)
  | cons entry rest ih =>
      rw [insert] at listed
      split at listed
      · rcases List.mem_cons.mp listed with same | later
        · exact .inl same
        · exact .inr (List.mem_cons_of_mem _ later)
      · rcases List.mem_cons.mp listed with same | later
        · exact .inr (List.mem_cons.mpr (.inl same))
        · exact (ih later).imp_right (List.mem_cons_of_mem _)

theorem of_pairs_values (pairs : List (String × α)) (content : α) (listed : content ∈ (ofPairs pairs).map Prod.snd) :
    content ∈ pairs.map Prod.snd := by
  obtain ⟨⟨key, value⟩, held, rfl⟩ := List.mem_map.mp listed
  exact List.mem_map_of_mem (of_pairs_mem pairs key value held)

end Entries

namespace Heap

def Closed (heap : Heap) : Prop := ∀ cell ∈ heap.cells, ∀ value ∈ cell.values, value.Inside heap.cells.length

theorem allocate_inside (heap : Heap) (cell : Cell) :
    (heap.allocate cell).2.Inside (heap.allocate cell).1.cells.length := by
  rw [allocate_size]
  exact Nat.lt_succ_self _

theorem allocate_closed (heap : Heap) (closed : heap.Closed) (cell : Cell)
    (stored : ∀ value ∈ cell.values, value.Inside heap.cells.length) : (heap.allocate cell).1.Closed := by
  intro other listed value held
  rw [allocate_size]
  have before : value.Inside heap.cells.length := by
    rcases List.mem_append.mp listed with old | fresh
    · exact closed other old value held
    · obtain rfl := List.mem_singleton.mp fresh
      exact stored value held
  exact value.inside_later _ _ (Nat.le_succ _) before

theorem write_closed (heap : Heap) (closed : heap.Closed) (id : Nat) (cell : Cell)
    (stored : ∀ value ∈ cell.values, value.Inside heap.cells.length) : Closed ⟨heap.cells.set id cell⟩ := by
  intro other listed value held
  rw [List.length_set]
  rcases List.mem_or_eq_of_mem_set listed with old | rfl
  · exact closed other old value held
  · exact stored value held

theorem insert_closed (heap : Heap) (closed : heap.Closed) (target : Datum) (key : String) (value : Datum)
    (inside : value.Inside heap.cells.length) : (heap.insert target key value).1.Closed := by
  rcases heap.insert_cases target key value with ⟨id, entries, _, cell, done⟩ | ⟨_, refused⟩
  · rw [done]
    apply heap.write_closed closed
    intro content held
    rcases Entries.insert_values key value entries content held with rfl | old
    · exact inside
    · exact closed _ (List.mem_of_getElem? cell) content old
  · rw [refused]
    exact closed

theorem push_closed (heap : Heap) (closed : heap.Closed) (target value : Datum)
    (inside : value.Inside heap.cells.length) : (heap.push target value).1.Closed := by
  rcases heap.push_cases target value with ⟨id, items, _, cell, done⟩ | ⟨_, refused⟩
  · rw [done]
    apply heap.write_closed closed
    intro content held
    rcases List.mem_append.mp held with old | fresh
    · exact closed _ (List.mem_of_getElem? cell) content old
    · exact List.mem_singleton.mp fresh ▸ inside
  · rw [refused]
    exact closed

@[simp] theorem insert_size (heap : Heap) (target : Datum) (key : String) (value : Datum) :
    (heap.insert target key value).1.cells.length = heap.cells.length := by
  rcases heap.insert_cases target key value with ⟨id, entries, _, _, done⟩ | ⟨_, refused⟩
  · rw [done, List.length_set]
  · rw [refused]

@[simp] theorem push_size (heap : Heap) (target value : Datum) : (heap.push target value).1.cells.length = heap.cells.length := by
  rcases heap.push_cases target value with ⟨id, items, _, _, done⟩ | ⟨_, refused⟩
  · rw [done, List.length_set]
  · rw [refused]

theorem get_inside (heap : Heap) (closed : heap.Closed) (target : Datum) (key : String) (value : Datum)
    (found : heap.get? target key = some value) : value.Inside heap.cells.length := by
  rw [get?] at found
  split at found
  · rename_i entries cell
    cases target with
    | scalar content => contradiction
    | container id =>
        have held := Entries.get_mem key value entries found
        exact closed _ (List.mem_of_getElem? cell) value (List.mem_map_of_mem held)
  · contradiction

theorem extends_view (heap later : Heap) (grown : heap.Extends later) (value : Datum)
    (inside : value.Inside heap.cells.length) : later.view value = heap.view value := by
  cases value with
  | scalar content => rfl
  | container id =>
      obtain ⟨more, same⟩ := grown
      simp only [view, ← same, List.getElem?_append_left inside]

mutual
theorem load_closed (heap : Heap) (closed : heap.Closed) (tree : Json) :
    (load heap tree).1.Closed ∧ (load heap tree).2.Inside (load heap tree).1.cells.length := by
  cases tree with
  | scalar content => exact ⟨closed, trivial⟩
  | array items =>
      obtain ⟨inner, inside⟩ := load_items_closed heap closed items
      exact ⟨allocate_closed _ inner (.array (loadItems heap items).2) inside, allocate_inside _ _⟩
  | object entries =>
      obtain ⟨inner, inside⟩ := load_entries_closed heap closed entries
      refine ⟨allocate_closed _ inner (.object (Entries.ofPairs (loadEntries heap entries).2)) ?_, allocate_inside _ _⟩
      intro value held
      exact inside value (Entries.of_pairs_values _ value held)
theorem load_items_closed (heap : Heap) (closed : heap.Closed) (items : List Json) :
    (loadItems heap items).1.Closed ∧
      ∀ value ∈ (loadItems heap items).2, value.Inside (loadItems heap items).1.cells.length := by
  cases items with
  | nil => exact ⟨closed, fun value listed => absurd listed List.not_mem_nil⟩
  | cons item rest =>
      obtain ⟨grown, first⟩ := load_closed heap closed item
      obtain ⟨last, others⟩ := load_items_closed _ grown rest
      have more := extends_size _ _ (load_items_extends (load heap item).1 rest)
      exact ⟨last, List.forall_mem_cons.mpr ⟨Datum.inside_later _ _ more _ first, others⟩⟩
theorem load_entries_closed (heap : Heap) (closed : heap.Closed) (entries : List (String × Json)) :
    (loadEntries heap entries).1.Closed ∧
      ∀ value ∈ (loadEntries heap entries).2.map Prod.snd, value.Inside (loadEntries heap entries).1.cells.length := by
  cases entries with
  | nil => exact ⟨closed, fun value listed => absurd listed List.not_mem_nil⟩
  | cons entry rest =>
      obtain ⟨grown, first⟩ := load_closed heap closed entry.2
      obtain ⟨last, others⟩ := load_entries_closed _ grown rest
      have more := extends_size _ _ (load_entries_extends (load heap entry.2).1 rest)
      exact ⟨last, List.forall_mem_cons.mpr ⟨Datum.inside_later _ _ more _ first, others⟩⟩
end

structure Mapping (heap : Heap) (object : Datum) : Prop where
  visited : (heap.view object).keys = (heap.view object).entries.map Prod.fst
  looked : ((heap.view object).keys.filterMap fun key =>
    ((heap.view object).field? key).map fun value => (key, value)) = (heap.view object).entries
  found : ∀ key value, (heap.view object).field? key = some value ↔ (key, value) ∈ (heap.view object).entries
  got : ∀ key, heap.get? object key = (heap.view object).field? key

theorem mapping_of_distinct (heap : Heap) (object : Datum) (id : Nat) (entries : List (String × Datum))
    (seen : heap.view object = .object id entries) (distinct : (Entries.keys entries).Nodup) : heap.Mapping object := by
  obtain ⟨rfl, cell⟩ := heap.object_cell object id entries seen
  constructor
  case visited => rfl
  case looked =>
    rw [seen]
    exact Entries.entries_by_key entries distinct
  case found =>
    rw [seen]
    exact Entries.get_iff_mem entries distinct
  case got =>
    intro key
    rw [heap.get_entry id entries key cell, seen]
    rfl

end Heap

-- A heap and the handles that a program holds. A handle that is not held stands for null.
structure Store where
  heap : Heap
  handles : List Datum
deriving DecidableEq, Repr

inductive Operation where
  | load (tree : Json)
  | array (items : List Nat)
  | object (pairs : List (String × Nat))
  | clone (source : Nat)
  | insert (target : Nat) (key : String) (value : Nat)
  | push (target value : Nat)
  | get (target : Nat) (key : String)

namespace Store

def empty : Store := ⟨.empty, []⟩

def handle (store : Store) (number : Nat) : Datum := store.handles.getD number (.scalar .null)

def named (store : Store) (pairs : List (String × Nat)) : List (String × Datum) :=
  pairs.map fun pair => (pair.1, store.handle pair.2)

def keep (store : Store) (result : Heap × Datum) : Store := ⟨result.1, store.handles ++ [result.2]⟩

def perform (store : Store) : Operation → Store
  | .load tree => store.keep (store.heap.load tree)
  | .array items => store.keep (store.heap.array (items.map store.handle))
  | .object pairs => store.keep (store.heap.object (store.named pairs))
  | .clone source => store.keep (store.heap, store.handle source)
  | .insert target key value => ⟨(store.heap.insert (store.handle target) key (store.handle value)).1, store.handles⟩
  | .push target value => ⟨(store.heap.push (store.handle target) (store.handle value)).1, store.handles⟩
  | .get target key => ⟨store.heap, store.handles ++ (store.heap.get? (store.handle target) key).toList⟩

def puts (store : Store) : Operation → Puts
  | .load tree => store.heap.loadPuts tree
  | .object pairs => (store.named pairs).map (store.heap.cells.length, ·)
  | .insert target key value => store.heap.insertPuts (store.handle target) key (store.handle value)
  | _ => []

def run (store : Store) (operations : List Operation) : Store := operations.foldl perform store

def history (store : Store) : List Operation → Puts
  | [] => []
  | operation :: rest => store.puts operation ++ history (store.perform operation) rest

def Known (store : Store) (value : Datum) : Prop :=
  value ∈ store.handles ∨ ∃ cell ∈ store.heap.cells, value ∈ cell.values

structure Closed (store : Store) : Prop where
  heap : store.heap.Closed
  handles : ∀ value ∈ store.handles, value.Inside store.heap.cells.length

theorem known_inside (store : Store) (closed : store.Closed) (value : Datum) (known : store.Known value) :
    value.Inside store.heap.cells.length := by
  rcases known with held | ⟨cell, listed, stored⟩
  · exact closed.handles value held
  · exact closed.heap cell listed value stored

theorem handle_inside (store : Store) (closed : store.Closed) (number : Nat) :
    (store.handle number).Inside store.heap.cells.length := by
  rw [handle, List.getD_eq_getElem?_getD]
  cases held : store.handles[number]? with
  | none => trivial
  | some value => exact closed.handles value (List.mem_of_getElem? held)

theorem perform_wrote (store : Store) (operation : Operation) :
    store.heap.Wrote (store.perform operation).heap (store.puts operation) := by
  cases operation with
  | load tree => exact store.heap.load_wrote tree
  | array items => exact store.heap.array_wrote _
  | object pairs => exact store.heap.object_wrote _
  | clone source => exact store.heap.wrote_nothing
  | insert target key value => exact store.heap.insert_wrote _ key _
  | push target value => exact store.heap.push_wrote _ _
  | get target key => exact store.heap.wrote_nothing

theorem keep_closed (store : Store) (closed : store.Closed) (heap : Heap) (value : Datum) (kept : heap.Closed)
    (inside : value.Inside heap.cells.length) (grown : store.heap.cells.length ≤ heap.cells.length) :
    (store.keep (heap, value)).Closed := by
  refine ⟨kept, ?_⟩
  intro other held
  rcases List.mem_append.mp held with old | fresh
  · exact other.inside_later _ _ grown (closed.handles other old)
  · exact List.mem_singleton.mp fresh ▸ inside

theorem allocate_kept (store : Store) (closed : store.Closed) (cell : Cell)
    (stored : ∀ value ∈ cell.values, value.Inside store.heap.cells.length) :
    (store.keep (store.heap.allocate cell)).Closed := by
  have more := Heap.extends_size _ _ (store.heap.allocate_extends cell)
  have kept := store.heap.allocate_closed closed.heap cell stored
  exact store.keep_closed closed _ _ kept (store.heap.allocate_inside cell) more

theorem perform_closed (store : Store) (operation : Operation) (closed : store.Closed) :
    (store.perform operation).Closed := by
  cases operation with
  | load tree =>
      obtain ⟨loaded, inside⟩ := store.heap.load_closed closed.heap tree
      exact store.keep_closed closed _ _ loaded inside (Heap.extends_size _ _ (store.heap.load_extends tree))
  | array items =>
      apply store.allocate_kept closed
      intro value held
      obtain ⟨number, _, rfl⟩ := List.mem_map.mp held
      exact store.handle_inside closed number
  | object pairs =>
      apply store.allocate_kept closed
      intro value held
      have given := Entries.of_pairs_values _ value held
      rw [named, List.map_map] at given
      obtain ⟨pair, _, rfl⟩ := List.mem_map.mp given
      exact store.handle_inside closed pair.2
  | clone source => exact store.keep_closed closed _ _ closed.heap (store.handle_inside closed source) (Nat.le_refl _)
  | insert target key value =>
      refine ⟨store.heap.insert_closed closed.heap _ key _ (store.handle_inside closed value), ?_⟩
      simpa [perform] using closed.handles
  | push target value =>
      refine ⟨store.heap.push_closed closed.heap _ _ (store.handle_inside closed value), ?_⟩
      simpa [perform] using closed.handles
  | get target key =>
      refine ⟨closed.heap, ?_⟩
      intro value held
      rcases List.mem_append.mp held with old | fresh
      · exact closed.handles value old
      · exact store.heap.get_inside closed.heap _ key value (Option.mem_toList.mp fresh)

theorem run_wrote (store : Store) (operations : List Operation) :
    store.heap.Wrote (store.run operations).heap (store.history operations) := by
  induction operations generalizing store with
  | nil => exact store.heap.wrote_nothing
  | cons operation rest ih =>
      exact Heap.wrote_trans _ _ _ _ _ (store.perform_wrote operation) (ih (store.perform operation))

theorem run_closed (store : Store) (operations : List Operation) (closed : store.Closed) :
    (store.run operations).Closed := by
  induction operations generalizing store with
  | nil => exact closed
  | cons operation rest ih => exact ih _ (store.perform_closed operation closed)

theorem empty_closed : Store.empty.Closed where
  heap _ listed := absurd listed List.not_mem_nil
  handles _ listed := absurd listed List.not_mem_nil

structure Loads (store : Store) (tree : Json) (later : Heap) (root : Datum) : Prop where
  kept : ∀ value, store.Known value → later.view value = store.heap.view value
  unused : ∀ path id, later.data.at? root path = some (.container id) →
    store.heap.cells[id]? = none ∧ ¬ store.Known (.container id)
  apart : ∀ path other id, later.data.at? root path = some (.container id) →
    later.data.at? root other = some (.container id) → path = other
  reads : tree.DistinctKeys → ∀ path node, tree.at? path = some node →
    ∃ value, later.data.at? root path = some value ∧ later.data.Unfolds value node

theorem loads (store : Store) (closed : store.Closed) (tree : Json) :
    store.Loads tree (store.heap.load tree).1 (store.heap.load tree).2 := by
  have owned := store.heap.load_owned tree _ (Heap.extends_refl _)
  constructor
  case kept =>
    intro value known
    exact store.heap.extends_view _ (store.heap.load_extends tree) value (store.known_inside closed value known)
  case unused =>
    intro path id found
    have bounds := owned.within path id found
    refine ⟨List.getElem?_eq_none bounds.1, fun known => ?_⟩
    have inside : id < store.heap.cells.length := store.known_inside closed _ known
    omega
  case apart => exact owned.once
  case reads =>
    intro distinct path node found
    have unfolds := store.heap.load_unfolds tree distinct _ (Heap.extends_refl _)
    exact Instance.unfolds_at _ _ tree unfolds path node found

structure Sound (store : Store) (puts : Puts) : Prop where
  distinct : ∀ object id entries, store.heap.view object = .object id entries → (Entries.keys entries).Nodup
  order : ∀ object id entries, store.heap.view object = .object id entries →
    Entries.keys entries = (Entries.keys (puts.into id)).eraseDups
  last : ∀ object id entries, store.heap.view object = .object id entries → ∀ key,
    store.heap.get? object key = ((puts.into id).reverse.find? (·.1 == key)).map Prod.snd
  mapping : ∀ object id entries, store.heap.view object = .object id entries → store.heap.Mapping object
  insert : ∀ object id entries, store.heap.view object = .object id entries → ∀ key value,
    ∃ later, store.heap.insert object key value = (later, true) ∧ store.heap.Inserted later object key value
  push : ∀ array id items, store.heap.view array = .array id items → ∀ value,
    ∃ later, store.heap.push array value = (later, true) ∧ store.heap.Pushed later array value
  noObject : ∀ target, (store.heap.view target).kind ≠ .object → ∀ key value,
    store.heap.insert target key value = (store.heap, false)
  noArray : ∀ target, (store.heap.view target).kind ≠ .array → ∀ value,
    store.heap.push target value = (store.heap, false)
  load : ∀ tree, store.Loads tree (store.heap.load tree).1 (store.heap.load tree).2
  same : ∀ one other, store.Known one → store.Known other → (one.sameContainer other = true ↔
    ∃ id, (store.heap.view one).identity? = some id ∧ (store.heap.view other).identity? = some id)

theorem known_identity (store : Store) (closed : store.Closed) (id : Nat) (known : store.Known (.container id)) :
    (store.heap.view (.container id)).identity? = some id := by
  have inside : id < store.heap.cells.length := store.known_inside closed _ known
  rw [Heap.view, List.getElem?_eq_getElem inside]
  cases store.heap.cells[id] <;> rfl

theorem same_identity (store : Store) (closed : store.Closed) (one other : Datum) (known : store.Known one) :
    one.sameContainer other = true ↔
      ∃ id, (store.heap.view one).identity? = some id ∧ (store.heap.view other).identity? = some id := by
  constructor
  · intro same
    cases one with
    | scalar content => contradiction
    | container id =>
        obtain rfl := (same_container id other).mp same
        have identity := store.known_identity closed id known
        exact ⟨id, identity, identity⟩
  · rintro ⟨id, left, right⟩
    obtain rfl := store.heap.identity_handle one id left
    exact (same_container id other).mpr (store.heap.identity_handle other id right)

theorem sound_of_wrote (store : Store) (puts : Puts) (closed : store.Closed) (wrote : Heap.empty.Wrote store.heap puts) :
    store.Sound puts := by
  have filled : ∀ object id entries, store.heap.view object = .object id entries →
      entries = Entries.ofPairs (puts.into id) := by
    intro object id entries seen
    obtain ⟨rfl, _⟩ := store.heap.object_cell object id entries seen
    have written := wrote id
    rwa [seen] at written
  have distinct : ∀ object id entries, store.heap.view object = .object id entries → (Entries.keys entries).Nodup := by
    intro object id entries seen
    rw [filled object id entries seen]
    exact Entries.of_pairs_nodup _
  constructor
  case distinct => exact distinct
  case order =>
    intro object id entries seen
    rw [filled object id entries seen]
    exact Entries.of_pairs_keys _
  case last =>
    intro object id entries seen key
    obtain ⟨rfl, cell⟩ := store.heap.object_cell object id entries seen
    rw [store.heap.get_entry id entries key cell, filled _ id entries seen]
    exact Entries.of_pairs_get _ key
  case mapping =>
    intro object id entries seen
    exact store.heap.mapping_of_distinct object id entries seen (distinct object id entries seen)
  case insert =>
    intro object id entries seen key value
    exact store.heap.inserted object id entries key value seen (distinct object id entries seen)
  case push =>
    intro array id items seen value
    exact store.heap.pushed array id items value seen
  case noObject =>
    intro target other key value
    exact store.heap.insert_refused target key value other
  case noArray =>
    intro target other value
    exact store.heap.push_refused target value other
  case load => exact store.loads closed
  case same =>
    intro one other known _
    exact store.same_identity closed one other known

end Store

theorem operations_sound (operations : List Operation) :
    (Store.empty.run operations).Sound (Store.empty.history operations) :=
  Store.sound_of_wrote _ _ (Store.empty.run_closed operations Store.empty_closed) (Store.empty.run_wrote operations)

def selfHolding : List Operation := [.object [("a", 0), ("b", 0), ("a", 0)], .insert 0 "b" 0, .clone 0]

theorem self_holding_sound :
    Store.empty.run selfHolding =
      ⟨⟨[.object [("a", .scalar .null), ("b", .container 0)]]⟩, [.container 0, .container 0]⟩ ∧
    Entries.keys ((Store.empty.history selfHolding).into 0) = ["a", "b", "a", "b"] ∧
    ∃ later, (Store.empty.run selfHolding).heap.insert (.container 0) "a" (.container 0) = (later, true) ∧
      later.get? (.container 0) "a" = some (.container 0) ∧ later.get? (.container 0) "b" = some (.container 0) := by
  have sound := operations_sound selfHolding
  have seen : (Store.empty.run selfHolding).heap.view (.container 0) =
      .object 0 [("a", .scalar .null), ("b", .container 0)] := rfl
  obtain ⟨later, done, inserted⟩ := sound.insert (.container 0) 0 _ seen "a" (.container 0)
  have kept := inserted.others (.container 0) rfl "b" (by decide)
  exact ⟨by decide, by decide, later, done, inserted.found (.container 0) rfl, kept⟩

end ShapeCheck
