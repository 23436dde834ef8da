import ShapeCheck.Instance.Tree
import ShapeCheck.Proofs.Unfolding

set_option autoImplicit false

namespace ShapeCheck.Tree

variable {total : Nat}

theorem item_nodes_after (number : Nat) (items : List Json) (fits : number + Json.sizeItems items ≤ total) :
    ∀ node ∈ itemNodes number items fits, number ≤ node.number := by
  induction items generalizing number with
  | nil => simp [itemNodes]
  | cons item rest ih =>
      intro node listed
      rw [itemNodes] at listed
      rcases List.mem_cons.mp listed with same | later
      · subst same
        exact Nat.le_refl number
      · have after := ih _ _ node later
        exact Nat.le_trans (Nat.le_add_right _ _) after

theorem entry_nodes_after (number : Nat) (entries : List (String × Json))
    (fits : number + Json.sizeEntries entries ≤ total) :
    ∀ entry ∈ entryNodes number entries fits, number ≤ entry.2.number := by
  induction entries generalizing number with
  | nil => simp [entryNodes]
  | cons entry rest ih =>
      intro node listed
      rw [entryNodes] at listed
      rcases List.mem_cons.mp listed with same | later
      · subst same
        exact Nat.le_refl number
      · have after := ih _ _ node later
        exact Nat.le_trans (Nat.le_add_right _ _) after

theorem entry_nodes_keys (number : Nat) (entries : List (String × Json))
    (fits : number + Json.sizeEntries entries ≤ total) :
    Entries.keys (entryNodes number entries fits) = Entries.keys entries := by
  induction entries generalizing number with
  | nil => rfl
  | cons entry rest ih => exact congrArg (List.cons entry.1) (ih _ _)

-- Nodes are numbered from the root on, so a number tells a node from all that it holds.
theorem holds_after (parent child : Node total) (held : (data total).Holds parent child) :
    parent.number < child.number := by
  rcases parent with ⟨number, value, fits⟩
  cases value with
  | scalar content => simp [Instance.Holds, data, view, Layer.children, Layer.items, Layer.entries] at held
  | array items =>
      simp only [Instance.Holds, data, view, Layer.children, Layer.items, Layer.entries, List.map_nil,
        List.append_nil] at held
      exact item_nodes_after _ items _ child held
  | object entries =>
      simp only [Instance.Holds, data, view, Layer.children, Layer.items, Layer.entries, List.nil_append] at held
      obtain ⟨entry, listed, same⟩ := List.mem_map.mp held
      have after := entry_nodes_after _ entries _ entry listed
      exact same ▸ after

theorem below_after (value later : Node total) (below : (data total).Below value later) :
    value.number < later.number := by
  induction below with
  | single held => exact holds_after _ _ held
  | tail _ held ih =>
      have step := holds_after _ _ held
      exact Nat.lt_trans ih step

theorem identity_number (node : Node total) (id : Nat) (seen : ((data total).view node).identity? = some id) :
    id = node.number := by
  rcases node with ⟨number, value, fits⟩
  cases value with
  | scalar content => simp [data, view, Layer.identity?] at seen
  | array items => simpa [data, view, Layer.identity?, eq_comm] using seen
  | object entries => simpa [data, view, Layer.identity?, eq_comm] using seen

theorem node_acyclic (root : Node total) : (data total).Acyclic root := by
  intro value _ later below id seen again
  have order := below_after value later below
  rw [← identity_number value id seen, ← identity_number later id again] at order
  exact Nat.lt_irrefl id order

mutual
theorem node_unfolds (number : Nat) (value : Json) (fits : number + value.size ≤ total) :
    (data total).Unfolds ⟨number, value, fits⟩ value := by
  cases value with
  | scalar content => exact .scalar _ content rfl
  | array items => exact .array _ number _ items rfl (item_nodes_unfold (number + 1) items _)
  | object entries =>
      exact .object _ number _ entries rfl (entry_nodes_keys _ _ _) (entry_nodes_unfold (number + 1) entries _)
theorem item_nodes_unfold (number : Nat) (items : List Json) (fits : number + Json.sizeItems items ≤ total) :
    List.Forall₂ (data total).Unfolds (itemNodes number items fits) items := by
  cases items with
  | nil => exact .nil
  | cons item rest => exact .cons (node_unfolds number item _) (item_nodes_unfold (number + item.size) rest _)
theorem entry_nodes_unfold (number : Nat) (entries : List (String × Json))
    (fits : number + Json.sizeEntries entries ≤ total) :
    List.Forall₂ (data total).Unfolds ((entryNodes number entries fits).map Prod.snd)
      (entries.map Prod.snd) := by
  cases entries with
  | nil => exact .nil
  | cons entry rest =>
      exact .cons (node_unfolds number entry.2 _) (entry_nodes_unfold (number + entry.2.size) rest _)
end

theorem root_unfolds (value : Json) : (data value.size).Unfolds (root value) value :=
  node_unfolds 0 value _

end ShapeCheck.Tree
