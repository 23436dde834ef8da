import Mathlib.Data.List.Forall2
import ShapeCheck.Instance.Basic
import ShapeCheck.Validation.Path

set_option autoImplicit false

namespace ShapeCheck

namespace Json

theorem size_item (items : List Json) (item : Json) (listed : item ∈ items) : item.size < (Json.array items).size := by
  have bound : item.size ≤ sizeItems items := by
    induction items with
    | nil => simp at listed
    | cons first rest ih =>
        rw [sizeItems]
        rcases List.mem_cons.mp listed with same | later
        · subst same
          omega
        · have smaller := ih later
          omega
  rw [size]
  omega

theorem size_member (members : List (String × Json)) (member : String × Json) (listed : member ∈ members) :
    member.2.size < (Json.object members).size := by
  have bound : member.2.size ≤ sizeEntries members := by
    induction members with
    | nil => simp at listed
    | cons first rest ih =>
        rw [sizeEntries]
        rcases List.mem_cons.mp listed with same | later
        · subst same
          omega
        · have smaller := ih later
          omega
  rw [size]
  omega

theorem size_found (members : List (String × Json)) (key : String) (child : Json)
    (found : Entries.get? key members = some child) : child.size < (Json.object members).size :=
  size_member members (key, child) (Entries.get_mem key child members found)

theorem distinct_items (items : List Json) (each : ∀ item ∈ items, item.DistinctKeys) : DistinctItems items := by
  induction items with
  | nil => exact trivial
  | cons first rest ih =>
      rw [List.forall_mem_cons] at each
      exact ⟨each.1, ih each.2⟩

theorem distinct_item (items : List Json) (distinct : DistinctItems items) (item : Json) (listed : item ∈ items) :
    item.DistinctKeys := by
  induction items with
  | nil => simp at listed
  | cons first rest ih =>
      rcases List.mem_cons.mp listed with same | later
      · exact same ▸ distinct.1
      · exact ih distinct.2 later

theorem distinct_entries (members : List (String × Json))
    (each : ∀ child ∈ members.map Prod.snd, child.DistinctKeys) : DistinctEntries members := by
  induction members with
  | nil => exact trivial
  | cons first rest ih =>
      rw [List.map_cons, List.forall_mem_cons] at each
      exact ⟨each.1, ih each.2⟩

theorem distinct_entry (members : List (String × Json)) (distinct : DistinctEntries members) (member : String × Json)
    (listed : member ∈ members) : member.2.DistinctKeys := by
  induction members with
  | nil => simp at listed
  | cons first rest ih =>
      rcases List.mem_cons.mp listed with same | later
      · exact same ▸ distinct.1
      · exact ih distinct.2 later

def children : Json → List Json
  | .scalar _ => []
  | .array items => items
  | .object members => members.map Prod.snd

theorem size_child (tree child : Json) (held : child ∈ tree.children) : child.size < tree.size := by
  cases tree with
  | scalar content => simp [children] at held
  | array items => exact size_item items child held
  | object members =>
      obtain ⟨member, listed, same⟩ := List.mem_map.mp held
      exact same ▸ size_member members member listed

theorem distinct_below (tree child : Json) (distinct : tree.DistinctKeys) (held : child ∈ tree.children) :
    child.DistinctKeys := by
  cases tree with
  | scalar content => simp [children] at held
  | array items => exact distinct_item items distinct child held
  | object members =>
      obtain ⟨member, listed, same⟩ := List.mem_map.mp held
      exact same ▸ distinct_entry members distinct.2 member listed

def kind : Json → Kind
  | .scalar content => content.kind
  | .array _ => .array
  | .object _ => .object

@[simp] theorem scalar_kind (content : Scalar) : (Json.scalar content).kind.isContainer = false := by
  cases content <;> rfl

@[simp] theorem scalar_not_array (content : Scalar) : (Json.scalar content).kind ≠ .array := by
  cases content <;> exact Kind.noConfusion

@[simp] theorem scalar_not_object (content : Scalar) : (Json.scalar content).kind ≠ .object := by
  cases content <;> exact Kind.noConfusion

def equalsLiteral : Json → Json → Bool
  | .scalar content, literal => content.equalsLiteral literal
  | _, _ => false

def at? : Json → Path → Option Json
  | value, [] => some value
  | .array items, .index position :: rest => items[position]?.bind (at? · rest)
  | .object members, .key name :: rest => (Entries.get? name members).bind (at? · rest)
  | _, _ :: _ => none

theorem at_index (items : List Json) (position : Nat) (item : Json) (rest : Path)
    (placed : items[position]? = some item) : (Json.array items).at? (.index position :: rest) = item.at? rest := by
  rw [at?, placed, Option.bind_some]

theorem at_key (members : List (String × Json)) (name : String) (child : Json) (rest : Path)
    (placed : Entries.get? name members = some child) :
    (Json.object members).at? (.key name :: rest) = child.at? rest := by
  rw [at?, placed, Option.bind_some]

end Json

theorem entries_paired {α β : Type} (related : α → β → Prop) (entries : List (String × α))
    (members : List (String × β)) (keys : Entries.keys entries = Entries.keys members)
    (each : List.Forall₂ related (entries.map Prod.snd) (members.map Prod.snd)) :
    List.Forall₂ (fun entry member => entry.1 = member.1 ∧ related entry.2 member.2) entries members := by
  induction entries generalizing members with
  | nil =>
      cases members with
      | nil => exact .nil
      | cons member rest => simp [Entries.keys] at keys
  | cons entry rest ih =>
      cases members with
      | nil => simp [Entries.keys] at keys
      | cons member others =>
          simp only [Entries.keys, List.map_cons, List.cons.injEq] at keys
          rw [List.map_cons, List.map_cons, List.forall₂_cons] at each
          exact .cons ⟨keys.1, each.1⟩ (ih others keys.2 each.2)

theorem entries_same {α : Type} (entries others : List (String × α)) (keys : Entries.keys entries = Entries.keys others)
    (values : entries.map Prod.snd = others.map Prod.snd) : entries = others := by
  have joined : ∀ list : List (String × α), (Entries.keys list).zip (list.map Prod.snd) = list := by
    intro list
    simp [Entries.keys, List.zip_map']
  rw [← joined entries, ← joined others, keys, values]

theorem forall₂_unique {α β : Type} (related : α → β → Prop) (values : List α) (ones others : List β)
    (left : List.Forall₂ related values ones) (right : List.Forall₂ related values others)
    (unique : ∀ value, ∀ one ∈ ones, ∀ other, related value one → related value other → one = other) :
    ones = others := by
  induction left generalizing others with
  | nil => cases right; rfl
  | cons head tail ih =>
      cases right with
      | cons otherHead otherTail =>
          have first := unique _ _ List.mem_cons_self _ head otherHead
          have later := ih _ otherTail fun value one listed => unique value one (List.mem_cons_of_mem _ listed)
          rw [first, later]

theorem forall₂_listed {α β : Type} (related strong : α → β → Prop) (values : List α) (others : List β)
    (each : List.Forall₂ related values others)
    (lift : ∀ value ∈ values, ∀ other, related value other → strong value other) :
    List.Forall₂ strong values others := by
  induction each with
  | nil => exact .nil
  | cons head tail ih =>
      have first := lift _ List.mem_cons_self _ head
      have later := ih fun value listed => lift value (List.mem_cons_of_mem _ listed)
      exact .cons first later

theorem forall₂_left {α β : Type} (related : α → β → Prop) (values : List α) (others : List β)
    (each : List.Forall₂ related values others) (value : α) (listed : value ∈ values) :
    ∃ other ∈ others, related value other := by
  induction each with
  | nil => simp at listed
  | cons head tail ih =>
      rcases List.mem_cons.mp listed with same | later
      · exact ⟨_, List.mem_cons_self, same ▸ head⟩
      · obtain ⟨other, here, holds⟩ := ih later
        exact ⟨other, List.mem_cons_of_mem _ here, holds⟩

theorem forall₂_exists {α β : Type} (related : α → β → Prop) (values : List α)
    (each : ∀ value ∈ values, ∃ other, related value other) : ∃ others, List.Forall₂ related values others := by
  induction values with
  | nil => exact ⟨[], .nil⟩
  | cons value rest ih =>
      obtain ⟨other, head⟩ := each value List.mem_cons_self
      obtain ⟨others, tail⟩ := ih fun later listed => each later (List.mem_cons_of_mem _ listed)
      exact ⟨other :: others, .cons head tail⟩

section

variable {α β : Type} (related : α → β → Prop) (key : String) (entries : List (String × α)) (members : List (String × β))
  (paired : List.Forall₂ (fun entry member => entry.1 = member.1 ∧ related entry.2 member.2) entries members)
include paired

theorem get_paired : Option.Rel related (Entries.get? key entries) (Entries.get? key members) := by
  induction paired with
  | nil => exact .none
  | cons head tail ih =>
      rename_i entry member rest others
      rw [Entries.get?, Entries.get?, ← head.1]
      by_cases here : entry.1 = key
      · rw [if_pos here, if_pos here]
        exact .some head.2
      · rw [if_neg here, if_neg here]
        exact ih

theorem get_paired_none (absent : Entries.get? key members = none) : Entries.get? key entries = none := by
  have both := get_paired related key entries members paired
  cases found : Entries.get? key entries with
  | none => rfl
  | some value => simp [found, absent] at both

theorem get_paired_some (other : β) (present : Entries.get? key members = some other) :
    ∃ value, Entries.get? key entries = some value ∧ related value other := by
  have both := get_paired related key entries members paired
  cases found : Entries.get? key entries with
  | none => simp [found, present] at both
  | some value =>
      rw [found, present, Option.rel_some_some] at both
      exact ⟨value, rfl, both⟩

end

theorem Entries.get_fresh {α : Type} (key : String) (entries : List (String × α)) (fresh : key ∉ Entries.keys entries) :
    Entries.get? key entries = none := by
  induction entries with
  | nil => rfl
  | cons first rest ih =>
      rw [keys, List.map_cons, List.mem_cons, not_or] at fresh
      rw [get?, if_neg (Ne.symm fresh.1)]
      exact ih fresh.2

theorem get_distinct {α : Type} (entries : List (String × α)) (distinct : (Entries.keys entries).Nodup)
    (entry : String × α) (listed : entry ∈ entries) : Entries.get? entry.1 entries = some entry.2 := by
  induction entries with
  | nil => simp at listed
  | cons first rest ih =>
      rw [Entries.keys, List.map_cons, List.nodup_cons] at distinct
      rw [Entries.get?]
      rcases List.mem_cons.mp listed with same | later
      · rw [if_pos (congrArg Prod.fst same).symm, same]
      · have apart : first.1 ≠ entry.1 := fun same => distinct.1 (same ▸ List.mem_map_of_mem later)
        rw [if_neg apart]
        exact ih distinct.2 later

theorem Entries.get_filter {α : Type} (key : String) (entries : List (String × α)) (keep : α → Bool)
    (distinct : (Entries.keys entries).Nodup) (value : α) (found : Entries.get? key entries = some value)
    (kept : keep value = true) : Entries.get? key (entries.filter (keep ·.2)) = some value := by
  have listed := Entries.get_mem key value entries found
  have still : (Entries.keys (entries.filter (keep ·.2))).Nodup :=
    List.Nodup.sublist (List.Sublist.map _ List.filter_sublist) distinct
  have passes : (key, value) ∈ entries.filter (keep ·.2) := List.mem_filter.mpr ⟨listed, kept⟩
  exact get_distinct _ still (key, value) passes

end ShapeCheck
