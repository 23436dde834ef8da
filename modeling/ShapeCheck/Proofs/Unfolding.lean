import Mathlib.Logic.Relation
import ShapeCheck.Instance.Basic
import ShapeCheck.Proofs.Trees
import ShapeCheck.Validation.Progress

set_option autoImplicit false

namespace ShapeCheck

variable {ν : Type}

def Layer.children (layer : Layer ν) : List ν := layer.items ++ layer.entries.map Prod.snd

namespace Instance

def Holds (data : Instance ν) (parent child : ν) : Prop := child ∈ (data.view parent).children

def Reaches (data : Instance ν) : ν → ν → Prop := Relation.ReflTransGen data.Holds

def Below (data : Instance ν) : ν → ν → Prop := Relation.TransGen data.Holds

-- No container that the root leads to leads back to itself. Siblings may still share.
def Acyclic (data : Instance ν) (root : ν) : Prop :=
  ∀ value, data.Reaches root value → ∀ later, data.Below value later →
    ∀ id, (data.view value).identity? = some id → (data.view later).identity? ≠ some id

def DistinctKeys (data : Instance ν) (root : ν) : Prop :=
  ∀ value, data.Reaches root value → (data.view value).keys.Nodup

-- The tree that a value looks like when what it shares is written out each time.
inductive Unfolds (data : Instance ν) : ν → Json → Prop where
  | scalar (value : ν) (content : Scalar) (seen : data.view value = .scalar content) :
      Unfolds data value (.scalar content)
  | array (value : ν) (id : Nat) (items : List ν) (trees : List Json) (seen : data.view value = .array id items)
      (each : List.Forall₂ (Unfolds data) items trees) : Unfolds data value (.array trees)
  | object (value : ν) (id : Nat) (entries : List (String × ν)) (members : List (String × Json))
      (seen : data.view value = .object id entries)
      (keys : Entries.keys entries = Entries.keys members)
      (each : List.Forall₂ (Unfolds data) (entries.map Prod.snd) (members.map Prod.snd)) :
      Unfolds data value (.object members)

theorem holds_item (data : Instance ν) (value : ν) (id : Nat) (items : List ν) (item : ν)
    (seen : data.view value = .array id items) (listed : item ∈ items) : data.Holds value item := by
  simpa [Holds, seen, Layer.children, Layer.items, Layer.entries] using listed

theorem holds_entry (data : Instance ν) (value : ν) (id : Nat) (entries : List (String × ν)) (entry : String × ν)
    (seen : data.view value = .object id entries) (listed : entry ∈ entries) : data.Holds value entry.2 := by
  simp only [Holds, seen, Layer.children, Layer.items, Layer.entries, List.nil_append]
  exact List.mem_map_of_mem listed

theorem acyclic_reached (data : Instance ν) (root value : ν) (acyclic : data.Acyclic root)
    (reached : data.Reaches root value) : data.Acyclic value :=
  fun inner deeper => acyclic inner (reached.trans deeper)

theorem acyclic_child (data : Instance ν) (root child : ν) (acyclic : data.Acyclic root)
    (held : data.Holds root child) : data.Acyclic child :=
  data.acyclic_reached root child acyclic (.single held)

theorem distinct_child (data : Instance ν) (root child : ν) (distinct : data.DistinctKeys root)
    (held : data.Holds root child) : data.DistinctKeys child :=
  fun inner deeper => distinct inner (.head held deeper)

theorem unfolds_scalar (data : Instance ν) (value : ν) (content : Scalar)
    (unfolds : data.Unfolds value (.scalar content)) : data.view value = .scalar content := by
  cases unfolds
  assumption

theorem unfolds_array (data : Instance ν) (value : ν) (trees : List Json) (unfolds : data.Unfolds value (.array trees)) :
    ∃ id items, data.view value = .array id items ∧ List.Forall₂ data.Unfolds items trees := by
  cases unfolds with
  | array _ id items _ seen each => exact ⟨id, items, seen, each⟩

theorem unfolds_object (data : Instance ν) (value : ν) (members : List (String × Json))
    (unfolds : data.Unfolds value (.object members)) :
    ∃ id entries, data.view value = .object id entries ∧ Entries.keys entries = Entries.keys members ∧
      List.Forall₂ data.Unfolds (entries.map Prod.snd) (members.map Prod.snd) := by
  cases unfolds with
  | object _ id entries _ seen keys each => exact ⟨id, entries, seen, keys, each⟩

theorem unfolds_one_item (data : Instance ν) (value : ν) (tree : Json) (unfolds : data.Unfolds value (.array [tree])) :
    ∃ id child, data.view value = .array id [child] ∧ data.Unfolds child tree := by
  obtain ⟨id, items, seen, each⟩ := data.unfolds_array value [tree] unfolds
  obtain ⟨child, rest, unfolded, ended, same⟩ := List.forall₂_cons_right_iff.mp each
  rw [List.forall₂_nil_right_iff] at ended
  subst ended same
  exact ⟨id, child, seen, unfolded⟩

theorem unfolds_one_entry (data : Instance ν) (value : ν) (key : String) (tree : Json)
    (unfolds : data.Unfolds value (.object [(key, tree)])) :
    ∃ id child, data.view value = .object id [(key, child)] ∧ data.Unfolds child tree := by
  obtain ⟨id, entries, seen, keys, each⟩ := data.unfolds_object value _ unfolds
  have paired := entries_paired data.Unfolds entries _ keys each
  obtain ⟨⟨other, child⟩, rest, ⟨same, unfolded⟩, ended, whole⟩ := List.forall₂_cons_right_iff.mp paired
  rw [List.forall₂_nil_right_iff] at ended
  obtain rfl : other = key := same
  subst ended whole
  exact ⟨id, child, seen, unfolded⟩

theorem unfolds_unique (data : Instance ν) (value : ν) (one other : Json) (left : data.Unfolds value one)
    (right : data.Unfolds value other) : one = other := by
  match one, left with
  | .scalar content, left =>
      have seen := data.unfolds_scalar value content left
      cases right with
      | scalar _ same seenToo => simpa [seen] using seenToo
      | array _ _ _ _ seenToo _ => simp [seen] at seenToo
      | object _ _ _ _ seenToo _ _ => simp [seen] at seenToo
  | .array trees, left =>
      obtain ⟨id, items, seen, each⟩ := data.unfolds_array value trees left
      cases right with
      | scalar _ _ seenToo => simp [seen] at seenToo
      | array _ _ _ others seenToo eachToo =>
          rw [seen] at seenToo
          cases seenToo
          have same : trees = others := by
            apply forall₂_unique data.Unfolds items trees others each eachToo
            intro item one listed other
            exact unfolds_unique data item one other
          rw [same]
      | object _ _ _ _ seenToo _ _ => simp [seen] at seenToo
  | .object members, left =>
      obtain ⟨id, entries, seen, keys, each⟩ := data.unfolds_object value members left
      cases right with
      | scalar _ _ seenToo => simp [seen] at seenToo
      | array _ _ _ _ seenToo _ => simp [seen] at seenToo
      | object _ _ _ others seenToo keysToo eachToo =>
          rw [seen] at seenToo
          cases seenToo
          have values : members.map Prod.snd = others.map Prod.snd := by
            apply forall₂_unique data.Unfolds _ _ _ each eachToo
            intro entry one listed other
            exact unfolds_unique data entry one other
          have names : Entries.keys members = Entries.keys others := keys.symm.trans keysToo
          rw [entries_same members others names values]
termination_by one.size
decreasing_by
  · exact Json.size_item trees one listed
  · obtain ⟨member, here, same⟩ := List.mem_map.mp listed
    exact same ▸ Json.size_member members member here

theorem holds_child (data : Instance ν) (parent child : ν) (tree : Json) (unfolds : data.Unfolds parent tree)
    (held : data.Holds parent child) : ∃ inner ∈ tree.children, data.Unfolds child inner := by
  cases unfolds with
  | scalar _ content seen => simp [Holds, seen, Layer.children, Layer.items, Layer.entries] at held
  | array _ id items trees seen each =>
      have listed : child ∈ items := by
        simpa [Holds, seen, Layer.children, Layer.items, Layer.entries] using held
      exact forall₂_left data.Unfolds items trees each child listed
  | object _ id entries members seen keys each =>
      have listed : child ∈ entries.map Prod.snd := by
        simpa only [Holds, seen, Layer.children, Layer.items, Layer.entries, List.nil_append] using held
      exact forall₂_left data.Unfolds _ _ each child listed

theorem holds_unfolds (data : Instance ν) (parent child : ν) (tree : Json) (unfolds : data.Unfolds parent tree)
    (held : data.Holds parent child) : ∃ smaller, data.Unfolds child smaller ∧ smaller.size < tree.size := by
  obtain ⟨inner, here, unfolded⟩ := data.holds_child parent child tree unfolds held
  exact ⟨inner, unfolded, tree.size_child inner here⟩

theorem below_unfolds (data : Instance ν) (value later : ν) (tree : Json) (unfolds : data.Unfolds value tree)
    (below : data.Below value later) : ∃ smaller, data.Unfolds later smaller ∧ smaller.size < tree.size := by
  induction below with
  | single held => exact data.holds_unfolds value _ tree unfolds held
  | tail _ held ih =>
      obtain ⟨middle, unfolded, bound⟩ := ih
      obtain ⟨inner, innermost, smaller⟩ := data.holds_unfolds _ _ middle unfolded held
      exact ⟨inner, innermost, Nat.lt_trans smaller bound⟩

theorem reaches_unfolds (data : Instance ν) (root value : ν) (tree : Json) (unfolds : data.Unfolds root tree)
    (reached : data.Reaches root value) : ∃ inner, data.Unfolds value inner := by
  induction reached with
  | refl => exact ⟨tree, unfolds⟩
  | tail _ held ih =>
      obtain ⟨middle, unfolded⟩ := ih
      obtain ⟨inner, innermost, _⟩ := data.holds_unfolds _ _ middle unfolded held
      exact ⟨inner, innermost⟩

theorem acyclic_of_unfolds (data : Instance ν)
    (single : ∀ value other id, (data.view value).identity? = some id →
      (data.view other).identity? = some id → value = other)
    (root : ν) (tree : Json) (unfolds : data.Unfolds root tree) : data.Acyclic root := by
  intro value reached later below id seen again
  obtain ⟨inner, unfolded⟩ := data.reaches_unfolds root value tree unfolds reached
  obtain ⟨smaller, deeper, bound⟩ := data.below_unfolds value later inner unfolded below
  have same := single value later id seen again
  subst same
  have equal := data.unfolds_unique value inner smaller unfolded deeper
  subst equal
  exact Nat.lt_irrefl _ bound

-- The containers above a value, none of which it may hold again, bound the depth of the
-- unfolding: `above` grows at every container and stays below the bound of the identities.
theorem acyclic_unfolds_below (data : Instance ν) (root : ν) (acyclic : data.Acyclic root) (above : List Nat)
    (value : ν) (reached : data.Reaches root value)
    (held : ∀ id ∈ above, ∃ holder, data.Reaches root holder ∧ (data.view holder).identity? = some id ∧
      data.Below holder value) : ∃ tree, data.Unfolds value tree := by
  have fresh : ∀ id, (data.view value).identity? = some id → id ∉ above := by
    intro id seen listed
    obtain ⟨holder, start, same, below⟩ := held id listed
    exact acyclic holder start value below id same seen
  have inner : ∀ id child, (data.view value).identity? = some id → data.Holds value child →
      ∀ other ∈ id :: above, ∃ holder, data.Reaches root holder ∧ (data.view holder).identity? = some other ∧
        data.Below holder child := by
    intro id child seen holds other listed
    rcases List.mem_cons.mp listed with same | outer
    · exact ⟨value, reached, same ▸ seen, .single holds⟩
    · obtain ⟨holder, start, same, below⟩ := held other outer
      exact ⟨holder, start, same, below.tail holds⟩
  match seen : data.view value with
  | .scalar content => exact ⟨.scalar content, .scalar value content seen⟩
  | .array id items =>
      have here : (data.view value).identity? = some id := by rw [seen]; rfl
      have each : ∀ item ∈ items, ∃ tree, data.Unfolds item tree := by
        intro item listed
        have holds := data.holds_item value id items item seen listed
        have marks := inner id item here holds
        exact acyclic_unfolds_below data root acyclic (id :: above) item (reached.tail holds) marks
      obtain ⟨trees, unfolded⟩ := forall₂_exists data.Unfolds items each
      exact ⟨.array trees, .array value id items trees seen unfolded⟩
  | .object id entries =>
      have here : (data.view value).identity? = some id := by rw [seen]; rfl
      have each : ∀ child ∈ entries.map Prod.snd, ∃ tree, data.Unfolds child tree := by
        intro child listed
        have holds : data.Holds value child := by
          simpa only [Holds, seen, Layer.children, Layer.items, Layer.entries, List.nil_append] using listed
        have marks := inner id child here holds
        exact acyclic_unfolds_below data root acyclic (id :: above) child (reached.tail holds) marks
      obtain ⟨trees, unfolded⟩ := forall₂_exists data.Unfolds _ each
      have lengths : (Entries.keys entries).length = trees.length := by
        rw [← unfolded.length_eq, Entries.keys, List.length_map, List.length_map]
      refine ⟨.object ((Entries.keys entries).zip trees), .object value id entries _ seen ?_ ?_⟩
      · exact (List.map_fst_zip (Nat.le_of_eq lengths)).symm
      · rwa [List.map_snd_zip (Nat.le_of_eq lengths.symm)]
termination_by ({ Progress.start with entered := above } : Progress).remaining data.bound
decreasing_by
  · have bounded := data.bounded _ _ here
    have unmarked := fresh id here
    exact Progress.remaining_follow _ { Progress.start with entered := above } "" id bounded (by simpa using unmarked)
  · have bounded := data.bounded _ _ here
    have unmarked := fresh id here
    exact Progress.remaining_follow _ { Progress.start with entered := above } "" id bounded (by simpa using unmarked)

theorem acyclic_unfolds (data : Instance ν) (root : ν) (acyclic : data.Acyclic root) :
    ∃ tree, data.Unfolds root tree :=
  data.acyclic_unfolds_below root acyclic [] root .refl (by simp)

theorem unfolds_kind (data : Instance ν) (value : ν) (tree : Json) (unfolds : data.Unfolds value tree) :
    data.kind value = tree.kind := by
  cases unfolds with
  | scalar _ content seen => rw [kind, seen]; rfl
  | array _ id items trees seen each => rw [kind, seen]; rfl
  | object _ id entries members seen keys each => rw [kind, seen]; rfl

theorem unfolds_literal (data : Instance ν) (value : ν) (tree : Json) (unfolds : data.Unfolds value tree) :
    (data.view value).equalsLiteral = tree.equalsLiteral := by
  funext literal
  cases unfolds with
  | scalar _ content seen => rw [seen]; rfl
  | array _ id items trees seen each => rw [seen]; rfl
  | object _ id entries members seen keys each => rw [seen]; rfl

theorem unfolds_cases (data : Instance ν) (value : ν) (tree : Json) (unfolds : data.Unfolds value tree) :
    (∃ content, tree = .scalar content ∧ data.view value = .scalar content) ∨
      (tree.kind.isContainer = true ∧ ∃ id, (data.view value).identity? = some id) := by
  cases unfolds with
  | scalar _ content seen => exact .inl ⟨content, rfl, seen⟩
  | array _ id items trees seen each => exact .inr ⟨rfl, id, by rw [seen]; rfl⟩
  | object _ id entries members seen keys each => exact .inr ⟨rfl, id, by rw [seen]; rfl⟩

theorem unfolds_container (data : Instance ν) (value : ν) (tree : Json) (unfolds : data.Unfolds value tree)
    (container : tree.kind.isContainer = true) : ∃ id, (data.view value).identity? = some id := by
  rcases data.unfolds_cases value tree unfolds with ⟨content, same, _⟩ | ⟨_, found⟩
  · simp [same] at container
  · exact found

theorem unfolds_distinct (data : Instance ν) (value : ν) (tree : Json) (distinct : data.DistinctKeys value)
    (unfolds : data.Unfolds value tree) : tree.DistinctKeys := by
  match tree, unfolds with
  | .scalar content, _ => exact trivial
  | .array trees, unfolds =>
      obtain ⟨id, items, seen, each⟩ := data.unfolds_array value trees unfolds
      apply Json.distinct_items
      intro tree listed
      obtain ⟨item, here, unfolded⟩ := forall₂_left _ trees items each.flip tree listed
      have held := data.holds_item value id items item seen here
      have inside := data.distinct_child value item distinct held
      exact unfolds_distinct data item tree inside unfolded
  | .object members, unfolds =>
      obtain ⟨id, entries, seen, keys, each⟩ := data.unfolds_object value members unfolds
      have own := distinct value .refl
      rw [seen, Layer.keys, Layer.entries, keys] at own
      refine ⟨own, ?_⟩
      apply Json.distinct_entries
      intro tree listed
      obtain ⟨child, here, unfolded⟩ := forall₂_left _ _ _ each.flip tree listed
      obtain ⟨entry, place, same⟩ := List.mem_map.mp here
      have held : data.Holds value child := same ▸ data.holds_entry value id entries entry seen place
      have inside := data.distinct_child value child distinct held
      exact unfolds_distinct data child tree inside unfolded
termination_by tree.size
decreasing_by
  · exact Json.size_item trees tree listed
  · obtain ⟨member, place, same⟩ := List.mem_map.mp listed
    exact same ▸ Json.size_member members member place

theorem distinct_unfolds (data : Instance ν) (root : ν) (tree : Json) (unfolds : data.Unfolds root tree)
    (distinct : tree.DistinctKeys) : data.DistinctKeys root := by
  intro value reached
  have inside : ∃ inner, data.Unfolds value inner ∧ inner.DistinctKeys := by
    induction reached with
    | refl => exact ⟨tree, unfolds, distinct⟩
    | tail _ held ih =>
        obtain ⟨middle, unfolded, apart⟩ := ih
        obtain ⟨child, here, below⟩ := data.holds_child _ _ middle unfolded held
        exact ⟨child, below, middle.distinct_below child apart here⟩
  obtain ⟨inner, unfolded, apart⟩ := inside
  cases unfolded with
  | scalar _ content seen => simp [seen, Layer.keys, Layer.entries, Entries.keys]
  | array _ id items trees seen each => simp [seen, Layer.keys, Layer.entries, Entries.keys]
  | object _ id entries members seen keys each =>
      rw [seen, Layer.keys, Layer.entries, keys]
      exact apart.1

def Marked (data : Instance ν) (entered : List Nat) (value : ν) : Prop :=
  ∃ id ∈ entered, (data.view value).identity? = some id

-- A value that looks like a tree, with no container below it entered. The value itself may
-- be, as the root of a check is.
structure Ready (data : Instance ν) (entered : List Nat) (value : ν) (tree : Json) : Prop where
  unfolds : data.Unfolds value tree
  acyclic : data.Acyclic value
  clear : ∀ later, data.Below value later → ¬ data.Marked entered later

theorem ready_child (data : Instance ν) (entered : List Nat) (value child : ν) (tree inner : Json)
    (ready : data.Ready entered value tree) (held : data.Holds value child) (unfolds : data.Unfolds child inner) :
    data.Ready entered child inner where
  unfolds := unfolds
  acyclic := data.acyclic_child value child ready.acyclic held
  clear later below := ready.clear later (.head held below)

theorem ready_fresh (data : Instance ν) (entered : List Nat) (value child : ν) (tree : Json)
    (ready : data.Ready entered value tree) (held : data.Holds value child) : ¬ data.Marked entered child :=
  ready.clear child (.single held)

-- Entering a container marks nothing below it, because it does not lead back to itself.
theorem ready_inside (data : Instance ν) (entered : List Nat) (value : ν) (tree : Json) (id : Nat)
    (ready : data.Ready entered value tree) (seen : (data.view value).identity? = some id) :
    data.Ready (id :: entered) value tree := by
  refine ⟨ready.unfolds, ready.acyclic, fun later below marked => ?_⟩
  obtain ⟨other, listed, same⟩ := marked
  rcases List.mem_cons.mp listed with here | before
  · exact ready.acyclic value .refl later below id seen (here ▸ same)
  · exact ready.clear later below ⟨other, before, same⟩

theorem ready_unmarked (data : Instance ν) (value : ν) (tree : Json) (unfolds : data.Unfolds value tree)
    (acyclic : data.Acyclic value) : data.Ready [] value tree :=
  ⟨unfolds, acyclic, fun _ _ ⟨_, listed, _⟩ => List.not_mem_nil listed⟩

def ownIdentity (data : Instance ν) (value : ν) : List Nat := (data.view value).identity?.toList

theorem ready_start (data : Instance ν) (value : ν) (tree : Json) (unfolds : data.Unfolds value tree)
    (acyclic : data.Acyclic value) : data.Ready (data.ownIdentity value) value tree := by
  refine ⟨unfolds, acyclic, fun later below ⟨id, listed, same⟩ => ?_⟩
  rw [ownIdentity, Option.mem_toList] at listed
  exact acyclic value .refl later below id listed same

theorem marked_start (data : Instance ν) (value : ν) (tree : Json) (unfolds : data.Unfolds value tree) :
    data.Marked (data.ownIdentity value) value ↔ tree.kind.isContainer = true := by
  constructor
  · intro ⟨id, _, seen⟩
    rcases data.unfolds_cases value tree unfolds with ⟨content, _, scalar⟩ | ⟨container, _⟩
    · rw [scalar] at seen
      contradiction
    · exact container
  · intro container
    obtain ⟨id, seen⟩ := data.unfolds_container value tree unfolds container
    exact ⟨id, by rwa [ownIdentity, Option.mem_toList], seen⟩

end Instance

end ShapeCheck
