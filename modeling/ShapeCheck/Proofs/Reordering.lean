import Mathlib.Data.List.Perm.Basic
import ShapeCheck.Proofs.Compilation
import ShapeCheck.Proofs.Dependence
import ShapeCheck.Proofs.Layout

set_option autoImplicit false

namespace ShapeCheck

namespace Table

structure Interchangeable (one other : Table) : Prop where
  found : ∀ name, one.get? name = other.get? name
  size : one.size = other.size
  dangling : one.dangling.Perm other.dangling
  check : ∀ (ν : Type) (data : Instance ν) (spec : Spec) (value : ν),
    one.check data spec value = other.check data spec value
  checkEntry : ∀ (ν : Type) (data : Instance ν) (name : String) (value : ν),
    one.checkEntry data name value = other.checkEntry data name value
  checkEntryExactly : ∀ (ν : Type) (data : Instance ν) (name : String) (value : ν),
    one.checkEntryExactly data name value = other.checkEntryExactly data name value

section

variable (one other : Table) (distinct : one.names.Nodup) (distinctToo : other.names.Nodup)
  (reordered : one.entries.Perm other.entries)
include distinct distinctToo reordered

theorem reordered_get (name : String) : one.get? name = other.get? name := by
  apply Option.ext
  intro spec
  constructor
  · intro found
    have entry := reordered.mem_iff.mp (one.get_entry name spec found)
    exact other.entry_get distinctToo name spec entry
  · intro found
    have entry := reordered.mem_iff.mpr (other.get_entry name spec found)
    exact one.entry_get distinct name spec entry

theorem reordered_agrees (names : Set String) : one.AgreesOn other names :=
  fun name _ => reordered_get one other distinct distinctToo reordered name

theorem reordered_dangling : one.dangling.Perm other.dangling := by
  refine (List.perm_ext_iff_of_nodup one.dangling_distinct other.dangling_distinct).mpr fun name => ?_
  have used : name ∈ one.references ↔ name ∈ other.references := (reordered.flatMap_right _).mem_iff
  rw [mem_dangling, mem_dangling, used, reordered_get one other distinct distinctToo reordered name]

theorem reordered_interchangeable : one.Interchangeable other := by
  have closed : one.ClosedOn Set.univ := fun _ _ _ _ _ _ => Set.mem_univ _
  have agree := reordered_agrees one other distinct distinctToo reordered Set.univ
  constructor
  · exact reordered_get one other distinct distinctToo reordered
  · exact reordered.length_eq
  · exact reordered_dangling one other distinct distinctToo reordered
  · exact fun ν data spec value => check_same one other data _ closed agree spec value fun _ _ => Set.mem_univ _
  · exact fun ν data name value => check_entry_same one other data _ closed agree name value (Set.mem_univ name)
  · exact fun ν data name value => check_entry_exactly_same one other data _ closed agree name value (Set.mem_univ name)

end

end Table

def Script.definitionBlock (options : Script.ModuleOptions) (pair : String × Schema) : List Char :=
  match Definitions.compiled? pair with
  | some entry => (Script.definition .empty options.binding.toList entry).chars
  | none => []

theorem Script.definition_blocks (options : Script.ModuleOptions) (pairs : List (String × Schema)) :
    (pairs.filterMap Definitions.compiled?).flatMap (blockChars options.binding.toList) =
      pairs.flatMap (definitionBlock options) := by
  induction pairs with
  | nil => rfl
  | cons pair rest ih =>
      rw [List.filterMap_cons, List.flatMap_cons, definitionBlock]
      cases Definitions.compiled? pair with
      | none => exact ih
      | some entry =>
          have block := definition_chars .empty options.binding.toList entry rfl
          simp only [List.flatMap_cons, ih, block]
          rfl

theorem module_by_definitions (definitions : Definitions) (distinct : (Entries.keys definitions.entries).Nodup)
    (table : Table) (compiled : definitions.compile = .ok table) (options : Script.ModuleOptions) :
    (Script.ofTable options table).chars = (Script.header options).chars ++
      definitions.entries.flatMap (Script.definitionBlock options) ++ (Script.footer .empty).chars := by
  rw [Script.of_table_chars, definitions.compile_entries distinct table compiled, Script.definition_blocks,
    Script.footer_chars .empty rfl]
  rfl

-- Definitions declared in another order compile alike, to tables that are told apart by the order
-- of their entries only.
theorem declaration_order_immaterial (pairs others : List (String × Schema)) (distinct : (Entries.keys pairs).Nodup)
    (reordered : pairs.Perm others) :
    ((∃ table, (Definitions.ofPairs pairs).compile = .ok table) ↔
      ∃ table, (Definitions.ofPairs others).compile = .ok table) ∧
    ∀ one other, (Definitions.ofPairs pairs).compile = .ok one → (Definitions.ofPairs others).compile = .ok other →
      one.Interchangeable other ∧
      ∀ options : Script.ModuleOptions,
        (Script.ofTable options one).chars = (Script.header options).chars ++
          pairs.flatMap (Script.definitionBlock options) ++ (Script.footer .empty).chars ∧
        (Script.ofTable options other).chars = (Script.header options).chars ++
          others.flatMap (Script.definitionBlock options) ++ (Script.footer .empty).chars := by
  have distinctToo : (Entries.keys others).Nodup := (reordered.map Prod.fst).nodup_iff.mp distinct
  constructor
  · rw [Definitions.compile_succeeds, Definitions.compile_succeeds]
    exact forall_congr' fun pair => imp_congr_left reordered.mem_iff
  · intro one other compiled compiledToo
    have named := (Definitions.ofPairs pairs).compile_names distinct one compiled
    have namedToo := (Definitions.ofPairs others).compile_names distinctToo other compiledToo
    have entries := (Definitions.ofPairs pairs).compile_entries distinct one compiled
    have entriesToo := (Definitions.ofPairs others).compile_entries distinctToo other compiledToo
    have permuted : one.entries.Perm other.entries := by
      rw [entries, entriesToo]
      exact reordered.filterMap _
    have slots := (Definitions.ofPairs pairs).objects_distinct distinct
    have slotsToo := (Definitions.ofPairs others).objects_distinct distinctToo
    refine ⟨one.reordered_interchangeable other (named ▸ slots) (namedToo ▸ slotsToo) permuted, fun options => ?_⟩
    exact ⟨module_by_definitions _ distinct one compiled options,
      module_by_definitions _ distinctToo other compiledToo options⟩

def Schema.text : Schema := ⟨some "string", none, none, none, [], none, none⟩

def Schema.referring (name : String) : Schema :=
  ⟨some "object", none, none, some [("to", ⟨none, some ("#/definitions/" ++ name), none, none, [], none, none⟩)],
    [], none, none⟩

def facingSchemas : List (String × Schema) :=
  [("left", .referring "right"), ("text", .text), ("right", .referring "left")]

def facingTable (first second : String) : Table :=
  ⟨[(first, some (.shape [⟨"to", .reference second, false⟩] false)),
    (second, some (.shape [⟨"to", .reference first, false⟩] false))]⟩

theorem facing_in_either_order :
    (Entries.keys facingSchemas).Nodup ∧ facingSchemas.Perm facingSchemas.reverse ∧
      (Definitions.ofPairs facingSchemas).compile = .ok (facingTable "left" "right") ∧
      (Definitions.ofPairs facingSchemas.reverse).compile = .ok (facingTable "right" "left") ∧
      (facingTable "left" "right").Interchangeable (facingTable "right" "left") := by
  have distinct : (Entries.keys facingSchemas).Nodup := by decide
  have reordered : facingSchemas.Perm facingSchemas.reverse := (List.reverse_perm _).symm
  have forward : (Definitions.ofPairs facingSchemas).compile = .ok (facingTable "left" "right") := rfl
  have backward : (Definitions.ofPairs facingSchemas.reverse).compile = .ok (facingTable "right" "left") := rfl
  have alike := (declaration_order_immaterial facingSchemas facingSchemas.reverse distinct reordered).2
  exact ⟨distinct, reordered, forward, backward, (alike _ _ forward backward).1⟩

end ShapeCheck
