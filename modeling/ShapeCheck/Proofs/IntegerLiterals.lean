import Mathlib.Algebra.Group.Int.Defs
import ShapeCheck.Instance.Heap
import ShapeCheck.Proofs.Descent
import ShapeCheck.Proofs.Findings
import ShapeCheck.Proofs.Rounding
import ShapeCheck.Proofs.TreeData

set_option autoImplicit false

namespace ShapeCheck

def Number.rounded (value : Int) : Int :=
  if value < 0 then -(Double.rounded value.natAbs : Int) else Double.rounded value.natAbs

namespace Number

-- Zero has no sign here, as a comparison does not look at it there.
theorem integer_same_value (a b : Int) : (integer a).sameValue (integer b) = true ↔ rounded a = rounded b := by
  have ranks := Double.natural_rank_same a.natAbs b.natAbs
  have zeros := Double.natural_rank_zero a.natAbs
  have left := Double.rounded_zero a.natAbs
  have right := Double.rounded_zero b.natAbs
  simp only [sameValue, rank, negative, rounded, Bool.and_eq_true, Bool.or_eq_true, beq_iff_eq, ranks, zeros,
    decide_eq_decide]
  split <;> split <;> omega

theorem rounded_integer_exact (a b : Int) (small : a.natAbs < 2 ^ 53 ∨ b.natAbs < 2 ^ 53) :
    rounded a = rounded b ↔ a = b := by
  have left := Double.rounded_cases a.natAbs
  have right := Double.rounded_cases b.natAbs
  simp only [rounded]
  split <;> split <;> omega

theorem spacing_bound (value : Nat) (inside : value < 2 ^ 64) : Double.spacing value ≤ 2 ^ 11 := by
  by_cases empty : value = 0
  · rw [empty]
    decide
  · have digits := (Nat.log2_lt empty).mpr inside
    exact Nat.pow_le_pow_right Nat.two_pos (by omega)

theorem rounded_integer_near (a b : Int) (left : a.natAbs < 2 ^ 64) (right : b.natAbs < 2 ^ 64)
    (same : rounded a = rounded b) : (a - b).natAbs ≤ 2 ^ 11 := by
  have one := Double.rounded_near a.natAbs
  have other := Double.rounded_near b.natAbs
  have bound := spacing_bound a.natAbs left
  have boundToo := spacing_bound b.natAbs right
  have sign := Double.rounded_zero a.natAbs
  have signToo := Double.rounded_zero b.natAbs
  simp only [rounded] at same
  split at same <;> split at same <;> omega

end Number

section

variable {ν : Type} (data : Instance ν) (value : ν)

theorem check_enum_clean (table : Table) (allowed : List Json) :
    table.check data (.enum allowed) value = .ok [] ↔
      ∃ literal ∈ allowed, (data.view value).equalsLiteral literal = true := by
  rw [table.check_survey, Survey.violations_passed, survey, Survey.leaf_enum, ← List.any_eq_true]
  by_cases allows : allowed.any (data.view value).equalsLiteral = true
  · rw [if_pos allows]
    exact iff_of_true rfl allows
  · rw [if_neg allows]
    exact iff_of_false (Survey.single_filled _ _) allows

variable (a : Int) (seen : data.view value = .scalar (.number (.integer a)))
include seen

theorem integer_equals_literal (b : Int) :
    (data.view value).equalsLiteral (.number (.integer b)) = true ↔ Number.rounded a = Number.rounded b := by
  rw [seen]
  exact Number.integer_same_value a b

theorem check_integers_clean (table : Table) (listed : List Int) :
    table.check data (.enum (listed.map fun b => .number (.integer b))) value = .ok [] ↔
      ∃ b ∈ listed, Number.rounded a = Number.rounded b := by
  rw [check_enum_clean]
  constructor
  · rintro ⟨literal, allowed, equals⟩
    obtain ⟨b, here, same⟩ := List.mem_map.mp allowed
    rw [← same] at equals
    exact ⟨b, here, (integer_equals_literal data value a seen b).mp equals⟩
  · rintro ⟨b, here, same⟩
    exact ⟨_, List.mem_map_of_mem here, (integer_equals_literal data value a seen b).mpr same⟩

theorem check_integers_listed (table : Table) (listed : List Int)
    (small : ∀ b ∈ listed, a.natAbs < 2 ^ 53 ∨ b.natAbs < 2 ^ 53) :
    table.check data (.enum (listed.map fun b => .number (.integer b))) value = .ok [] ↔ a ∈ listed := by
  rw [check_integers_clean data value a seen]
  constructor
  · rintro ⟨b, here, same⟩
    exact (Number.rounded_integer_exact a b (small b here)).mp same ▸ here
  · exact fun here => ⟨a, here, rfl⟩

-- An integer equals the integer literals that are rounded alike, in whatever data it stands. Below
-- 2 ^ 53 that is the same integer, and what is taken for another integer of 64 bits is near to it.
theorem integers_compared_rounded :
    (∀ b : Int, (data.view value).equalsLiteral (.number (.integer b)) = true ↔ Number.rounded a = Number.rounded b) ∧
    (∀ (table : Table) (listed : List Int),
      table.check data (.enum (listed.map fun b => .number (.integer b))) value = .ok [] ↔
        ∃ b ∈ listed, Number.rounded a = Number.rounded b) ∧
    (∀ b : Int, a.natAbs < 2 ^ 53 ∨ b.natAbs < 2 ^ 53 → (Number.rounded a = Number.rounded b ↔ a = b)) ∧
    (∀ b : Int, a.natAbs < 2 ^ 64 → b.natAbs < 2 ^ 64 → Number.rounded a = Number.rounded b →
      (a - b).natAbs ≤ 2 ^ 11) ∧
    (∀ (table : Table) (listed : List Int), (∀ b ∈ listed, a.natAbs < 2 ^ 53 ∨ b.natAbs < 2 ^ 53) →
      (table.check data (.enum (listed.map fun b => .number (.integer b))) value = .ok [] ↔ a ∈ listed)) :=
  ⟨integer_equals_literal data value a seen, check_integers_clean data value a seen,
    Number.rounded_integer_exact a, Number.rounded_integer_near a, check_integers_listed data value a seen⟩

end

def oddInteger : Json := .number (.integer 9007199254740993)

theorem odd_integer_rounded : Number.rounded 9007199254740993 = Number.rounded 9007199254740992 := by decide +kernel

theorem odd_integer_compared :
    (Tree.data oddInteger.size).view (Tree.root oddInteger) = .scalar (.number (.integer 9007199254740993)) ∧
      ((Tree.data oddInteger.size).view (Tree.root oddInteger)).equalsLiteral (.number (.integer 9007199254740994)) ≠
        true ∧
      (Heap.empty.data.view (.scalar (.number (.integer 9007199254740993)))).equalsLiteral
          (.number (.integer 9007199254740992)) = true ∧
      Table.empty.check (Tree.data oddInteger.size) (.enum [.number (.integer 1), .number (.integer 9007199254740994)])
          (Tree.root oddInteger) ≠ .ok [] ∧
      (Number.rounded 9007199254740993 = Number.rounded 1 ↔ (9007199254740993 : Int) = 1) ∧
      (9007199254740993 - 9007199254740992 : Int).natAbs ≤ 2 ^ 11 ∧
      Table.empty.check (Tree.data oddInteger.size) (.enum [.number (.integer 1), .number (.integer (-2))])
          (Tree.root oddInteger) ≠ .ok [] := by
  have tree := integers_compared_rounded (Tree.data oddInteger.size) (Tree.root oddInteger) 9007199254740993 rfl
  have heap := integers_compared_rounded Heap.empty.data (.scalar (.number (.integer 9007199254740993)))
    9007199254740993 rfl
  refine ⟨rfl, ?_, (heap.1 _).mpr odd_integer_rounded, ?_, tree.2.2.1 1 (by decide), ?_, ?_⟩
  · rw [ne_eq, tree.1]
    decide +kernel
  · have listed := tree.2.1 Table.empty [1, 9007199254740994]
    rw [ne_eq]
    refine fun clean => absurd (listed.mp clean) ?_
    decide +kernel
  · exact heap.2.2.2.1 9007199254740992 (by decide) (by decide) odd_integer_rounded
  · have listed := tree.2.2.2.2 Table.empty [1, -2] (by decide)
    exact fun clean => absurd (listed.mp clean) (by decide)

theorem odd_integer_taken_for_even :
    (9007199254740993 : Int) ≠ 9007199254740992 ∧
      -(2 ^ 63) ≤ (9007199254740992 : Int) ∧ (9007199254740993 : Int) < 2 ^ 64 ∧
      ((Tree.data oddInteger.size).view (Tree.root oddInteger)).equalsLiteral
          (.number (.integer 9007199254740992)) = true ∧
      (Heap.empty.data.view (.scalar (.number (.integer 9007199254740993)))).equalsLiteral
          (.number (.integer 9007199254740992)) = true ∧
      Table.empty.check (Tree.data oddInteger.size) (.enum [.number (.integer 9007199254740992)])
          (Tree.root oddInteger) = .ok [] ∧
      Table.empty.check Heap.empty.data (.enum [.number (.integer 9007199254740992)])
          (.scalar (.number (.integer 9007199254740993))) = .ok [] := by
  have tree := integer_equals_literal (Tree.data oddInteger.size) (Tree.root oddInteger) 9007199254740993 rfl
  have heap := integer_equals_literal Heap.empty.data (.scalar (.number (.integer 9007199254740993)))
    9007199254740993 rfl
  have treeEquals := (tree 9007199254740992).mpr odd_integer_rounded
  have heapEquals := (heap 9007199254740992).mpr odd_integer_rounded
  refine ⟨by decide, by decide, by decide, treeEquals, heapEquals, ?_, ?_⟩
  · exact (check_enum_clean _ _ _ _).mpr ⟨_, List.mem_cons_self, treeEquals⟩
  · exact (check_enum_clean _ _ _ _).mpr ⟨_, List.mem_cons_self, heapEquals⟩

end ShapeCheck
