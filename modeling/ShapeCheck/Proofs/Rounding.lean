import Mathlib.Algebra.Group.Nat.Defs
import Mathlib.Order.Monotone.Basic
import ShapeCheck.Number.Double

set_option autoImplicit false

namespace ShapeCheck.Double

theorem binade_positive : 0 < binade := by decide

theorem quotient_cases (num den : Nat) :
    (nearestQuotient num den = num / den ∧ 2 * (num % den) ≤ den) ∨
      (nearestQuotient num den = num / den + 1 ∧ den ≤ 2 * (num % den)) := by
  simp only [nearestQuotient]
  by_cases below : 2 * (num % den) < den
  · rw [if_pos below]
    exact .inl ⟨rfl, Nat.le_of_lt below⟩
  · by_cases above : den < 2 * (num % den)
    · rw [if_neg below, if_pos above]
      exact .inr ⟨rfl, Nat.le_of_lt above⟩
    · rw [if_neg below, if_neg above]
      have half : 2 * (num % den) = den := by omega
      rcases Nat.mod_two_eq_zero_or_one (num / den) with even | odd
      · exact .inl ⟨by rw [even]; rfl, Nat.le_of_eq half⟩
      · exact .inr ⟨by rw [odd], Nat.le_of_eq half.symm⟩

theorem quotient_bounds (num den : Nat) :
    num / den ≤ nearestQuotient num den ∧ nearestQuotient num den ≤ num / den + 1 := by
  rcases quotient_cases num den with ⟨same, _⟩ | ⟨same, _⟩ <;> omega

theorem quotient_exact (count den : Nat) (positive : 0 < den) : nearestQuotient (count * den) den = count := by
  simp only [nearestQuotient, Nat.mul_mod_left, Nat.mul_div_left count positive, Nat.mul_zero, if_pos positive]

theorem quotient_scaled (num den factor : Nat) (positive : 0 < factor) :
    nearestQuotient (num * factor) (den * factor) = nearestQuotient num den := by
  have twice : 2 * (num % den * factor) = 2 * (num % den) * factor := (Nat.mul_assoc _ _ _).symm
  simp only [nearestQuotient, Nat.mul_div_mul_right num den positive, Nat.mul_mod_mul_right, twice,
    Nat.mul_lt_mul_right positive]

theorem quotient_near (num den : Nat) (positive : 0 < den) :
    2 * (nearestQuotient num den * den) ≤ 2 * num + den ∧ 2 * num ≤ 2 * (nearestQuotient num den * den) + den := by
  have whole := Nat.div_add_mod num den
  have inside := Nat.mod_lt num positive
  rw [Nat.mul_comm den] at whole
  rcases quotient_cases num den with ⟨same, near⟩ | ⟨same, near⟩
  · rw [same]
    omega
  · have above := Nat.add_one_mul (num / den) den
    rw [same]
    omega

theorem units_at (exponent low : Nat) (inside : low < binade) :
    units ((exponent + 1) * binade + low) = (binade + low) * 2 ^ exponent := by
  have past : ¬ (exponent + 1) * binade + low < binade := by
    rw [Nat.add_one_mul]
    omega
  have quotient : ((exponent + 1) * binade + low) / binade = exponent + 1 := by
    rw [Nat.mul_comm, Nat.mul_add_div binade_positive, Nat.div_eq_of_lt inside, Nat.add_zero]
  have rest : ((exponent + 1) * binade + low) % binade = low := by
    rw [Nat.mul_comm, Nat.mul_add_mod, Nat.mod_eq_of_lt inside]
  rw [units, if_neg past, quotient, rest]
  rfl

-- What a rank put together from a shift and a significand stands for. The last significand of a
-- shift is the first one of the next.
theorem units_significand (shift significand : Nat) (low : binade ≤ significand) (high : significand ≤ 2 * binade) :
    units (shift * binade + significand) = significand * 2 ^ shift := by
  by_cases last : significand = 2 * binade
  · have next : shift * binade + significand = (shift + 1 + 1) * binade + 0 := by
      rw [last, Nat.add_one_mul (shift + 1), Nat.add_one_mul shift]
      omega
    rw [next, units_at _ 0 binade_positive, last, Nat.add_zero, Nat.pow_succ', ← Nat.mul_assoc, Nat.mul_comm binade 2]
  · have inside : significand - binade < binade := by omega
    have same : shift * binade + significand = (shift + 1) * binade + (significand - binade) := by
      rw [Nat.add_one_mul]
      omega
    rw [same, units_at shift _ inside, Nat.add_sub_of_le low]

theorem units_step (rank : Nat) : units rank < units (rank + 1) := by
  by_cases small : rank < binade
  · have here : units rank = rank := if_pos small
    by_cases last : rank + 1 = binade
    · have next := units_at 0 0 binade_positive
      rw [Nat.zero_add, Nat.one_mul, Nat.add_zero, Nat.pow_zero, Nat.mul_one] at next
      rw [here, last, next, ← last]
      exact Nat.lt_succ_self rank
    · have next : units (rank + 1) = rank + 1 := if_pos (by omega)
      rw [here, next]
      exact Nat.lt_succ_self rank
  · have inside := Nat.mod_lt rank binade_positive
    have whole := Nat.div_add_mod rank binade
    obtain ⟨shift, above⟩ : ∃ shift, rank / binade = shift + 1 := by
      have least := Nat.div_pos (Nat.le_of_not_lt small) binade_positive
      exact ⟨rank / binade - 1, by omega⟩
    rw [above, Nat.mul_comm, Nat.add_one_mul] at whole
    have here := units_significand shift (binade + rank % binade) (by omega) (by omega)
    have next := units_significand shift (binade + rank % binade + 1) (by omega) (by omega)
    have same : shift * binade + (binade + rank % binade) = rank := by omega
    have successor : shift * binade + (binade + rank % binade + 1) = rank + 1 := by omega
    rw [same] at here
    rw [successor] at next
    rw [here, next]
    exact Nat.mul_lt_mul_of_pos_right (Nat.lt_succ_self _) (Nat.two_pow_pos shift)

theorem units_increasing : StrictMono units := strictMono_nat_of_lt_succ units_step

theorem units_injective (a b : Nat) (same : units a = units b) : a = b := units_increasing.injective same

theorem significand_bounds (quotient : Nat) (large : binade ≤ quotient) :
    binade ≤ quotient / 2 ^ (quotient.log2 - 52) ∧ quotient / 2 ^ (quotient.log2 - 52) < 2 * binade := by
  have filled : quotient ≠ 0 := Nat.ne_of_gt (Nat.lt_of_lt_of_le binade_positive large)
  have digits : 52 ≤ quotient.log2 := (Nat.le_log2 filled).mpr large
  have low := Nat.log2_self_le filled
  have high : quotient < 2 ^ (quotient.log2 + 1) := Nat.lt_log2_self
  have split : quotient.log2 = 52 + (quotient.log2 - 52) := by omega
  have next : quotient.log2 + 1 = 53 + (quotient.log2 - 52) := by omega
  have positive := Nat.two_pow_pos (quotient.log2 - 52)
  rw [split, Nat.pow_add] at low
  rw [next, Nat.pow_add] at high
  exact ⟨(Nat.le_div_iff_mul_le positive).mpr low, (Nat.div_lt_iff_lt_mul positive).mpr high⟩

-- The nearest rank stands for the nearest multiple of a power of two. The power is chosen such that
-- the multiple has a significand.
theorem units_nearest (num den : Nat) :
    units (nearestRank num den) =
      nearestQuotient (num * Nat.pow 2 1074) (den * 2 ^ ((num * Nat.pow 2 1074 / den).log2 - 52)) *
        2 ^ ((num * Nat.pow 2 1074 / den).log2 - 52) := by
  have parts : nearestRank num den = ((num * Nat.pow 2 1074 / den).log2 - 52) * binade +
      nearestQuotient (num * Nat.pow 2 1074) (den * 2 ^ ((num * Nat.pow 2 1074 / den).log2 - 52)) := rfl
  rw [parts]
  generalize num * Nat.pow 2 1074 = scaled
  have bounds := quotient_bounds scaled (den * 2 ^ ((scaled / den).log2 - 52))
  rw [← Nat.div_div_eq_div_mul] at bounds
  by_cases large : binade ≤ scaled / den
  · have inside := significand_bounds (scaled / den) large
    exact units_significand _ _ (by omega) (by omega)
  · have whole : (scaled / den).log2 - 52 = 0 := by
      by_cases empty : scaled / den = 0
      · rw [empty]
        rfl
      · have digits := (Nat.log2_lt empty).mpr (Nat.lt_of_not_le large)
        omega
    rw [whole, Nat.pow_zero, Nat.div_one, Nat.mul_one] at bounds
    rw [whole, Nat.pow_zero, Nat.mul_one, Nat.mul_one, Nat.zero_mul, Nat.zero_add]
    by_cases last : nearestQuotient scaled den = binade
    · have next := units_at 0 0 binade_positive
      rw [Nat.zero_add, Nat.one_mul, Nat.add_zero, Nat.pow_zero, Nat.mul_one] at next
      rw [last, next]
    · exact if_pos (by omega)

def spacing (value : Nat) : Nat := 2 ^ (value.log2 - 52)

def rounded (value : Nat) : Nat := nearestQuotient value (spacing value) * spacing value

theorem spacing_positive (value : Nat) : 0 < spacing value := Nat.two_pow_pos _

theorem log2_scaled (value exponent : Nat) (filled : value ≠ 0) :
    (value * 2 ^ exponent).log2 = value.log2 + exponent := by
  have positive := Nat.two_pow_pos exponent
  refine (Nat.log2_eq_iff (Nat.mul_ne_zero filled (Nat.ne_of_gt positive))).mpr ⟨?_, ?_⟩
  · rw [Nat.pow_add]
    exact Nat.mul_le_mul_right _ (Nat.log2_self_le filled)
  · rw [Nat.add_right_comm, Nat.pow_add]
    exact Nat.mul_lt_mul_of_pos_right Nat.lt_log2_self positive

theorem rounded_exact (value : Nat) (small : value < 2 ^ 53) : rounded value = value := by
  have whole : spacing value = 1 := by
    by_cases empty : value = 0
    · rw [empty]
      rfl
    · have digits := (Nat.log2_lt empty).mpr small
      have none : value.log2 - 52 = 0 := by omega
      rw [spacing, none, Nat.pow_zero]
  have exact := quotient_exact value 1 Nat.one_pos
  rw [Nat.mul_one] at exact
  rw [rounded, whole, exact, Nat.mul_one]

theorem rounded_large (value : Nat) (large : 2 ^ 53 ≤ value) : 2 ^ 53 ≤ rounded value := by
  have filled : value ≠ 0 := by omega
  have digits : 53 ≤ value.log2 := (Nat.le_log2 filled).mpr large
  have low := (significand_bounds value (Nat.le_trans (by decide) large)).1
  have quotient := (quotient_bounds value (spacing value)).1
  have apart : 2 ^ 1 ≤ spacing value := Nat.pow_le_pow_right Nat.two_pos (by omega)
  calc 2 ^ 53 = binade * 2 := rfl
    _ ≤ nearestQuotient value (spacing value) * spacing value := Nat.mul_le_mul (Nat.le_trans low quotient) apart

theorem rounded_cases (value : Nat) :
    (value < 2 ^ 53 ∧ rounded value = value) ∨ (2 ^ 53 ≤ value ∧ 2 ^ 53 ≤ rounded value) := by
  rcases Nat.lt_or_ge value (2 ^ 53) with small | large
  · exact .inl ⟨small, rounded_exact value small⟩
  · exact .inr ⟨large, rounded_large value large⟩

@[simp] theorem rounded_zero (value : Nat) : rounded value = 0 ↔ value = 0 := by
  rcases rounded_cases value with ⟨_, same⟩ | ⟨_, _⟩ <;> omega

theorem rounded_near (value : Nat) :
    2 * rounded value ≤ 2 * value + spacing value ∧ 2 * value ≤ 2 * rounded value + spacing value :=
  quotient_near value (spacing value) (spacing_positive value)

theorem rounded_scaled (value exponent : Nat) (room : 52 ≤ exponent) :
    nearestQuotient (value * 2 ^ exponent) (2 ^ ((value * 2 ^ exponent).log2 - 52)) *
        2 ^ ((value * 2 ^ exponent).log2 - 52) = rounded value * 2 ^ exponent := by
  by_cases empty : value = 0
  · rw [empty, Nat.zero_mul, rounded_exact 0 (Nat.two_pow_pos 53), Nat.zero_mul]
    rfl
  rw [log2_scaled value exponent empty]
  by_cases large : 52 ≤ value.log2
  · have split : value.log2 + exponent - 52 = (value.log2 - 52) + exponent := by omega
    rw [split, Nat.pow_add, quotient_scaled value _ _ (Nat.two_pow_pos exponent), ← Nat.mul_assoc]
    rfl
  · have split : (52 - value.log2) + (value.log2 + exponent - 52) = exponent := by omega
    have small : value < 2 ^ 53 := (Nat.log2_lt empty).mp (by omega)
    have scaled : value * 2 ^ exponent = value * 2 ^ (52 - value.log2) * 2 ^ (value.log2 + exponent - 52) := by
      rw [Nat.mul_assoc, ← Nat.pow_add, split]
    rw [rounded_exact value small, scaled, quotient_exact _ _ (Nat.two_pow_pos _)]

theorem units_natural (value : Nat) : units (nearestRank value 1) = rounded value * 2 ^ 1074 := by
  rw [units_nearest, Nat.div_one, Nat.one_mul]
  generalize known : 1074 = exponent
  exact rounded_scaled value exponent (by omega)

theorem natural_rank_same (a b : Nat) : nearestRank a 1 = nearestRank b 1 ↔ rounded a = rounded b := by
  have left := units_natural a
  have right := units_natural b
  generalize 1074 = exponent at left right
  constructor
  · intro same
    rw [same, right] at left
    exact (Nat.eq_of_mul_eq_mul_right (Nat.two_pow_pos exponent) left).symm
  · intro same
    rw [same, ← right] at left
    exact units_injective _ _ left

theorem natural_rank_zero (value : Nat) : nearestRank value 1 = 0 ↔ value = 0 := by
  have none : units 0 = 0 := if_pos binade_positive
  rw [← units_increasing.injective.eq_iff, units_natural, none]
  generalize 1074 = exponent
  rw [Nat.mul_eq_zero, rounded_zero]
  exact or_iff_left (Nat.ne_of_gt (Nat.two_pow_pos exponent))

end ShapeCheck.Double
