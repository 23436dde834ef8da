import ShapeCheck.Number.Double

set_option autoImplicit false

/- Decimal magnitudes, and the doubles nearest to them. -/
namespace ShapeCheck

structure Decimal where
  digits : Nat
  exponent : Int
deriving DecidableEq, Repr

namespace Decimal

-- How many places before the point the first digit stands: a decimal other than zero is below `10
-- ^ places` and at least a tenth of it.
def places (decimal : Decimal) : Int :=
  (Nat.toDigits 10 decimal.digits).length + decimal.exponent

-- The double nearest to a decimal, if it is finite. The least positive double is over `4 * 10 ^
-- -324`, so what is below `10 ^ -324` rounds to zero; and every double is below `10 ^ 309`. Far
-- exponents are decided by this, without their powers of ten.
def nearest? (negative : Bool) (decimal : Decimal) : Option Double :=
  if decimal.digits = 0 ∨ decimal.places ≤ -324 then Double.ofRank? negative 0
  else if 309 < decimal.places then none
  else
    Double.ofRatio? negative (decimal.digits * Nat.pow 10 decimal.exponent.toNat)
      (Nat.pow 10 (-decimal.exponent).toNat)

end Decimal

end ShapeCheck
