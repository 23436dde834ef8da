import ShapeCheck.Number.Decimal

set_option autoImplicit false

/- The fewest decimal digits that read back as a given double.
   The reals that round to a rank form an interval between the midpoints to its two
   neighbours. A decimal with few digits lies on a coarse power-of-ten grid, so the
   coarsest grid with a point in the interval gives the fewest digits. -/
namespace ShapeCheck.Double

-- Reals that round to a rank, as multiples of 2 ^ -1075. The ends belong to it when the rank is
-- even, since a tie goes to the even rank.
structure Interval where
  low : Nat
  high : Nat
  closed : Bool
deriving DecidableEq, Repr

def Interval.ofRank (rank : Nat) : Interval where
  low := units (rank - 1) + units rank
  high := units rank + units (rank + 1)
  closed := rank % 2 == 0

def Interval.contains (interval : Interval) (point scale : Nat) : Bool :=
  if interval.closed then
    interval.low * scale ≤ point && point ≤ interval.high * scale
  else interval.low * scale < point && point < interval.high * scale

-- The point of the grid of multiples of `10 ^ exponent` that reads back as `rank`: the nearer one
-- if two do, the even one of a tie.
def gridPoint? (rank : Nat) (exponent : Int) : Option Decimal :=
  let interval := Interval.ofRank rank
  let scale := Nat.pow 10 (-exponent).toNat
  let step := Nat.pow 10 exponent.toNat * Nat.pow 2 1075
  let value := 2 * units rank * scale
  let below := value / step
  let fits := fun digits => interval.contains (digits * step) scale
  if fits below then
    if fits (below + 1) then some ⟨nearestQuotient value step, exponent⟩
    else some ⟨below, exponent⟩
  else if fits (below + 1) then some ⟨below + 1, exponent⟩
  else none

def gridExponents : List Int :=
  (List.range 634).map fun (step : Nat) => 309 - Int.ofNat step

def shortest (rank : Nat) : Decimal :=
  if rank = 0 then ⟨0, 0⟩
  else (gridExponents.findSome? (gridPoint? rank)).getD ⟨0, 0⟩

end ShapeCheck.Double
