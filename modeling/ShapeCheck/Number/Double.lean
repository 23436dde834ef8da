set_option autoImplicit false

/- Finite binary64 numbers and their rounded arithmetic, in natural numbers only.
   The nonnegative doubles form a grid whose spacing doubles every 2 ^ 52 points, so a
   double is its sign and the rank of its magnitude on that grid, 0 for zero. The grid
   is continued past the largest double, where a rank stands for an infinite result. -/
namespace ShapeCheck

def Double.binade : Nat := Nat.pow 2 52

-- The first rank past the largest finite double.
def Double.infinite : Nat := 2047 * Double.binade

structure Double where
  negative : Bool
  rank : Nat
  finite : rank < Double.infinite
deriving DecidableEq, Repr

namespace Double

def units (rank : Nat) : Nat :=
  if rank < binade then rank
  else (binade + rank % binade) * Nat.pow 2 (rank / binade - 1)

-- The integer nearest to a quotient; a half goes to the even neighbour.
def nearestQuotient (num den : Nat) : Nat :=
  let low := num / den
  let rest := num % den
  if 2 * rest < den then low
  else if den < 2 * rest then low + 1
  else low + low % 2

def nearestRank (num den : Nat) : Nat :=
  let scaled := num * Nat.pow 2 1074
  let shift := (scaled / den).log2 - 52
  shift * binade + nearestQuotient scaled (den * Nat.pow 2 shift)

def timesRank (a b : Nat) : Nat :=
  nearestRank (units a * units b) (Nat.pow 2 2148)

def overRank (a b : Nat) : Nat :=
  nearestRank (units a) (units b)

def powerOfTenRank (exponent : Nat) : Nat :=
  nearestRank (Nat.pow 10 exponent) 1

def maxPowerOfTen : Nat := 308

def ofRank? (negative : Bool) (rank : Nat) : Option Double :=
  if finite : rank < infinite then some ⟨negative, rank, finite⟩ else none

def ofRatio? (negative : Bool) (num den : Nat) : Option Double :=
  ofRank? negative (nearestRank num den)

end Double

end ShapeCheck
