import ShapeCheck.Number.Double

set_option autoImplicit false

/- The double that a decimal literal denotes. The digits are gathered into 64 bits; those
   that no longer fit count only by their place. The result is scaled by powers of ten
   that are doubles themselves, so it is rounded once per step, not once in all. -/
namespace ShapeCheck.Double

def gather (value : Nat) : List Nat → Nat × Nat
  | [] => (value, 0)
  | digit :: rest =>
      if value * 10 + digit < Nat.pow 2 64 then gather (value * 10 + digit) rest
      else (value, rest.length + 1)

def scaleUp? (rank exponent : Nat) : Option Nat :=
  if rank = 0 then some 0
  else if exponent ≤ maxPowerOfTen then
    let scaled := timesRank rank (powerOfTenRank exponent)
    if scaled < infinite then some scaled else none
  else none

def scaleDown (rank exponent : Nat) : Nat :=
  if exponent ≤ maxPowerOfTen then overRank rank (powerOfTenRank exponent)
  else if rank = 0 then 0
  else scaleDown (overRank rank (powerOfTenRank maxPowerOfTen)) (exponent - maxPowerOfTen)
termination_by exponent
decreasing_by simp only [maxPowerOfTen] at *; omega

def ofParts? (negative : Bool) (significand : Nat) (exponent : Int) : Option Double :=
  let rank := nearestRank significand 1
  match exponent with
  | .ofNat up => (scaleUp? rank up).bind (ofRank? negative)
  | .negSucc down => ofRank? negative (scaleDown rank (down + 1))

end ShapeCheck.Double
