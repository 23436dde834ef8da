import ShapeCheck.Json.Basic
import ShapeCheck.Json.Rest
import ShapeCheck.Number.Decoding

set_option autoImplicit false

/- Number literals. A literal without a point or an exponent is an integer when 64 bits
   hold it, and every other literal is a double. -/
namespace ShapeCheck.Json

structure Numeral where
  negative : Bool
  whole : List Nat
  fraction : Option (List Nat)
  exponent : Option Int
deriving DecidableEq, Repr

def Numeral.number? (numeral : Numeral) : Option Number :=
  let gathered := Double.gather 0 numeral.whole
  match numeral.fraction, numeral.exponent, gathered.2 with
  | none, none, 0 =>
      if ! numeral.negative then some (.integer gathered.1)
      else if 0 < gathered.1 ∧ gathered.1 ≤ Nat.pow 2 63 then some (.integer (-gathered.1))
      else (Double.ofParts? true gathered.1 0).map .double
  | _, _, skipped =>
      let fraction := numeral.fraction.getD []
      let all := Double.gather gathered.1 fraction
      let exponent := numeral.exponent.getD 0 + skipped - (fraction.length - all.2 : Nat)
      (Double.ofParts? numeral.negative all.1 exponent).map .double

def digitValue (char : Char) : Nat :=
  char.toNat - '0'.toNat

def digits (text : List Char) : List Nat × Remainder text :=
  ((text.takeWhile Char.isDigit).map digitValue, .dropWhile Char.isDigit text)

def someDigits (text : List Char) : Parsed (List Nat) text :=
  match text with
  | [] => .error .ended
  | first :: after =>
      if first.isDigit then
        let (more, rest) := digits after
        .ok (digitValue first :: more, rest.skip)
      else .error .malformed

def wholePart : (text : List Char) → Parsed (List Nat) text
  | '0' :: after =>
      if (after.head?.any Char.isDigit) then .error .malformed
      else .ok ([0], (Remainder.whole after).skip)
  | text => someDigits text

def fractionPart : (text : List Char) → Except Defect (Option (List Nat) × Remainder text)
  | '.' :: after => do
      let (found, rest) ← someDigits after
      return (some found, rest.skip.remainder)
  | text => .ok (none, .whole text)

def exponentSign : (text : List Char) → Bool × Remainder text
  | '+' :: after => (false, (Remainder.whole after).skip.remainder)
  | '-' :: after => (true, (Remainder.whole after).skip.remainder)
  | text => (false, .whole text)

def exponentValue (negative : Bool) (found : List Nat) : Int :=
  let value : Nat := found.foldl (fun value digit => value * 10 + digit) 0
  if negative then -Int.ofNat value else Int.ofNat value

def exponentPart : (text : List Char) → Except Defect (Option Int × Remainder text)
  | mark :: after =>
      if mark == 'e' || mark == 'E' then do
        let (negative, unsigned) := exponentSign after
        let (found, rest) ← someDigits unsigned.1
        return (some (exponentValue negative found), (unsigned.after rest).skip.remainder)
      else .ok (none, .whole (mark :: after))
  | [] => .ok (none, .whole [])

def unsignedNumber (negative : Bool) (text : List Char) : Parsed Number text := do
  let (whole, afterWhole) ← wholePart text
  let (fraction, afterFraction) ← fractionPart afterWhole.1
  let (exponent, rest) ← exponentPart afterFraction.1
  match Numeral.number? ⟨negative, whole, fraction, exponent⟩ with
  | none => .error .malformed
  | some value => .ok (value, afterWhole.afterMaybe (afterFraction.afterMaybe rest))

end ShapeCheck.Json
