import ShapeCheck.Entries
import ShapeCheck.Number.Double

set_option autoImplicit false

/- JSON values. Objects keep their entries in order; a number is an integer literal or a
   double, and the two are told apart when written but compared by value. -/
namespace ShapeCheck

inductive Number where
  | integer (value : Int)
  | double (value : Double)
deriving DecidableEq, Repr

def Number.rank : Number → Nat
  | .integer value => Double.nearestRank value.natAbs 1
  | .double value => value.rank

def Number.negative : Number → Bool
  | .integer value => value < 0
  | .double value => value.negative

-- Numbers are compared as the doubles nearest to them; zeros are equal whatever their sign.
def Number.sameValue (a b : Number) : Bool :=
  a.rank == b.rank && (a.rank == 0 || a.negative == b.negative)

inductive Scalar where
  | null
  | boolean (value : Bool)
  | number (value : Number)
  | string (value : String)
deriving DecidableEq, Repr

inductive Json where
  | scalar (value : Scalar)
  | array (items : List Json)
  | object (entries : List (String × Json))
deriving Repr

namespace Json

@[match_pattern]
def null : Json := .scalar .null

@[match_pattern]
def boolean (value : Bool) : Json := .scalar (.boolean value)

@[match_pattern]
def number (value : Number) : Json := .scalar (.number value)

@[match_pattern]
def string (value : String) : Json := .scalar (.string value)

mutual
def size : Json → Nat
  | .scalar _ => 1
  | .array items => 1 + sizeItems items
  | .object entries => 1 + sizeEntries entries
def sizeItems : List Json → Nat
  | [] => 0
  | item :: rest => size item + sizeItems rest
def sizeEntries : List (String × Json) → Nat
  | [] => 0
  | (_, value) :: rest => size value + sizeEntries rest
end

mutual
def DistinctKeys : Json → Prop
  | .scalar _ => True
  | .array items => DistinctItems items
  | .object entries => (Entries.keys entries).Nodup ∧ DistinctEntries entries
def DistinctItems : List Json → Prop
  | [] => True
  | item :: rest => DistinctKeys item ∧ DistinctItems rest
def DistinctEntries : List (String × Json) → Prop
  | [] => True
  | (_, value) :: rest => DistinctKeys value ∧ DistinctEntries rest
end

end Json

def Scalar.sameValue : Scalar → Scalar → Bool
  | .null, .null => true
  | .boolean a, .boolean b => a == b
  | .number a, .number b => a.sameValue b
  | .string a, .string b => a == b
  | _, _ => false

def Scalar.equalsLiteral (value : Scalar) : Json → Bool
  | .scalar literal => value.sameValue literal
  | _ => false

end ShapeCheck
