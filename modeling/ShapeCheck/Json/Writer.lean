import ShapeCheck.Json.Basic
import ShapeCheck.Number.Shortest

set_option autoImplicit false

/- JSON text: compact, or indented by two spaces a level. -/
namespace ShapeCheck

structure DoubleLayout where
  lowest : Int
  limit : Int
deriving DecidableEq, Repr

-- Doubles from 1e-5 up to 1e16 are written in place, the others with an exponent.
def Json.doubleLayout : DoubleLayout := ⟨-5, 16⟩

namespace Decimal

def digitChars (decimal : Decimal) : List Char := Nat.toDigits 10 decimal.digits

def leading (decimal : Decimal) : Int :=
  decimal.exponent + decimal.digitChars.length - 1

def zeros (count : Int) : List Char := List.replicate count.toNat '0'

def inPlace (decimal : Decimal) : List Char :=
  let digits := decimal.digitChars
  if 0 ≤ decimal.exponent then digits ++ zeros decimal.exponent ++ ['.', '0']
  else
    let whole := decimal.leading + 1
    if 0 < whole then digits.take whole.toNat ++ '.' :: digits.drop whole.toNat
    else '0' :: '.' :: zeros (-whole) ++ digits

def withExponent (decimal : Decimal) : List Char :=
  let mantissa := match decimal.digitChars with
    | first :: [] => [first]
    | first :: rest => first :: '.' :: rest
    | [] => []
  let sign := if decimal.leading < 0 then '-' else '+'
  mantissa ++ 'e' :: sign :: Nat.toDigits 10 decimal.leading.natAbs

def render (layout : DoubleLayout) (decimal : Decimal) : List Char :=
  if layout.lowest ≤ decimal.leading ∧ decimal.leading < layout.limit then decimal.inPlace
  else decimal.withExponent

end Decimal

def Double.render (layout : DoubleLayout) (value : Double) : List Char :=
  let magnitude := (Double.shortest value.rank).render layout
  if value.negative then '-' :: magnitude else magnitude

def Number.render : Number → List Char
  | .integer value =>
      let magnitude := Nat.toDigits 10 value.natAbs
      if value < 0 then '-' :: magnitude else magnitude
  | .double value => value.render Json.doubleLayout

namespace Json

def escapeChar (char : Char) : List Char :=
  if char = '"' then ['\\', '"']
  else if char = '\\' then ['\\', '\\']
  else if char = '\n' then ['\\', 'n']
  else if char = '\r' then ['\\', 'r']
  else if char = '\t' then ['\\', 't']
  else if char = '\x08' then ['\\', 'b']
  else if char = '\x0c' then ['\\', 'f']
  else if char.toNat < 0x20 then
    ['\\', 'u', '0', '0', Nat.digitChar (char.toNat / 16), Nat.digitChar (char.toNat % 16)]
  else [char]

def stringChars (text : String) : List Char :=
  '"' :: text.toList.flatMap escapeChar ++ ['"']

def scalarChars : Scalar → List Char
  | .null => ['n', 'u', 'l', 'l']
  | .boolean true => ['t', 'r', 'u', 'e']
  | .boolean false => ['f', 'a', 'l', 's', 'e']
  | .number value => value.render
  | .string text => stringChars text

mutual
def chars : Json → List Char
  | .scalar value => scalarChars value
  | .array items => '[' :: itemChars items ++ [']']
  | .object entries => '\x7b' :: entryChars entries ++ ['\x7d']
def itemChars : List Json → List Char
  | [] => []
  | item :: rest => chars item ++ moreItemChars rest
def moreItemChars : List Json → List Char
  | [] => []
  | item :: rest => ',' :: chars item ++ moreItemChars rest
def entryChars : List (String × Json) → List Char
  | [] => []
  | (key, value) :: rest => stringChars key ++ ':' :: chars value ++ moreEntryChars rest
def moreEntryChars : List (String × Json) → List Char
  | [] => []
  | (key, value) :: rest => ',' :: stringChars key ++ ':' :: chars value ++ moreEntryChars rest
end

def render (value : Json) : String := String.ofList value.chars

def lineBreak (level : Nat) : List Char := '\n' :: List.replicate (2 * level) ' '

mutual
def indentedChars (level : Nat) : Json → List Char
  | .scalar value => scalarChars value
  | .array [] => ['[', ']']
  | .array (item :: rest) =>
      '[' :: lineBreak (level + 1) ++ indentedChars (level + 1) item ++
        indentedItems (level + 1) rest ++ lineBreak level ++ [']']
  | .object [] => ['\x7b', '\x7d']
  | .object ((key, value) :: rest) =>
      '\x7b' :: lineBreak (level + 1) ++ stringChars key ++ ':' :: ' ' ::
        indentedChars (level + 1) value ++ indentedEntries (level + 1) rest ++
        lineBreak level ++ ['\x7d']
def indentedItems (level : Nat) : List Json → List Char
  | [] => []
  | item :: rest =>
      ',' :: lineBreak level ++ indentedChars level item ++ indentedItems level rest
def indentedEntries (level : Nat) : List (String × Json) → List Char
  | [] => []
  | (key, value) :: rest =>
      ',' :: lineBreak level ++ stringChars key ++ ':' :: ' ' ::
        indentedChars level value ++ indentedEntries level rest
end

def renderIndented (value : Json) : String := String.ofList (indentedChars 0 value)

end Json

end ShapeCheck
