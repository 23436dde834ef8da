import ShapeCheck.Text.Alphabetic
import ShapeCheck.Text.Numeric
import ShapeCheck.Text.Quoted

set_option autoImplicit false

/- Where a value stands below the root, and how that is written: keys after points, indexes
   in brackets, and keys that do not read as one word quoted in brackets. -/
namespace ShapeCheck

inductive Segment where
  | key (name : String)
  | index (position : Nat)
deriving DecidableEq, Repr

abbrev Path := List Segment

namespace Segment

def isWordMark (char : Char) : Bool := char == '_' || char == '$'

def startsWord (char : Char) : Bool := Text.isAlphabetic char || isWordMark char

def continuesWord (char : Char) : Bool :=
  Text.isAlphabetic char || Text.isNumeric char || isWordMark char

def isPlain (key : List Char) : Bool :=
  match key with
  | [] => false
  | first :: rest => startsWord first && rest.all continuesWord

def chars (first : Bool) : Segment → List Char
  | .index position => '[' :: Nat.toDigits 10 position ++ [']']
  | .key name =>
      if isPlain name.toList then
        if first then name.toList else '.' :: name.toList
      else '[' :: Text.quotedChars name.toList ++ [']']

end Segment

namespace Path

def chars : Path → List Char
  | [] => "(root)".toList
  | first :: rest => first.chars true ++ rest.flatMap (Segment.chars false)

def render (path : Path) : String := String.ofList (chars path)

end Path

end ShapeCheck
