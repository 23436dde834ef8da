import ShapeCheck.Text.GraphemeExtend
import ShapeCheck.Text.Unprintable

set_option autoImplicit false

/- Quoted text: every character is shown, those without a visible form of their own by an
   escape. -/
namespace ShapeCheck.Text

def codeEscape (char : Char) : List Char :=
  '\\' :: 'u' :: '\x7b' :: Nat.toDigits 16 char.toNat ++ ['\x7d']

def quotedChar (char : Char) : List Char :=
  if char = '\x00' then ['\\', '0']
  else if char = '\t' then ['\\', 't']
  else if char = '\r' then ['\\', 'r']
  else if char = '\n' then ['\\', 'n']
  else if char = '\\' then ['\\', '\\']
  else if char = '"' then ['\\', '"']
  else if isGraphemeExtend char || isUnprintable char then codeEscape char
  else [char]

def quotedChars (text : List Char) : List Char :=
  '"' :: text.flatMap quotedChar ++ ['"']

def quoted (text : String) : String := String.ofList (quotedChars text.toList)

end ShapeCheck.Text
