set_option autoImplicit false

/- Names in a script: bare where they are identifiers, quoted where they are not. -/
namespace ShapeCheck.Script

def escapeChar (char : Char) : List Char :=
  if char = '\\' then ['\\', '\\']
  else if char = '"' then ['\\', '"']
  else if char = '\n' then ['\\', 'n']
  else if char = '\r' then ['\\', 'r']
  else [char]

def escape (text : List Char) : List Char := text.flatMap escapeChar

def startsIdentifier (char : Char) : Bool :=
  char.isAlpha || char == '_' || char == '$'

def continuesIdentifier (char : Char) : Bool :=
  char.isAlphanum || char == '_' || char == '$'

def isIdentifier : List Char → Bool
  | [] => false
  | first :: rest => startsIdentifier first && rest.all continuesIdentifier

def objectKey (name : List Char) : List Char :=
  if isIdentifier name then name else '"' :: escape name ++ ['"']

def member (base name : List Char) : List Char :=
  if isIdentifier name then base ++ '.' :: name
  else base ++ '[' :: '"' :: escape name ++ ['"', ']']

end ShapeCheck.Script
