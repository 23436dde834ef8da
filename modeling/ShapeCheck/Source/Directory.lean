import ShapeCheck.Source.Error

set_option autoImplicit false

/- A working directory as a value: named files and empty directories, and what reading a
   path in it answers. Of what lies outside it, only the directories above are known, and
   none of the names in them. -/
namespace ShapeCheck

inductive DirectoryEntry where
  | file (content : ByteArray)
  | directory

structure Directory where
  entries : List (String × DirectoryEntry)

namespace Directory

inductive Place where
  | above
  | top
  | inside (entry : DirectoryEntry)

def Place.parent : Place → Place
  | .inside _ => .top
  | .top => .above
  | .above => .above

def components (path : List Char) : List String :=
  (path.splitOn '/').map String.ofList

def maxNameBytes : Nat := 255

def maxPathBytes : Nat := 4095

def step (directory : Directory) (place : Place) (name : String) : Except ReadError Place :=
  match place with
  | .inside (.file _) => .error .notDirectory
  | place =>
      if name = "" ∨ name = "." then .ok place
      else if name = ".." then .ok place.parent
      else if maxNameBytes < name.utf8ByteSize then .error .nameTooLong
      else
        match place with
        | .top =>
            match directory.entries.find? (·.1 == name) with
            | some (_, entry) => .ok (.inside entry)
            | none => .error .notFound
        | _ => .error .notFound

def decode (content : ByteArray) : Except ReadError String :=
  match String.fromUTF8? content with
  | some text => .ok text
  | none => .error .invalidText

-- A path that begins with a slash begins above.
def start (path : List Char) : Place :=
  if path.head? == some '/' then .above else .top

-- Reads a file as text. What is wrong with the path as a whole is told before what is wrong with
-- a part of it.
def read (directory : Directory) (path : String) : Except ReadError String := do
  if path.toList.contains '\x00' then .error .invalidName
  else if path.isEmpty then .error .notFound
  else if maxPathBytes < path.utf8ByteSize then .error .nameTooLong
  else
    match ← (components path.toList).foldlM directory.step (start path.toList) with
    | .inside (.file content) => decode content
    | _ => .error .isDirectory

end Directory

end ShapeCheck
