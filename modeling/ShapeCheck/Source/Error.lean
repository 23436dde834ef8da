import ShapeCheck.Json.Rest
import ShapeCheck.Schema.Error

set_option autoImplicit false

/- Why a document could not be had. -/
namespace ShapeCheck

inductive ReadError where
  | notFound
  | notDirectory
  | isDirectory
  | nameTooLong
  | invalidName
  | invalidText
deriving DecidableEq, Repr

def ReadError.message : ReadError → String
  | .notFound => "No such file or directory (os error 2)"
  | .notDirectory => "Not a directory (os error 20)"
  | .isDirectory => "Is a directory (os error 21)"
  | .nameTooLong => "File name too long (os error 36)"
  | .invalidName => "file name contained an unexpected NUL byte"
  | .invalidText => "stream did not contain valid UTF-8"

def Json.Defect.message : Json.Defect → String
  | .ended => "<eof>"
  | .malformed => "<syntax>"

inductive SourceError where
  | unreadable (path : String) (cause : ReadError)
  | json (defect : Json.Defect)
  | schema (cause : SchemaError)
  | fetchDisabled (url : String)
deriving DecidableEq, Repr

def SourceError.message : SourceError → String
  | .unreadable path cause => "cannot read " ++ path ++ ": " ++ cause.message
  | .json defect => "invalid JSON: " ++ defect.message
  | .schema cause => "invalid schema: " ++ cause.message
  | .fetchDisabled url => "cannot fetch " ++ url ++ ": built without the `fetch` feature"

end ShapeCheck
