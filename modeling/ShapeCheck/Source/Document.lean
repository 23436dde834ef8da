import ShapeCheck.Json.Reader
import ShapeCheck.Schema.Definitions
import ShapeCheck.Source.Error

set_option autoImplicit false

/- Documents, from their text or from where they are kept. -/
namespace ShapeCheck

def parseDocument (text : String) : Except SourceError Definitions := do
  let document ← (Json.parse text).mapError .json
  (Definitions.ofDocument document).mapError .schema

def isUrl (source : String) : Bool :=
  "http://".toList.isPrefixOf source.toList || "https://".toList.isPrefixOf source.toList

abbrev FileReader := String → Except ReadError String

def loadDefinitions (read : FileReader) (source : String) : Except SourceError Definitions :=
  if isUrl source then .error (.fetchDisabled source)
  else do
    let text ← (read source).mapError (.unreadable source)
    parseDocument text

end ShapeCheck
