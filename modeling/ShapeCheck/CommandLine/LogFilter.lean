import ShapeCheck.Log

set_option autoImplicit false

/- Which log lines are shown. -/
namespace ShapeCheck.CommandLine

def component : String := "swagger_proptypes::compiler"

structure LogFilter where
  target : String
  verbosity : Nat
deriving DecidableEq, Repr

namespace LogFilter

def threshold? (word : String) : Option Nat :=
  match word.toLower with
  | "off" => some 0
  | "error" => some 1
  | "warn" => some 2
  | "info" => some 3
  | "debug" => some 4
  | "trace" => some 5
  | _ => none

-- A setting is a level, a component, or a component and its level; the empty setting shows
-- errors.
def ofSetting? (setting : String) : Option LogFilter :=
  match setting.toList.splitOn '=' with
  | [[]] => some ⟨"", 1⟩
  | [word] =>
      match threshold? (String.ofList word) with
      | some verbosity => some ⟨"", verbosity⟩
      | none => some ⟨String.ofList word, 5⟩
  | [target, word] => (threshold? (String.ofList word)).map (⟨String.ofList target, ·⟩)
  | _ => none

-- The filter without a setting: quiet wins over verbose.
def ofFlags (quiet verbose : Bool) : LogFilter :=
  if quiet then ⟨"", 1⟩ else if verbose then ⟨"", 4⟩ else ⟨"", 2⟩

def choose (setting : Option String) (quiet verbose : Bool) : LogFilter :=
  (setting.bind ofSetting?).getD (ofFlags quiet verbose)

def shows (filter : LogFilter) (event : CompileEvent) : Bool :=
  event.level.verbosity ≤ filter.verbosity &&
    filter.target.toList.isPrefixOf component.toList

def line (event : CompileEvent) : String :=
  event.level.name ++ " " ++ component ++ ": " ++ event.message ++ " " ++
    event.subjectRole ++ "=" ++ event.subjectText ++ "\n"

def lines (filter : LogFilter) (events : List CompileEvent) : String :=
  String.join ((events.filter filter.shows).map line)

end LogFilter

end ShapeCheck.CommandLine
