import ShapeCheck.Validation.Inspection

set_option autoImplicit false

/- Checks of whole values: against a spec, against a named definition, and against an exact
   list of fields. The answer is the list of violations, or the reference that could not be
   resolved. -/
namespace ShapeCheck.Table

variable {ν : Type}

-- Checks a value against a spec. A reference enters the root itself, so the root counts as
-- entered beforehand only for other specs.
def check (table : Table) (data : Instance ν) (spec : Spec) (value : ν) :
    Except Unresolved (List Violation) :=
  let progress := if spec.isReference then Progress.start else Progress.startAt data value
  (inspect table data progress spec value).violations

def lookup (table : Table) (name : String) : Except Unresolved Spec :=
  match table.get? name with
  | some spec => .ok spec
  | none => .error ⟨name, []⟩

def checkEntry (table : Table) (data : Instance ν) (name : String) (value : ν) :
    Except Unresolved (List Violation) := do
  let spec ← table.lookup name
  table.check data spec value

def checkFields (table : Table) (data : Instance ν) (name : String) (fields : List Field)
    (value : ν) : Except Unresolved (List Violation) :=
  let progress := (Progress.startAt data value).below (.key name)
  (inspectShape table data progress fields true value).violations

def checkEntryExactly (table : Table) (data : Instance ν) (name : String) (value : ν) :
    Except Unresolved (List Violation) := do
  match ← table.lookup name with
  | .shape fields _ => table.checkFields data name fields value
  | other =>
      let progress := (Progress.startAt data value).below (.key name)
      (inspect table data progress other value).violations

end ShapeCheck.Table
