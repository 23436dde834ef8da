import ShapeCheck.Json.Writer
import ShapeCheck.Spec.Table
import ShapeCheck.Validation.Progress

set_option autoImplicit false

/- Checking a value against a spec. The inspection follows the spec, and at a reference the
   table; it collects violations and stops only at a reference to an unknown name. A
   container that is reached through a reference while it is already being checked that way
   is passed over, so every step makes the spec smaller or the set of containers that may
   still be entered. -/
namespace ShapeCheck

def PrimitiveKind.accepts : PrimitiveKind → Kind → Bool
  | .string, .string => true
  | .number, .number => true
  | .boolean, .boolean => true
  | .object, .object => true
  | _, _ => false

def describeReference (name : String) : Option Segment → String
  | some (.index position) => name ++ " (index " ++ toString position ++ " in array)"
  | some (.key key) => name ++ " (referenced as \"" ++ key ++ "\")"
  | none => name

def Field.subject (field : Field) : String :=
  match field.spec with
  | .reference name => describeReference name (some (.key field.name))
  | _ => field.name

structure Outcome where
  progress : Progress
  failure : Option Unresolved
deriving DecidableEq, Repr

namespace Outcome

def passed (progress : Progress) : Outcome := ⟨progress, none⟩

def violations (outcome : Outcome) : Except Unresolved (List Violation) :=
  match outcome.failure with
  | some failure => .error failure
  | none => .ok outcome.progress.violations

end Outcome

namespace Progress

def reportMismatch (progress : Progress) (expected : String) (found : Kind) : Progress :=
  progress.report .typeMismatch ("expected " ++ expected ++ ", found " ++ found.name)

def checkPrimitive {ν : Type} (data : Instance ν) (progress : Progress) (kind : PrimitiveKind)
    (value : ν) : Progress :=
  if kind.accepts (data.kind value) then progress
  else progress.reportMismatch kind.name (data.kind value)

def checkEnum {ν : Type} (data : Instance ν) (progress : Progress) (allowed : List Json)
    (value : ν) : Progress :=
  if allowed.any (data.view value).equalsLiteral then progress
  else progress.report .enumMismatch
    ("value " ++ data.preview value ++ " is not one of [" ++
      String.intercalate ", " (allowed.map Json.render) ++ "]")

def reportMissing (progress : Progress) (field : Field) : Progress :=
  if field.required then
    progress.reportBelow (.key field.name) .missingRequired
      ("required property `" ++ field.name ++ "` is missing")
  else progress

def reportNull (progress : Progress) (field : Field) : Progress :=
  if field.required then
    progress.reportBelow (.key field.name) .missingRequired
      ("`" ++ field.subject ++ "` is required, but its value is `null`")
  else progress

def reportUndeclared (progress : Progress) (fields : List Field) : List String → Progress
  | [] => progress
  | key :: rest =>
      if fields.any (·.name == key) then reportUndeclared progress fields rest
      else
        reportUndeclared
          (progress.reportBelow (.key key) .unexpectedProperty ("unexpected property `" ++ key ++ "`"))
          fields rest

@[simp] theorem report_missing_entered (progress : Progress) (field : Field) :
    (progress.reportMissing field).entered = progress.entered := by
  cases required : field.required <;> simp [reportMissing, required]

@[simp] theorem report_null_entered (progress : Progress) (field : Field) :
    (progress.reportNull field).entered = progress.entered := by
  cases required : field.required <;> simp [reportNull, required]

end Progress

variable {ν : Type}

mutual
def inspect (table : Table) (data : Instance ν) (progress : Progress) (spec : Spec) (value : ν) :
    Outcome :=
  match spec with
  | .primitive kind => .passed (progress.checkPrimitive data kind value)
  | .enum allowed => .passed (progress.checkEnum data allowed value)
  | .array item =>
      match data.view value with
      | .array _ items => inspectItems table data progress item 0 items
      | other => .passed (progress.reportMismatch "array" other.kind)
  | .shape fields exact => inspectShape table data progress fields exact value
  | .map values =>
      match data.view value with
      | .object _ entries => inspectEntries table data progress values entries
      | other => .passed (progress.reportMismatch "object" other.kind)
  | .reference name => inspectReference table data progress name value
termination_by (progress.remaining data.bound, sizeOf spec, 0)
decreasing_by
  all_goals
    apply Prod.Lex.right
    apply Prod.Lex.left
    simp only [Spec.array.sizeOf_spec, Spec.shape.sizeOf_spec, Spec.map.sizeOf_spec,
      Spec.reference.sizeOf_spec]
    omega
def inspectItems (table : Table) (data : Instance ν) (progress : Progress) (item : Spec)
    (position : Nat) (items : List ν) : Outcome :=
  match items with
  | [] => .passed progress
  | value :: rest =>
      let step := inspect table data (progress.below (.index position)) item value
      match step.failure with
      | some failure => ⟨progress.resume step.progress, some failure⟩
      | none => inspectItems table data (progress.resume step.progress) item (position + 1) rest
termination_by (progress.remaining data.bound, sizeOf item, items.length + 1)
decreasing_by
  all_goals
    simp only [Progress.remaining_below, Progress.remaining_resume, List.length_cons]
    apply Prod.Lex.right
    apply Prod.Lex.right
    omega
def inspectEntries (table : Table) (data : Instance ν) (progress : Progress) (values : Spec)
    (entries : List (String × ν)) : Outcome :=
  match entries with
  | [] => .passed progress
  | (key, value) :: rest =>
      let step := inspect table data (progress.below (.key key)) values value
      match step.failure with
      | some failure => ⟨progress.resume step.progress, some failure⟩
      | none => inspectEntries table data (progress.resume step.progress) values rest
termination_by (progress.remaining data.bound, sizeOf values, entries.length + 1)
decreasing_by
  all_goals
    simp only [Progress.remaining_below, Progress.remaining_resume, List.length_cons]
    apply Prod.Lex.right
    apply Prod.Lex.right
    omega
def inspectShape (table : Table) (data : Instance ν) (progress : Progress) (fields : List Field)
    (exact : Bool) (value : ν) : Outcome :=
  match data.view value with
  | .object _ entries =>
      let step := inspectFields table data progress fields entries
      match step.failure with
      | some failure => ⟨step.progress, some failure⟩
      | none =>
          .passed (if exact then step.progress.reportUndeclared fields (Entries.keys entries) else step.progress)
  | other => .passed (progress.reportMismatch "object" other.kind)
termination_by (progress.remaining data.bound, sizeOf fields, 1)
decreasing_by
  apply Prod.Lex.right
  apply Prod.Lex.right
  omega
-- Checks the declared fields; a field that holds null counts as absent.
def inspectFields (table : Table) (data : Instance ν) (progress : Progress) (fields : List Field)
    (entries : List (String × ν)) : Outcome :=
  match fields with
  | [] => .passed progress
  | field :: rest =>
      match Entries.get? field.name entries with
      | none => inspectFields table data (progress.reportMissing field) rest entries
      | some child =>
          if data.kind child = .null then
            inspectFields table data (progress.reportNull field) rest entries
          else
            let step := inspect table data (progress.below (.key field.name)) field.spec child
            match step.failure with
            | some failure => ⟨progress.resume step.progress, some failure⟩
            | none => inspectFields table data (progress.resume step.progress) rest entries
termination_by (progress.remaining data.bound, sizeOf fields, 0)
decreasing_by
  all_goals
    simp only [Progress.remaining, Progress.below, Progress.resume, Progress.report_missing_entered,
      Progress.report_null_entered]
    apply Prod.Lex.right
    apply Prod.Lex.left
    rcases field with ⟨name, spec, required⟩
    simp only [List.cons.sizeOf_spec, Field.mk.sizeOf_spec]
    omega
def inspectReference (table : Table) (data : Instance ν) (progress : Progress) (name : String)
    (value : ν) : Outcome :=
  match table.get? name with
  | none => ⟨progress, some ⟨name, progress.path⟩⟩
  | some target =>
      let description := describeReference name progress.path.getLast?
      match _seen : (data.view value).identity? with
      | none =>
          if data.kind value = .null then .passed progress
          else .passed (progress.report .typeMismatch
            ("`" ++ description ++ "` can't be a primitive value (" ++ data.preview value ++ ")"))
      | some id =>
          if _known : progress.entered.contains id then .passed progress
          else
            let step := inspect table data (progress.follow description id) target value
            ⟨progress.resume step.progress, step.failure⟩
termination_by (progress.remaining data.bound, 0, 0)
decreasing_by
  apply Prod.Lex.left
  exact Progress.remaining_follow _ _ _ _ (data.bounded _ _ _seen) (by simpa using _known)
end

end ShapeCheck
