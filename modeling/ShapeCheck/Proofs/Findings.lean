import ShapeCheck.Proofs.Survey

set_option autoImplicit false

namespace ShapeCheck.Survey

def single (kind : ViolationKind) (message : String) : Survey := ⟨[⟨[], [], message, kind⟩], none⟩

@[simp] theorem single_filled (kind : ViolationKind) (message : String) : single kind message ≠ nothing := by
  simp [single, nothing]

@[simp] theorem unresolved_filled (name : String) : unresolved name ≠ nothing := by
  simp [unresolved, nothing]

theorem leaf_mismatch (expected : String) (found : Kind) :
    leaf (·.reportMismatch expected found) =
      single .typeMismatch ("expected " ++ expected ++ ", found " ++ found.name) := rfl

theorem leaf_primitive {ν : Type} (data : Instance ν) (kind : PrimitiveKind) (value : ν) :
    leaf (·.checkPrimitive data kind value) =
      if kind.accepts (data.kind value) then nothing
      else single .typeMismatch ("expected " ++ kind.name ++ ", found " ++ (data.kind value).name) := by
  by_cases accepted : kind.accepts (data.kind value)
  · simp only [leaf, Progress.checkPrimitive, accepted, if_true]
    rfl
  · simp only [leaf, Progress.checkPrimitive, accepted]
    rfl

theorem leaf_enum {ν : Type} (data : Instance ν) (allowed : List Json) (value : ν) :
    leaf (·.checkEnum data allowed value) =
      if allowed.any (data.view value).equalsLiteral then nothing
      else single .enumMismatch ("value " ++ data.preview value ++ " is not one of [" ++
        String.intercalate ", " (allowed.map Json.render) ++ "]") := by
  by_cases allows : allowed.any (data.view value).equalsLiteral
  · simp only [leaf, Progress.checkEnum, allows, if_true]
    rfl
  · simp only [leaf, Progress.checkEnum, allows]
    rfl

theorem leaf_missing (field : Field) :
    leaf (·.reportMissing field) =
      if field.required then
        (single .missingRequired ("required property `" ++ field.name ++ "` is missing")).below (.key field.name)
      else nothing := by
  cases required : field.required with
  | true =>
      simp only [leaf, Progress.reportMissing, required, if_true]
      rfl
  | false =>
      simp only [leaf, Progress.reportMissing, required, Bool.false_eq_true, if_false]
      rfl

theorem leaf_null (field : Field) :
    leaf (·.reportNull field) =
      if field.required then
        (single .missingRequired ("`" ++ field.subject ++ "` is required, but its value is `null`")).below
          (.key field.name)
      else nothing := by
  cases required : field.required with
  | true =>
      simp only [leaf, Progress.reportNull, required, if_true]
      rfl
  | false =>
      simp only [leaf, Progress.reportNull, required, Bool.false_eq_true, if_false]
      rfl

def undeclared (fields : List Field) (keys : List String) : List String :=
  keys.filter fun key => ! fields.any (·.name == key)

def unexpected (key : String) : Violation :=
  ⟨[.key key], [], "unexpected property `" ++ key ++ "`", .unexpectedProperty⟩

theorem report_undeclared (fields : List Field) (keys : List String) (progress : Progress)
    (root : progress.path = []) (direct : progress.via = []) :
    (progress.reportUndeclared fields keys).violations =
      progress.violations ++ (undeclared fields keys).map unexpected := by
  induction keys generalizing progress with
  | nil => simp [Progress.reportUndeclared, undeclared]
  | cons key rest ih =>
      rw [Progress.reportUndeclared]
      by_cases declared : fields.any (·.name == key)
      · rw [if_pos declared, ih progress root direct]
        simp only [undeclared, List.filter_cons, declared, Bool.not_true, Bool.false_eq_true, if_false]
      · have later := ih (progress.reportBelow (.key key) .unexpectedProperty ("unexpected property `" ++ key ++ "`"))
          (by simpa using root) (by simpa using direct)
        rw [if_neg declared, later]
        rw [Bool.not_eq_true] at declared
        simp only [undeclared, List.filter_cons, declared, Bool.not_false, if_true, List.map_cons]
        simp [root, direct, unexpected]

theorem leaf_undeclared (fields : List Field) (keys : List String) :
    leaf (·.reportUndeclared fields keys) = ⟨(undeclared fields keys).map unexpected, none⟩ := by
  rw [leaf, report_undeclared fields keys .start rfl rfl]
  rfl

theorem all_passed (parts : List Survey) (passed : ∀ part ∈ parts, part.failure = none) :
    all parts = ⟨parts.flatMap found, none⟩ := by
  induction parts with
  | nil => rfl
  | cons first rest ih =>
      have others := ih fun part listed => passed part (List.mem_cons_of_mem _ listed)
      rw [all_cons, and_then_passed first _ (passed first List.mem_cons_self), others, List.flatMap_cons]

theorem all_failure (parts : List Survey) (passed : ∀ part ∈ parts, part.failure = none) :
    (all parts).failure = none := by
  rw [all_passed parts passed]

@[simp] theorem and_then_nothing (first second : Survey) : first.andThen second = nothing ↔ first = nothing ∧ second = nothing := by
  rcases first with ⟨found, failure⟩
  rcases second with ⟨more, later⟩
  cases failure with
  | some failure => simp [andThen, nothing]
  | none => simp [andThen, nothing, and_assoc]

@[simp] theorem all_nothing (parts : List Survey) : all parts = nothing ↔ ∀ part ∈ parts, part = nothing := by
  induction parts with
  | nil => simp
  | cons first rest ih => simp [ih]

@[simp] theorem below_eq_nothing (segment : Segment) (part : Survey) : part.below segment = nothing ↔ part = nothing := by
  rcases part with ⟨found, failure⟩
  simp [below, nothing]

@[simp] theorem through_eq_nothing (description : String) (part : Survey) :
    part.through description = nothing ↔ part = nothing := by
  rcases part with ⟨found, failure⟩
  simp [through, nothing]

@[simp] theorem violations_passed (survey : Survey) (found : List Violation) :
    survey.violations = .ok found ↔ survey = ⟨found, none⟩ := by
  rcases survey with ⟨violations, failure⟩
  cases failure with
  | none => simp [Survey.violations]
  | some failure => simp [Survey.violations]

end ShapeCheck.Survey
