import ShapeCheck.Validation.Check

set_option autoImplicit false

namespace ShapeCheck

-- What one part of a check finds: violations located from the value it is applied to, and
-- the unresolved reference that ended it, if any. Nothing here knows where the part stands
-- in a larger check, which is what `Progress` keeps track of.
structure Survey where
  found : List Violation
  failure : Option Unresolved
deriving DecidableEq, Repr

def Violation.below (segment : Segment) (violation : Violation) : Violation :=
  { violation with path := segment :: violation.path }

def Violation.through (description : String) (violation : Violation) : Violation :=
  { violation with via := description :: violation.via }

def Unresolved.below (segment : Segment) (unresolved : Unresolved) : Unresolved :=
  { unresolved with path := segment :: unresolved.path }

namespace Survey

def nothing : Survey := ⟨[], none⟩

def leaf (step : Progress → Progress) : Survey := ⟨(step .start).violations, none⟩

def unresolved (name : String) : Survey := ⟨[], some ⟨name, []⟩⟩

def below (segment : Segment) (survey : Survey) : Survey :=
  ⟨survey.found.map (Violation.below segment), survey.failure.map (Unresolved.below segment)⟩

def through (description : String) (survey : Survey) : Survey :=
  ⟨survey.found.map (Violation.through description), survey.failure⟩

def andThen (first second : Survey) : Survey :=
  match first.failure with
  | some failure => ⟨first.found, some failure⟩
  | none => ⟨first.found ++ second.found, second.failure⟩

def all (parts : List Survey) : Survey := parts.foldr andThen nothing

def violations (survey : Survey) : Except Unresolved (List Violation) :=
  match survey.failure with
  | some failure => .error failure
  | none => .ok survey.found

@[simp] theorem all_nil : all [] = nothing := rfl

@[simp] theorem all_cons (first : Survey) (rest : List Survey) : all (first :: rest) = first.andThen (all rest) := rfl

theorem and_then_failed (first second : Survey) (failure : Unresolved) (failed : first.failure = some failure) :
    first.andThen second = first := by
  cases first
  simp only at failed
  subst failed
  rfl

theorem and_then_passed (first second : Survey) (passed : first.failure = none) :
    first.andThen second = ⟨first.found ++ second.found, second.failure⟩ := by
  simp only [andThen, passed]

end Survey

theorem field_spec_size (field : Field) : sizeOf field.spec < sizeOf field := by
  cases field
  simp only [Field.mk.sizeOf_spec]
  omega

@[elab_as_elim]
theorem spec_induction {motive : Spec → Prop} (primitive : ∀ kind, motive (.primitive kind))
    (enum : ∀ allowed, motive (.enum allowed)) (array : ∀ item, motive item → motive (.array item))
    (shape : ∀ fields exact, (∀ field ∈ fields, motive field.spec) → motive (.shape fields exact))
    (map : ∀ values, motive values → motive (.map values)) (reference : ∀ name, motive (.reference name)) :
    ∀ spec, motive spec
  | .primitive kind => primitive kind
  | .enum allowed => enum allowed
  | .array item => array item (spec_induction primitive enum array shape map reference item)
  | .shape fields exact =>
      shape fields exact fun field _ => spec_induction primitive enum array shape map reference field.spec
  | .map values => map values (spec_induction primitive enum array shape map reference values)
  | .reference name => reference name
termination_by spec => sizeOf spec
decreasing_by
  · simp
  · have listed := List.sizeOf_lt_of_mem ‹field ∈ fields›
    have inner := field_spec_size field
    simp only [Spec.shape.sizeOf_spec]
    omega
  · simp

variable {ν : Type}

-- The same descent as `inspect`, on its own: what it finds depends on the containers that
-- are already entered and on the last step of the path, and on no other part of the state.
def survey (table : Table) (data : Instance ν) (entered : List Nat) (last : Option Segment)
    (spec : Spec) (value : ν) : Survey :=
  match spec with
  | .primitive kind => .leaf (·.checkPrimitive data kind value)
  | .enum allowed => .leaf (·.checkEnum data allowed value)
  | .array item =>
      match data.view value with
      | .array _ items =>
          .all (items.zipIdx.map fun entry =>
            (survey table data entered (some (.index entry.2)) item entry.1).below (.index entry.2))
      | other => .leaf (·.reportMismatch "array" other.kind)
  | .shape fields exact =>
      match data.view value with
      | .object _ entries =>
          Survey.andThen
            (.all (fields.map fun field =>
              match Entries.get? field.name entries with
              | none => .leaf (·.reportMissing field)
              | some child =>
                  if data.kind child = .null then .leaf (·.reportNull field)
                  else (survey table data entered (some (.key field.name)) field.spec child).below
                    (.key field.name)))
            (if exact then .leaf (·.reportUndeclared fields (Entries.keys entries)) else .nothing)
      | other => .leaf (·.reportMismatch "object" other.kind)
  | .map values =>
      match data.view value with
      | .object _ entries =>
          .all (entries.map fun entry =>
            (survey table data entered (some (.key entry.1)) values entry.2).below (.key entry.1))
      | other => .leaf (·.reportMismatch "object" other.kind)
  | .reference name =>
      match table.get? name with
      | none => .unresolved name
      | some target =>
          match _seen : (data.view value).identity? with
          | none =>
              if data.kind value = .null then .nothing
              else .leaf (·.report .typeMismatch
                ("`" ++ describeReference name last ++ "` can't be a primitive value (" ++
                  data.preview value ++ ")"))
          | some id =>
              if _known : entered.contains id then .nothing
              else (survey table data (id :: entered) last target value).through
                (describeReference name last)
termination_by (({ Progress.start with entered } : Progress).remaining data.bound, sizeOf spec)
decreasing_by
  · exact Prod.Lex.right _ (by simp)
  · refine Prod.Lex.right _ ?_
    have listed := List.sizeOf_lt_of_mem ‹field ∈ fields›
    have inner := field_spec_size field
    simp only [Spec.shape.sizeOf_spec]
    omega
  · exact Prod.Lex.right _ (by simp)
  · exact Prod.Lex.left _ _ (Progress.remaining_follow _ { Progress.start with entered } "" id
      (data.bounded _ _ _seen) (by simpa using _known))

-- One case for each form of spec. A reference is the only step that keeps the value, and it
-- is taken only into a container that was not entered before.
@[elab_as_elim]
theorem survey_induction (table : Table) (data : Instance ν)
    {motive : List Nat → Option Segment → Spec → ν → Prop}
    (primitive : ∀ entered last kind value, motive entered last (.primitive kind) value)
    (enum : ∀ entered last allowed value, motive entered last (.enum allowed) value)
    (array : ∀ entered last item value,
      (∀ position child, motive entered (some (.index position)) item child) →
        motive entered last (.array item) value)
    (shape : ∀ entered last fields exact value,
      (∀ field ∈ fields, ∀ child, motive entered (some (.key field.name)) field.spec child) →
        motive entered last (.shape fields exact) value)
    (map : ∀ entered last values value,
      (∀ key child, motive entered (some (.key key)) values child) →
        motive entered last (.map values) value)
    (reference : ∀ entered last name value,
      (∀ target id, table.get? name = some target → (data.view value).identity? = some id →
        id ∉ entered → motive (id :: entered) last target value) →
          motive entered last (.reference name) value)
    (entered : List Nat) (last : Option Segment) (spec : Spec) (value : ν) :
    motive entered last spec value := by
  cases spec with
  | primitive kind => exact primitive entered last kind value
  | enum allowed => exact enum entered last allowed value
  | array item =>
      exact array entered last item value fun position child =>
        survey_induction table data primitive enum array shape map reference _ _ item child
  | shape fields exact =>
      exact shape entered last fields exact value fun field listed child =>
        survey_induction table data primitive enum array shape map reference _ _ field.spec child
  | map values =>
      exact map entered last values value fun key child =>
        survey_induction table data primitive enum array shape map reference _ _ values child
  | reference name =>
      exact reference entered last name value fun target id _ seen fresh =>
        survey_induction table data primitive enum array shape map reference (id :: entered) last target value
termination_by (({ Progress.start with entered } : Progress).remaining data.bound, sizeOf spec)
decreasing_by
  · exact Prod.Lex.right _ (by simp)
  · refine Prod.Lex.right _ ?_
    have size := List.sizeOf_lt_of_mem listed
    have inner := field_spec_size field
    simp only [Spec.shape.sizeOf_spec]
    omega
  · exact Prod.Lex.right _ (by simp)
  · exact Prod.Lex.left _ _ (Progress.remaining_follow _ { Progress.start with entered } "" id
      (data.bounded _ _ seen) (by simpa using fresh))

namespace Instance

variable (data : Instance ν) (value : ν)

theorem view_array (sort : data.kind value = .array) : ∃ id items, data.view value = .array id items := by
  rw [kind] at sort
  cases seen : data.view value with
  | scalar content => rw [seen] at sort; cases content <;> contradiction
  | array id items => exact ⟨id, items, rfl⟩
  | object id entries => rw [seen] at sort; contradiction

theorem view_object (sort : data.kind value = .object) : ∃ id entries, data.view value = .object id entries := by
  rw [kind] at sort
  cases seen : data.view value with
  | scalar content => rw [seen] at sort; cases content <;> contradiction
  | array id items => rw [seen] at sort; contradiction
  | object id entries => exact ⟨id, entries, rfl⟩

theorem view_cases : (∃ content, data.view value = .scalar content) ∨ ∃ id, (data.view value).identity? = some id := by
  cases data.view value with
  | scalar content => exact .inl ⟨content, rfl⟩
  | array id items => exact .inr ⟨id, rfl⟩
  | object id entries => exact .inr ⟨id, rfl⟩

end Instance

section

variable (table : Table) (data : Instance ν) (entered : List Nat) (last : Option Segment) (value : ν)

theorem survey_array (item : Spec) (id : Nat) (items : List ν) (seen : data.view value = .array id items) :
    survey table data entered last (.array item) value =
      .all (items.zipIdx.map fun entry =>
        (survey table data entered (some (.index entry.2)) item entry.1).below (.index entry.2)) := by
  rw [survey, seen]

theorem survey_map (values : Spec) (id : Nat) (entries : List (String × ν)) (seen : data.view value = .object id entries) :
    survey table data entered last (.map values) value =
      .all (entries.map fun entry =>
        (survey table data entered (some (.key entry.1)) values entry.2).below (.key entry.1)) := by
  rw [survey, seen]

def surveyField (entries : List (String × ν)) (field : Field) : Survey :=
  match Entries.get? field.name entries with
  | none => .leaf (·.reportMissing field)
  | some child =>
      if data.kind child = .null then .leaf (·.reportNull field)
      else (survey table data entered (some (.key field.name)) field.spec child).below (.key field.name)

theorem survey_shape (fields : List Field) (exact : Bool) (id : Nat) (entries : List (String × ν))
    (seen : data.view value = .object id entries) :
    survey table data entered last (.shape fields exact) value =
      (Survey.all (fields.map (surveyField table data entered entries))).andThen
        (if exact then .leaf (·.reportUndeclared fields (Entries.keys entries)) else .nothing) := by
  rw [survey, seen]
  rfl

theorem survey_field_absent (entries : List (String × ν)) (field : Field)
    (absent : Entries.get? field.name entries = none) :
    surveyField table data entered entries field = .leaf (·.reportMissing field) := by
  rw [surveyField, absent]

theorem survey_field_null (entries : List (String × ν)) (field : Field) (child : ν)
    (found : Entries.get? field.name entries = some child) (null : data.kind child = .null) :
    surveyField table data entered entries field = .leaf (·.reportNull field) := by
  simp only [surveyField, found, if_pos null]

theorem survey_field_filled (entries : List (String × ν)) (field : Field) (child : ν)
    (found : Entries.get? field.name entries = some child) (filled : data.kind child ≠ .null) :
    surveyField table data entered entries field =
      (survey table data entered (some (.key field.name)) field.spec child).below (.key field.name) := by
  simp only [surveyField, found, if_neg filled]

theorem survey_array_mismatch (item : Spec) (apart : data.kind value ≠ .array) :
    survey table data entered last (.array item) value = .leaf (·.reportMismatch "array" (data.kind value)) := by
  rw [survey, Instance.kind]
  rw [Instance.kind] at apart
  cases seen : data.view value with
  | scalar content => rfl
  | array id items => exact absurd (congrArg Layer.kind seen) apart
  | object id entries => rfl

theorem survey_shape_mismatch (fields : List Field) (exact : Bool) (apart : data.kind value ≠ .object) :
    survey table data entered last (.shape fields exact) value =
      .leaf (·.reportMismatch "object" (data.kind value)) := by
  rw [survey, Instance.kind]
  rw [Instance.kind] at apart
  cases seen : data.view value with
  | scalar content => rfl
  | array id items => rfl
  | object id entries => exact absurd (congrArg Layer.kind seen) apart

theorem survey_map_mismatch (values : Spec) (apart : data.kind value ≠ .object) :
    survey table data entered last (.map values) value = .leaf (·.reportMismatch "object" (data.kind value)) := by
  rw [survey, Instance.kind]
  rw [Instance.kind] at apart
  cases seen : data.view value with
  | scalar content => rfl
  | array id items => rfl
  | object id entries => exact absurd (congrArg Layer.kind seen) apart

end

theorem scalar_kind_filled (data : Instance ν) (value : ν) (content : Scalar)
    (seen : data.view value = .scalar content) (filled : content ≠ .null) : data.kind value ≠ .null := by
  cases content <;> simp [Instance.kind, seen, Layer.kind, Scalar.kind] at filled ⊢

theorem survey_reference_unknown (table : Table) (data : Instance ν) (entered : List Nat) (last : Option Segment)
    (name : String) (value : ν) (found : table.get? name = none) :
    survey table data entered last (.reference name) value = .unresolved name := by
  rw [survey, found]

theorem survey_reference_null (table : Table) (data : Instance ν) (entered : List Nat) (last : Option Segment)
    (name : String) (target : Spec) (value : ν) (found : table.get? name = some target)
    (seen : data.view value = .scalar .null) :
    survey table data entered last (.reference name) value = .nothing := by
  have kind : data.kind value = .null := by rw [Instance.kind, seen]; rfl
  rw [survey, found]
  simp only
  split
  · rw [if_pos kind]
  · rename_i id present
    rw [seen] at present
    contradiction

theorem survey_reference_scalar (table : Table) (data : Instance ν) (entered : List Nat) (last : Option Segment)
    (name : String) (target : Spec) (value : ν) (content : Scalar) (found : table.get? name = some target)
    (seen : data.view value = .scalar content) (filled : content ≠ .null) :
    survey table data entered last (.reference name) value =
      .leaf (·.report .typeMismatch
        ("`" ++ describeReference name last ++ "` can't be a primitive value (" ++ data.preview value ++ ")")) := by
  have kind := scalar_kind_filled data value content seen filled
  rw [survey, found]
  simp only
  split
  · rw [if_neg kind]
  · rename_i id present
    rw [seen] at present
    contradiction

theorem survey_reference_again (table : Table) (data : Instance ν) (entered : List Nat) (last : Option Segment)
    (name : String) (target : Spec) (value : ν) (id : Nat) (found : table.get? name = some target)
    (seen : (data.view value).identity? = some id) (known : id ∈ entered) :
    survey table data entered last (.reference name) value = .nothing := by
  rw [survey, found]
  simp only
  split
  · rename_i absent
    rw [seen] at absent
    contradiction
  · rename_i other same
    rw [seen, Option.some.injEq] at same
    subst other
    rw [dif_pos (by simpa using known)]

theorem survey_reference_fresh (table : Table) (data : Instance ν) (entered : List Nat) (last : Option Segment)
    (name : String) (target : Spec) (value : ν) (id : Nat) (found : table.get? name = some target)
    (seen : (data.view value).identity? = some id) (fresh : id ∉ entered) :
    survey table data entered last (.reference name) value =
      (survey table data (id :: entered) last target value).through (describeReference name last) := by
  rw [survey, found]
  simp only
  split
  · rename_i absent
    rw [seen] at absent
    contradiction
  · rename_i other same
    rw [seen, Option.some.injEq] at same
    subst other
    rw [dif_neg (by simpa using fresh)]

end ShapeCheck
