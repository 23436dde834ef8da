import ShapeCheck.Proofs.Descent
import ShapeCheck.Proofs.Findings

set_option autoImplicit false

namespace ShapeCheck

variable {ν : Type}

inductive Part (data : Instance ν) : Segment → Spec → ν → Spec → ν → Prop where
  | item (item : Spec) (value : ν) (id : Nat) (items : List ν) (position : Nat) (child : ν)
      (seen : data.view value = .array id items) (placed : items[position]? = some child) :
      Part data (.index position) (.array item) value item child
  | entry (values : Spec) (value : ν) (id : Nat) (entries : List (String × ν)) (key : String) (child : ν)
      (seen : data.view value = .object id entries) (listed : (key, child) ∈ entries) :
      Part data (.key key) (.map values) value values child
  | field (fields : List Field) (exact : Bool) (value : ν) (id : Nat) (entries : List (String × ν)) (field : Field)
      (child : ν) (seen : data.view value = .object id entries) (declared : field ∈ fields)
      (found : Entries.get? field.name entries = some child) (filled : data.kind child ≠ .null) :
      Part data (.key field.name) (.shape fields exact) value field.spec child

-- One visit of the descent: the state it starts in, less what was reported before it, and what
-- it checks against what.
structure Visit (ν : Type) where
  progress : Progress
  spec : Spec
  value : ν

inductive Calls (table : Table) (data : Instance ν) : Visit ν → Visit ν → Prop where
  | part (progress : Progress) (segment : Segment) (whole part : Spec) (value child : ν)
      (asks : Part data segment whole value part child) :
      Calls table data ⟨progress, whole, value⟩ ⟨progress.below segment, part, child⟩
  | follow (progress : Progress) (name : String) (target : Spec) (value : ν) (id : Nat)
      (found : table.get? name = some target) (seen : (data.view value).identity? = some id)
      (fresh : id ∉ progress.entered) :
      Calls table data ⟨progress, .reference name, value⟩
        ⟨progress.follow (describeReference name progress.path.getLast?) id, target, value⟩

def Reached (table : Table) (data : Instance ν) : Visit ν → Visit ν → Prop := Relation.ReflTransGen (Calls table data)

theorem part_smaller (data : Instance ν) (segment : Segment) (whole part : Spec) (value child : ν)
    (asks : Part data segment whole value part child) : sizeOf part < sizeOf whole := by
  cases asks with
  | item => simp
  | entry => simp
  | field fields exact _ id entries field _ seen declared found filled =>
      have listed := List.sizeOf_lt_of_mem declared
      have inner := field_spec_size field
      simp only [Spec.shape.sizeOf_spec]
      omega

noncomputable def Visit.left (data : Instance ν) (visit : Visit ν) : Nat × Nat :=
  (visit.progress.remaining data.bound, sizeOf visit.spec)

theorem calls_smaller (table : Table) (data : Instance ν) (outer inner : Visit ν) (calls : Calls table data outer inner) :
    Prod.Lex (· < ·) (· < ·) (inner.left data) (outer.left data) := by
  cases calls with
  | part progress segment whole part value child asks =>
      exact .right _ (part_smaller data segment whole part value child asks)
  | follow progress name target value id found seen fresh =>
      have bounded := data.bounded value id seen
      exact .left _ _ (Progress.remaining_follow _ progress _ id bounded (by simpa using fresh))

theorem calls_well_founded (table : Table) (data : Instance ν) :
    WellFounded fun inner outer : Visit ν => Calls table data outer inner := by
  have ordered : WellFounded (Prod.Lex (· < ·) (· < ·) : Nat × Nat → Nat × Nat → Prop) :=
    (Prod.lex Nat.lt_wfRel Nat.lt_wfRel).wf
  exact Subrelation.wf (fun calls => calls_smaller table data _ _ calls) (InvImage.wf (Visit.left data) ordered)

-- What is wrong with a value itself, as it is reported when the value is the root. The parts
-- of the value are not looked into, only whether a declared field is there.
inductive Flaw (table : Table) (data : Instance ν) (last : Option Segment) : Spec → ν → Violation → Prop where
  | primitive (kind : PrimitiveKind) (value : ν) (refused : kind.accepts (data.kind value) = false) :
      Flaw table data last (.primitive kind) value
        ⟨[], [], "expected " ++ kind.name ++ ", found " ++ (data.kind value).name, .typeMismatch⟩
  | enum (allowed : List Json) (value : ν)
      (other : ∀ literal ∈ allowed, (data.view value).equalsLiteral literal = false) :
      Flaw table data last (.enum allowed) value
        ⟨[], [], "value " ++ data.preview value ++ " is not one of [" ++
          String.intercalate ", " (allowed.map Json.render) ++ "]", .enumMismatch⟩
  | array (item : Spec) (value : ν) (apart : data.kind value ≠ .array) :
      Flaw table data last (.array item) value
        ⟨[], [], "expected array, found " ++ (data.kind value).name, .typeMismatch⟩
  | shape (fields : List Field) (exact : Bool) (value : ν) (apart : data.kind value ≠ .object) :
      Flaw table data last (.shape fields exact) value
        ⟨[], [], "expected object, found " ++ (data.kind value).name, .typeMismatch⟩
  | map (values : Spec) (value : ν) (apart : data.kind value ≠ .object) :
      Flaw table data last (.map values) value
        ⟨[], [], "expected object, found " ++ (data.kind value).name, .typeMismatch⟩
  | reference (name : String) (target : Spec) (value : ν) (content : Scalar) (found : table.get? name = some target)
      (seen : data.view value = .scalar content) (filled : content ≠ .null) :
      Flaw table data last (.reference name) value
        ⟨[], [], "`" ++ describeReference name last ++ "` can't be a primitive value (" ++ data.preview value ++ ")",
          .typeMismatch⟩
  | missing (fields : List Field) (exact : Bool) (value : ν) (id : Nat) (entries : List (String × ν)) (field : Field)
      (seen : data.view value = .object id entries) (declared : field ∈ fields) (required : field.required = true)
      (absent : Entries.get? field.name entries = none) :
      Flaw table data last (.shape fields exact) value
        ⟨[.key field.name], [], "required property `" ++ field.name ++ "` is missing", .missingRequired⟩
  | null (fields : List Field) (exact : Bool) (value : ν) (id : Nat) (entries : List (String × ν)) (field : Field)
      (child : ν) (seen : data.view value = .object id entries) (declared : field ∈ fields)
      (required : field.required = true) (found : Entries.get? field.name entries = some child)
      (null : data.kind child = .null) :
      Flaw table data last (.shape fields exact) value
        ⟨[.key field.name], [], "`" ++ field.subject ++ "` is required, but its value is `null`", .missingRequired⟩
  | undeclared (fields : List Field) (value : ν) (id : Nat) (entries : List (String × ν)) (key : String)
      (seen : data.view value = .object id entries) (listed : key ∈ Entries.keys entries)
      (unknown : ∀ field ∈ fields, field.name ≠ key) :
      Flaw table data last (.shape fields true) value
        ⟨[.key key], [], "unexpected property `" ++ key ++ "`", .unexpectedProperty⟩

def Visit.Reports (table : Table) (data : Instance ν) (visit : Visit ν) (violation : Violation) : Prop :=
  ∃ flaw, Flaw table data visit.progress.path.getLast? visit.spec visit.value flaw ∧
    violation = visit.progress.place flaw

def Visit.Fails (table : Table) (visit : Visit ν) (failure : Unresolved) : Prop :=
  visit.spec = .reference failure.name ∧ table.get? failure.name = none ∧ failure.path = visit.progress.path

def Visit.survey (table : Table) (data : Instance ν) (visit : Visit ν) : Survey :=
  ShapeCheck.survey table data visit.progress.entered visit.progress.path.getLast? visit.spec visit.value

def Visit.reported (table : Table) (data : Instance ν) (visit : Visit ν) : List Violation :=
  (visit.survey table data).found.map visit.progress.place

def Visit.failed (table : Table) (data : Instance ν) (visit : Visit ν) : Option Unresolved :=
  (visit.survey table data).failure.map visit.progress.placeFailure

section

variable (table : Table) (data : Instance ν) (progress : Progress) (spec : Spec) (value : ν)

theorem survey_below (segment : Segment) :
    Visit.survey table data ⟨progress.below segment, spec, value⟩ =
      ShapeCheck.survey table data progress.entered (some segment) spec value := by
  rw [Visit.survey, progress.last_below]
  rfl

theorem reported_below (segment : Segment) :
    Visit.reported table data ⟨progress.below segment, spec, value⟩ =
      ((ShapeCheck.survey table data progress.entered (some segment) spec value).below segment).found.map
        progress.place := by
  rw [Visit.reported, survey_below, progress.place_below]
  rfl

theorem failed_below (segment : Segment) :
    Visit.failed table data ⟨progress.below segment, spec, value⟩ =
      ((ShapeCheck.survey table data progress.entered (some segment) spec value).below segment).failure.map
        progress.placeFailure := by
  rw [Visit.failed, survey_below]
  exact progress.failure_below segment _

theorem reported_follow (description : String) (id : Nat) :
    Visit.reported table data ⟨progress.follow description id, spec, value⟩ =
      ((ShapeCheck.survey table data (id :: progress.entered) progress.path.getLast? spec value).through
        description).found.map progress.place :=
  progress.place_follow description id _

theorem failed_follow (description : String) (id : Nat) :
    Visit.failed table data ⟨progress.follow description id, spec, value⟩ =
      ((ShapeCheck.survey table data (id :: progress.entered) progress.path.getLast? spec value).through
        description).failure.map progress.placeFailure := rfl

end

def Visit.answer (table : Table) (data : Instance ν) (visit : Visit ν) : Except Unresolved (List Violation) :=
  (inspect table data visit.progress visit.spec visit.value).violations

theorem answer_reported (table : Table) (data : Instance ν) (visit : Visit ν) (clean : visit.progress.violations = []) :
    visit.answer table data =
      match visit.failed table data with
      | some failure => .error failure
      | none => .ok (visit.reported table data) := by
  rw [Visit.answer, inspect_absorbs table data _ _ visit.spec visit.value visit.progress rfl rfl, Outcome.violations]
  simp only [Progress.absorb, clean, List.nil_append]
  rfl

theorem answer_passed (table : Table) (data : Instance ν) (visit : Visit ν) (clean : visit.progress.violations = [])
    (found : List Violation) :
    visit.answer table data = .ok found ↔ visit.failed table data = none ∧ visit.reported table data = found := by
  rw [answer_reported table data visit clean]
  cases visit.failed table data with
  | none => simp
  | some failure => simp

theorem answer_failed (table : Table) (data : Instance ν) (visit : Visit ν) (clean : visit.progress.violations = [])
    (failure : Unresolved) : visit.answer table data = .error failure ↔ failure ∈ visit.failed table data := by
  rw [answer_reported table data visit clean]
  cases visit.failed table data with
  | none => simp
  | some other => simp

def Visit.atRoot (data : Instance ν) (spec : Spec) (root : ν) : Visit ν :=
  ⟨if spec.isReference then .start else .startAt data root, spec, root⟩

def Visit.asProperty (data : Instance ν) (name : String) (spec : Spec) (root : ν) : Visit ν :=
  ⟨(Progress.startAt data root).below (.key name), spec, root⟩

theorem at_root_clean (data : Instance ν) (spec : Spec) (root : ν) :
    (Visit.atRoot data spec root).progress.violations = [] := by
  rw [Visit.atRoot]
  cases spec.isReference <;> rfl

theorem as_property_clean (data : Instance ν) (name : String) (spec : Spec) (root : ν) :
    (Visit.asProperty data name spec root).progress.violations = [] := rfl

def Spec.exactly : Spec → Spec
  | .shape fields _ => .shape fields true
  | other => other

namespace Table

theorem check_answer (table : Table) (data : Instance ν) (spec : Spec) (root : ν) :
    table.check data spec root = (Visit.atRoot data spec root).answer table data := rfl

theorem check_fields_answer (table : Table) (data : Instance ν) (name : String) (fields : List Field) (root : ν) :
    table.checkFields data name fields root = (Visit.asProperty data name (.shape fields true) root).answer table data := by
  rw [checkFields, Visit.answer, Visit.asProperty, inspect]

theorem check_entry_exactly_answer (table : Table) (data : Instance ν) (name : String) (spec : Spec) (root : ν)
    (entry : table.get? name = some spec) :
    table.checkEntryExactly data name root = (Visit.asProperty data name spec.exactly root).answer table data := by
  cases spec with
  | shape fields exact =>
      rw [table.check_entry_exactly_shape data name fields exact root entry]
      exact table.check_fields_answer data name fields root
  | _ =>
      simp only [checkEntryExactly, lookup, entry, bind, Except.bind]
      rfl

theorem check_entry_exactly_survey (table : Table) (data : Instance ν) (name : String) (spec : Spec) (root : ν)
    (entry : table.get? name = some spec) :
    table.checkEntryExactly data name root =
      ((survey table data (data.ownIdentity root) (some (.key name)) spec.exactly root).below (.key name)).violations := by
  rw [table.check_entry_exactly_answer data name spec root entry]
  exact table.inspect_below_start data (.key name) spec.exactly root

end Table

namespace Survey

structure Only (part : Survey) (reports : Violation → Prop) (fails : Unresolved → Prop) : Prop where
  found : ∀ violation ∈ part.found, reports violation
  failure : ∀ failure ∈ part.failure, fails failure

variable (reports : Violation → Prop) (fails : Unresolved → Prop)

theorem only_nothing : nothing.Only reports fails := ⟨nofun, nofun⟩

theorem only_one (violation : Violation) (allowed : reports violation) : (Survey.mk [violation] none).Only reports fails :=
  ⟨fun _ listed => List.mem_singleton.mp listed ▸ allowed, nofun⟩

theorem only_and_then (first second : Survey) (one : first.Only reports fails) (two : second.Only reports fails) :
    (first.andThen second).Only reports fails := by
  cases failed : first.failure with
  | some failure =>
      rw [and_then_failed first second failure failed]
      exact one
  | none =>
      rw [and_then_passed first second failed]
      refine ⟨fun violation listed => ?_, two.failure⟩
      rcases List.mem_append.mp listed with here | later
      · exact one.found violation here
      · exact two.found violation later

theorem only_all (parts : List Survey) (each : ∀ part ∈ parts, part.Only reports fails) :
    (all parts).Only reports fails := by
  induction parts with
  | nil => exact only_nothing reports fails
  | cons first rest ih =>
      rw [List.forall_mem_cons] at each
      exact only_and_then reports fails first (all rest) each.1 (ih each.2)

end Survey

section

variable (table : Table) (data : Instance ν)

def Visit.Accounts (visit : Visit ν) (violation : Violation) : Prop :=
  visit.Reports table data violation ∨
    ∃ inner, Calls table data visit inner ∧ violation ∈ inner.reported table data

def Visit.Ends (visit : Visit ν) (failure : Unresolved) : Prop :=
  visit.Fails table failure ∨ ∃ inner, Calls table data visit inner ∧ failure ∈ inner.failed table data

def Visit.Covers (visit : Visit ν) (part : Survey) : Prop :=
  part.Only (fun violation => visit.Accounts table data (visit.progress.place violation))
    (fun failure => visit.Ends table data (visit.progress.placeFailure failure))

variable (progress : Progress) (value : ν)

theorem covers_part (segment : Segment) (whole part : Spec) (child : ν) (asks : Part data segment whole value part child) :
    Visit.Covers table data ⟨progress, whole, value⟩
      ((survey table data progress.entered (some segment) part child).below segment) := by
  have calls : Calls table data ⟨progress, whole, value⟩ ⟨progress.below segment, part, child⟩ :=
    .part progress segment whole part value child asks
  refine ⟨fun violation listed => .inr ⟨_, calls, ?_⟩, fun failure ended => .inr ⟨_, calls, ?_⟩⟩
  · rw [reported_below]
    exact List.mem_map_of_mem listed
  · rw [failed_below]
    exact Option.mem_map_of_mem _ ended

theorem covers_follow (name : String) (target : Spec) (id : Nat) (found : table.get? name = some target)
    (seen : (data.view value).identity? = some id) (fresh : id ∉ progress.entered) :
    Visit.Covers table data ⟨progress, .reference name, value⟩
      ((survey table data (id :: progress.entered) progress.path.getLast? target value).through
        (describeReference name progress.path.getLast?)) := by
  have calls : Calls table data ⟨progress, .reference name, value⟩
      ⟨progress.follow (describeReference name progress.path.getLast?) id, target, value⟩ :=
    .follow progress name target value id found seen fresh
  refine ⟨fun violation listed => .inr ⟨_, calls, ?_⟩, fun failure ended => .inr ⟨_, calls, ?_⟩⟩
  · rw [reported_follow]
    exact List.mem_map_of_mem listed
  · rw [failed_follow]
    exact Option.mem_map_of_mem _ ended

theorem covers_nothing (spec : Spec) : Visit.Covers table data ⟨progress, spec, value⟩ .nothing :=
  Survey.only_nothing _ _

theorem covers_flaw (spec : Spec) (flaw : Violation) (wrong : Flaw table data progress.path.getLast? spec value flaw) :
    Visit.Covers table data ⟨progress, spec, value⟩ ⟨[flaw], none⟩ :=
  Survey.only_one _ _ flaw (.inl ⟨flaw, wrong, rfl⟩)

theorem covers_array (item : Spec) :
    Visit.Covers table data ⟨progress, .array item, value⟩ (Visit.survey table data ⟨progress, .array item, value⟩) := by
  rw [Visit.survey]
  by_cases sort : data.kind value = .array
  · obtain ⟨id, items, seen⟩ := data.view_array value sort
    rw [survey_array _ _ _ _ _ item id items seen]
    refine Survey.only_all _ _ _ fun part listed => ?_
    obtain ⟨⟨child, position⟩, indexed, same⟩ := List.mem_map.mp listed
    have placed : items[position]? = some child := List.mk_mem_zipIdx_iff_getElem?.mp indexed
    subst same
    exact covers_part table data progress value _ _ item child (.item item value id items position child seen placed)
  · rw [survey_array_mismatch _ _ _ _ _ item sort]
    exact covers_flaw table data progress value _ _ (.array item value sort)

theorem covers_map (values : Spec) :
    Visit.Covers table data ⟨progress, .map values, value⟩ (Visit.survey table data ⟨progress, .map values, value⟩) := by
  rw [Visit.survey]
  by_cases sort : data.kind value = .object
  · obtain ⟨id, entries, seen⟩ := data.view_object value sort
    rw [survey_map _ _ _ _ _ values id entries seen]
    refine Survey.only_all _ _ _ fun part listed => ?_
    obtain ⟨⟨key, child⟩, here, same⟩ := List.mem_map.mp listed
    subst same
    exact covers_part table data progress value _ _ values child (.entry values value id entries key child seen here)
  · rw [survey_map_mismatch _ _ _ _ _ values sort]
    exact covers_flaw table data progress value _ _ (.map values value sort)

theorem covers_field (fields : List Field) (exact : Bool) (id : Nat) (entries : List (String × ν))
    (seen : data.view value = .object id entries) (field : Field) (declared : field ∈ fields) :
    Visit.Covers table data ⟨progress, .shape fields exact, value⟩
      (surveyField table data progress.entered entries field) := by
  cases found : Entries.get? field.name entries with
  | none =>
      rw [survey_field_absent _ _ _ _ _ found, Survey.leaf_missing]
      by_cases required : field.required = true
      · rw [if_pos required]
        apply covers_flaw
        exact .missing fields exact value id entries field seen declared required found
      · rw [if_neg required]
        exact covers_nothing table data progress value _
  | some child =>
      by_cases null : data.kind child = .null
      · rw [survey_field_null _ _ _ _ _ child found null, Survey.leaf_null]
        by_cases required : field.required = true
        · rw [if_pos required]
          apply covers_flaw
          exact .null fields exact value id entries field child seen declared required found null
        · rw [if_neg required]
          exact covers_nothing table data progress value _
      · rw [survey_field_filled _ _ _ _ _ child found null]
        apply covers_part
        exact .field fields exact value id entries field child seen declared found null

theorem covers_undeclared (fields : List Field) (id : Nat) (entries : List (String × ν))
    (seen : data.view value = .object id entries) :
    Visit.Covers table data ⟨progress, .shape fields true, value⟩
      (.leaf (·.reportUndeclared fields (Entries.keys entries))) := by
  rw [Survey.leaf_undeclared]
  refine ⟨fun violation listed => ?_, nofun⟩
  obtain ⟨key, here, same⟩ := List.mem_map.mp listed
  rw [Survey.undeclared, List.mem_filter] at here
  have unknown : ∀ field ∈ fields, field.name ≠ key := by simpa using here.2
  subst same
  exact .inl ⟨_, .undeclared fields value id entries key seen here.1 unknown, rfl⟩

theorem covers_shape (fields : List Field) (exact : Bool) :
    Visit.Covers table data ⟨progress, .shape fields exact, value⟩
      (Visit.survey table data ⟨progress, .shape fields exact, value⟩) := by
  rw [Visit.survey]
  by_cases sort : data.kind value = .object
  · obtain ⟨id, entries, seen⟩ := data.view_object value sort
    rw [survey_shape _ _ _ _ _ fields exact id entries seen]
    apply Survey.only_and_then
    · refine Survey.only_all _ _ _ fun part listed => ?_
      obtain ⟨field, declared, same⟩ := List.mem_map.mp listed
      subst same
      exact covers_field table data progress value fields exact id entries seen field declared
    · cases exact with
      | true => exact covers_undeclared table data progress value fields id entries seen
      | false => exact covers_nothing table data progress value _
  · rw [survey_shape_mismatch _ _ _ _ _ fields exact sort]
    exact covers_flaw table data progress value _ _ (.shape fields exact value sort)

theorem covers_reference (name : String) :
    Visit.Covers table data ⟨progress, .reference name, value⟩
      (Visit.survey table data ⟨progress, .reference name, value⟩) := by
  rw [Visit.survey]
  cases found : table.get? name with
  | none =>
      rw [survey_reference_unknown table data _ _ name value found]
      refine ⟨nofun, fun failure ended => .inl ?_⟩
      obtain rfl : failure = ⟨name, []⟩ := (Option.mem_some.mp ended).symm
      exact ⟨rfl, found, List.append_nil _⟩
  | some target =>
      rcases data.view_cases value with ⟨content, seen⟩ | ⟨id, seen⟩
      · by_cases null : content = .null
        · rw [survey_reference_null table data _ _ name target value found (null ▸ seen)]
          exact covers_nothing table data progress value _
        · rw [survey_reference_scalar table data _ _ name target value content found seen null]
          apply covers_flaw table data progress value
          exact .reference name target value content found seen null
      · by_cases again : id ∈ progress.entered
        · rw [survey_reference_again table data _ _ name target value id found seen again]
          exact covers_nothing table data progress value _
        · rw [survey_reference_fresh table data _ _ name target value id found seen again]
          exact covers_follow table data progress value name target id found seen again

theorem visit_covers (visit : Visit ν) : visit.Covers table data (visit.survey table data) := by
  rcases visit with ⟨progress, spec, value⟩
  cases spec with
  | primitive kind =>
      rw [Visit.survey, survey, Survey.leaf_primitive]
      by_cases accepted : kind.accepts (data.kind value) = true
      · rw [if_pos accepted]
        exact covers_nothing table data progress value _
      · rw [if_neg accepted]
        apply covers_flaw table data progress value
        exact .primitive kind value (by simpa using accepted)
  | enum allowed =>
      rw [Visit.survey, survey, Survey.leaf_enum]
      by_cases allows : allowed.any (data.view value).equalsLiteral = true
      · rw [if_pos allows]
        exact covers_nothing table data progress value _
      · rw [if_neg allows]
        apply covers_flaw table data progress value
        exact .enum allowed value (by simpa using allows)
  | array item => exact covers_array table data progress value item
  | shape fields exact => exact covers_shape table data progress value fields exact
  | map values => exact covers_map table data progress value values
  | reference name => exact covers_reference table data progress value name

-- A whole descent: each report has its visit. The induction is on the visits made, which come
-- to an end.
theorem reported_reached (start : Visit ν) (violation : Violation) (listed : violation ∈ start.reported table data) :
    ∃ visit, Reached table data start visit ∧ visit.Reports table data violation := by
  induction start using (calls_well_founded table data).induction with
  | _ start ih =>
      obtain ⟨relative, found, same⟩ := List.mem_map.mp listed
      subst same
      rcases (visit_covers table data start).found relative found with here | ⟨inner, calls, later⟩
      · exact ⟨start, .refl, here⟩
      · obtain ⟨visit, reached, reports⟩ := ih inner calls later
        exact ⟨visit, .head calls reached, reports⟩

theorem failed_reached (start : Visit ν) (failure : Unresolved) (ended : failure ∈ start.failed table data) :
    ∃ visit, Reached table data start visit ∧ visit.Fails table failure := by
  induction start using (calls_well_founded table data).induction with
  | _ start ih =>
      obtain ⟨relative, found, same⟩ := Option.map_eq_some_iff.mp ended
      subst same
      rcases (visit_covers table data start).failure relative found with here | ⟨inner, calls, later⟩
      · exact ⟨start, .refl, here⟩
      · obtain ⟨visit, reached, fails⟩ := ih inner calls later
        exact ⟨visit, .head calls reached, fails⟩

end

end ShapeCheck
