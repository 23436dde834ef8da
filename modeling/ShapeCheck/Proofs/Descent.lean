import ShapeCheck.Proofs.Survey
import ShapeCheck.Proofs.Unfolding

set_option autoImplicit false

namespace ShapeCheck

variable {ν : Type}

namespace Progress

def place (progress : Progress) (violation : Violation) : Violation :=
  { violation with path := progress.path ++ violation.path, via := progress.via ++ violation.via }

def placeFailure (progress : Progress) (unresolved : Unresolved) : Unresolved :=
  { unresolved with path := progress.path ++ unresolved.path }

def absorb (progress : Progress) (survey : Survey) : Outcome :=
  ⟨{ progress with violations := progress.violations ++ survey.found.map progress.place },
    survey.failure.map progress.placeFailure⟩

theorem place_below (progress : Progress) (segment : Segment) (found : List Violation) :
    found.map (progress.below segment).place = (found.map (Violation.below segment)).map progress.place := by
  simp [place, below, Violation.below]

theorem place_follow (progress : Progress) (description : String) (id : Nat) (found : List Violation) :
    found.map (progress.follow description id).place =
      (found.map (Violation.through description)).map progress.place := by
  simp [place, follow, Violation.through]

@[simp] theorem absorb_nothing (progress : Progress) : progress.absorb .nothing = .passed progress := by
  simp [absorb, Survey.nothing, Outcome.passed]

theorem absorb_unresolved (progress : Progress) (name : String) :
    progress.absorb (.unresolved name) = ⟨progress, some ⟨name, progress.path⟩⟩ := by
  simp [absorb, Survey.unresolved, placeFailure]

theorem place_outside (progress : Progress) (root : progress.path = []) (direct : progress.via = [])
    (found : List Violation) : found.map progress.place = found := by
  have same : progress.place = id := by
    funext violation
    simp [place, root, direct]
  rw [same, List.map_id]

theorem absorb_start (survey : Survey) (entered : List Nat) :
    (({ start with entered } : Progress).absorb survey).violations = survey.violations := by
  have placed := place_outside { start with entered } rfl rfl survey.found
  cases failed : survey.failure with
  | none =>
      simp only [absorb, Outcome.violations, Survey.violations, failed, placed, Option.map_none]
      rfl
  | some failure =>
      simp only [absorb, Outcome.violations, Survey.violations, failed, Option.map_some]
      rfl

-- A step that only adds violations at its place, wherever it stands.
def Reports (step : Progress → Progress) : Prop :=
  ∀ progress, Outcome.passed (step progress) = progress.absorb (.leaf step)

theorem step_reports (step : Progress → Progress) (reports : Reports step) (progress : Progress) :
    step progress = (progress.absorb (.leaf step)).progress :=
  congrArg Outcome.progress (reports progress)

theorem reports_report (kind : ViolationKind) (message : String) : Reports (·.report kind message) := by
  intro progress
  simp [absorb, Survey.leaf, Outcome.passed, report, place, start]

theorem reports_report_below (segment : Segment) (kind : ViolationKind) (message : String) :
    Reports (·.reportBelow segment kind message) := by
  intro progress
  simp [absorb, Survey.leaf, Outcome.passed, place, start]

theorem reports_nothing : Reports (fun progress => progress) := by
  intro progress
  simp [absorb, Survey.leaf, Outcome.passed, start]

theorem reports_sequence (first second : Progress → Progress) (one : Reports first) (two : Reports second) :
    Reports (fun progress => second (first progress)) := by
  have step : ∀ progress, second (first progress) = (progress.absorb
      ⟨(Survey.leaf first).found ++ (Survey.leaf second).found, none⟩).progress := by
    intro progress
    have here := congrArg Outcome.progress (one progress)
    have there := congrArg Outcome.progress (two (first progress))
    simp only [Outcome.passed, absorb] at here there ⊢
    rw [there, here]
    simp [place]
  have whole : Survey.leaf (fun progress => second (first progress)) =
      ⟨(Survey.leaf first).found ++ (Survey.leaf second).found, none⟩ := by
    have begun := congrArg Progress.violations (step .start)
    simp only [absorb, place_outside start rfl rfl] at begun
    rw [Survey.leaf, begun]
    rfl
  intro progress
  rw [whole]
  exact congrArg Outcome.passed (step progress)

theorem reports_branch (condition : Bool) (first second : Progress → Progress) (one : Reports first)
    (two : Reports second) :
    Reports (fun progress => if condition then first progress else second progress) := by
  cases condition with
  | true => simpa using one
  | false => simpa using two

theorem reports_primitive {ν : Type} (data : Instance ν) (kind : PrimitiveKind) (value : ν) :
    Reports (·.checkPrimitive data kind value) :=
  reports_branch _ _ _ reports_nothing (reports_report _ _)

theorem reports_enum {ν : Type} (data : Instance ν) (allowed : List Json) (value : ν) :
    Reports (·.checkEnum data allowed value) :=
  reports_branch _ _ _ reports_nothing (reports_report _ _)

theorem reports_mismatch (expected : String) (found : Kind) : Reports (·.reportMismatch expected found) :=
  reports_report _ _

theorem reports_missing (field : Field) : Reports (·.reportMissing field) :=
  reports_branch _ _ _ (reports_report_below _ _ _) reports_nothing

theorem reports_null (field : Field) : Reports (·.reportNull field) :=
  reports_branch _ _ _ (reports_report_below _ _ _) reports_nothing

theorem reports_undeclared (fields : List Field) (keys : List String) :
    Reports (·.reportUndeclared fields keys) := by
  induction keys with
  | nil => exact reports_nothing
  | cons key rest ih =>
      have unexpected := reports_report_below (.key key) .unexpectedProperty ("unexpected property `" ++ key ++ "`")
      exact reports_branch _ _ _ ih (reports_sequence _ _ unexpected ih)

theorem resume_below (progress : Progress) (segment : Segment) (part : Survey) :
    progress.resume ((progress.below segment).absorb part).progress =
      (progress.absorb (part.below segment)).progress := by
  simp only [absorb, resume, Survey.below, ← place_below]
  rfl

theorem resume_follow (progress : Progress) (description : String) (id : Nat) (part : Survey) :
    progress.resume ((progress.follow description id).absorb part).progress =
      (progress.absorb (part.through description)).progress := by
  simp only [absorb, resume, Survey.through, ← place_follow _ _ id]
  rfl

theorem failure_below (progress : Progress) (segment : Segment) (part : Survey) :
    ((progress.below segment).absorb part).failure = (progress.absorb (part.below segment)).failure := by
  cases failed : part.failure with
  | none => simp only [absorb, Survey.below, failed, Option.map_none]
  | some failure =>
      simp [absorb, Survey.below, failed, placeFailure, below, Unresolved.below]

@[simp] theorem last_below (progress : Progress) (segment : Segment) :
    (progress.below segment).path.getLast? = some segment := by
  simp [below]

theorem absorb_and_then (progress : Progress) (first rest : Survey) :
    progress.absorb (first.andThen rest) =
      match (progress.absorb first).failure with
      | some failure => ⟨(progress.absorb first).progress, some failure⟩
      | none => (progress.absorb first).progress.absorb rest := by
  cases failed : first.failure with
  | some failure =>
      rw [Survey.and_then_failed first rest failure failed]
      simp only [absorb, failed, Option.map_some]
  | none =>
      rw [Survey.and_then_passed first rest failed]
      simp only [absorb, failed, Option.map_none, List.map_append, List.append_assoc]
      rfl

end Progress

def AbsorbedBelow (table : Table) (data : Instance ν) (entered : List Nat) (segment : Segment) (spec : Spec) :
    Prop :=
  ∀ (progress : Progress) (value : ν), progress.entered = entered →
    inspect table data (progress.below segment) spec value =
      (progress.below segment).absorb (survey table data entered (some segment) spec value)

theorem inspect_items_absorbs (table : Table) (data : Instance ν) (entered : List Nat) (item : Spec)
    (each : ∀ position, AbsorbedBelow table data entered (.index position) item) (items : List ν)
    (progress : Progress) (position : Nat) (same : progress.entered = entered) :
    inspectItems table data progress item position items =
      progress.absorb (.all ((items.zipIdx position).map fun entry =>
        (survey table data entered (some (.index entry.2)) item entry.1).below (.index entry.2))) := by
  induction items generalizing progress position with
  | nil => simp [inspectItems]
  | cons value rest ih =>
      have step := each position progress value same
      rw [inspectItems, List.zipIdx_cons, List.map_cons, Survey.all_cons, Progress.absorb_and_then]
      simp only [step, Progress.resume_below, Progress.failure_below]
      cases (progress.absorb
        ((survey table data entered (some (.index position)) item value).below (.index position))).failure with
      | some failure => rfl
      | none => exact ih _ _ same

theorem inspect_entries_absorbs (table : Table) (data : Instance ν) (entered : List Nat) (values : Spec)
    (each : ∀ key, AbsorbedBelow table data entered (.key key) values) (entries : List (String × ν))
    (progress : Progress) (same : progress.entered = entered) :
    inspectEntries table data progress values entries =
      progress.absorb (.all (entries.map fun entry =>
        (survey table data entered (some (.key entry.1)) values entry.2).below (.key entry.1))) := by
  induction entries generalizing progress with
  | nil => simp [inspectEntries]
  | cons entry rest ih =>
      rcases entry with ⟨key, value⟩
      have step := each key progress value same
      rw [inspectEntries, List.map_cons, Survey.all_cons, Progress.absorb_and_then]
      simp only [step, Progress.resume_below, Progress.failure_below]
      cases (progress.absorb
        ((survey table data entered (some (.key key)) values value).below (.key key))).failure with
      | some failure => rfl
      | none => exact ih _ same

theorem inspect_fields_absorbs (table : Table) (data : Instance ν) (entered : List Nat)
    (entries : List (String × ν)) (fields : List Field)
    (each : ∀ field ∈ fields, AbsorbedBelow table data entered (.key field.name) field.spec) (progress : Progress)
    (same : progress.entered = entered) :
    inspectFields table data progress fields entries =
      progress.absorb (.all (fields.map (surveyField table data entered entries))) := by
  induction fields generalizing progress with
  | nil => simp [inspectFields]
  | cons field rest ih =>
      have others := fun inner => ih (fun other listed => each other (List.mem_cons_of_mem _ listed)) inner
      rw [inspectFields, List.map_cons, Survey.all_cons, Progress.absorb_and_then]
      cases found : Entries.get? field.name entries with
      | none =>
          rw [survey_field_absent _ _ _ _ _ found, Progress.step_reports _ (Progress.reports_missing field)]
          exact others _ same
      | some child =>
          by_cases null : data.kind child = .null
          · rw [survey_field_null _ _ _ _ _ child found null]
            simp only [if_pos null]
            rw [Progress.step_reports _ (Progress.reports_null field)]
            exact others _ same
          · have step := each field List.mem_cons_self progress child same
            rw [survey_field_filled _ _ _ _ _ child found null]
            simp only [if_neg null, step, Progress.resume_below, Progress.failure_below]
            cases (progress.absorb ((survey table data entered (some (.key field.name)) field.spec
              child).below (.key field.name))).failure with
            | some failure => rfl
            | none => exact others _ same

theorem inspect_reference_absorbs (table : Table) (data : Instance ν) (entered : List Nat) (name : String) (value : ν)
    (progress : Progress) (same : progress.entered = entered)
    (inner : ∀ target id, table.get? name = some target → (data.view value).identity? = some id → id ∉ entered →
      ∀ deeper : Progress, deeper.entered = id :: entered → deeper.path.getLast? = progress.path.getLast? →
        inspect table data deeper target value =
          deeper.absorb (survey table data (id :: entered) progress.path.getLast? target value)) :
    inspectReference table data progress name value =
      progress.absorb (survey table data entered progress.path.getLast? (.reference name) value) := by
  rw [inspectReference]
  cases found : table.get? name with
  | none =>
      rw [survey_reference_unknown table data _ _ name value found]
      exact (progress.absorb_unresolved name).symm
  | some target =>
      simp only
      split
      · rename_i absent
        cases seen : data.view value with
        | scalar content =>
            by_cases null : content = .null
            · subst null
              have kind : data.kind value = .null := by rw [Instance.kind, seen]; rfl
              rw [survey_reference_null table data _ _ name target value found seen, if_pos kind]
              exact progress.absorb_nothing.symm
            · have kind := scalar_kind_filled data value content seen null
              rw [survey_reference_scalar table data _ _ name target value content found seen null, if_neg kind]
              exact Progress.reports_report _ _ progress
        | array id items => simp [seen, Layer.identity?] at absent
        | object id entries => simp [seen, Layer.identity?] at absent
      · rename_i id seen
        by_cases known : id ∈ entered
        · have marked : progress.entered.contains id = true := by simpa [same] using known
          rw [survey_reference_again table data _ _ name target value id found seen known, dif_pos marked]
          exact progress.absorb_nothing.symm
        · have unmarked : ¬ progress.entered.contains id = true := by simpa [same] using known
          have step := inner target id found seen known
            (progress.follow (describeReference name progress.path.getLast?) id) (congrArg (List.cons id) same) rfl
          rw [survey_reference_fresh table data _ _ name target value id found seen known, dif_neg unmarked]
          simp only [step, Progress.resume_follow]
          rfl

theorem inspect_absorbs (table : Table) (data : Instance ν) (entered : List Nat) (last : Option Segment)
    (spec : Spec) (value : ν) (progress : Progress) (same : progress.entered = entered)
    (here : progress.path.getLast? = last) :
    inspect table data progress spec value = progress.absorb (survey table data entered last spec value) := by
  induction entered, last, spec, value using survey_induction table data generalizing progress with
  | primitive entered last kind value =>
      rw [inspect, survey]
      exact Progress.reports_primitive data kind value progress
  | enum entered last allowed value =>
      rw [inspect, survey]
      exact Progress.reports_enum data allowed value progress
  | array entered last item value ih =>
      rw [inspect, survey]
      cases data.view value with
      | scalar content => exact Progress.reports_mismatch _ _ progress
      | array id items =>
          refine inspect_items_absorbs table data entered item ?_ items progress 0 same
          intro position inner child kept
          exact ih position child (inner.below _) kept (inner.last_below _)
      | object id entries => exact Progress.reports_mismatch _ _ progress
  | shape entered last fields exact value ih =>
      rw [inspect, inspectShape]
      cases seen : data.view value with
      | scalar content =>
          rw [survey, seen]
          exact Progress.reports_mismatch _ _ progress
      | array id items =>
          rw [survey, seen]
          exact Progress.reports_mismatch _ _ progress
      | object id entries =>
          have each : ∀ field ∈ fields, AbsorbedBelow table data entered (.key field.name) field.spec := by
            intro field listed inner child kept
            exact ih field listed child (inner.below _) kept (inner.last_below _)
          have step := inspect_fields_absorbs table data entered entries fields each progress same
          rw [survey_shape _ _ _ _ _ fields exact id entries seen]
          simp only [Progress.absorb_and_then, step]
          generalize Survey.all _ = part
          cases (progress.absorb part).failure with
          | some failure => rfl
          | none =>
              cases exact with
              | true => exact Progress.reports_undeclared fields _ _
              | false => exact (Progress.absorb_nothing _).symm
  | map entered last values value ih =>
      rw [inspect, survey]
      cases data.view value with
      | scalar content => exact Progress.reports_mismatch _ _ progress
      | array id items => exact Progress.reports_mismatch _ _ progress
      | object id entries =>
          refine inspect_entries_absorbs table data entered values ?_ entries progress same
          intro key inner child kept
          exact ih key child (inner.below _) kept (inner.last_below _)
  | reference entered last name value ih =>
      subst here
      rw [inspect]
      apply inspect_reference_absorbs table data entered name value progress same
      intro target id found seen fresh deeper
      exact ih target id found seen fresh deeper

theorem inspect_from_start (table : Table) (data : Instance ν) (entered : List Nat) (spec : Spec) (value : ν) :
    (inspect table data { Progress.start with entered } spec value).violations =
      (survey table data entered none spec value).violations := by
  rw [inspect_absorbs table data entered none spec value _ rfl rfl, Progress.absorb_start]

namespace Table

theorem check_survey (table : Table) (data : Instance ν) (spec : Spec) (value : ν) :
    table.check data spec value =
      (survey table data (if spec.isReference then [] else data.ownIdentity value) none spec value).violations := by
  cases reference : spec.isReference with
  | true =>
      simp only [check, reference, if_true]
      exact inspect_from_start table data [] spec value
  | false =>
      simp only [check, reference, Bool.false_eq_true, if_false]
      exact inspect_from_start table data _ spec value

theorem check_entry_survey (table : Table) (data : Instance ν) (name : String) (spec : Spec) (value : ν)
    (entry : table.get? name = some spec) :
    table.checkEntry data name value = table.check data spec value := by
  simp only [checkEntry, lookup, entry, bind, Except.bind]

theorem check_entry_unknown (table : Table) (data : Instance ν) (name : String) (value : ν)
    (absent : table.get? name = none) : table.checkEntry data name value = .error ⟨name, []⟩ := by
  simp only [checkEntry, lookup, absent, bind, Except.bind]

theorem outcome_violations_same (left right : Outcome)
    (same : left.progress.violations = right.progress.violations) (failed : left.failure = right.failure) :
    left.violations = right.violations := by
  rw [Outcome.violations, Outcome.violations, failed, same]

theorem inspect_below_start (table : Table) (data : Instance ν) (segment : Segment) (spec : Spec) (value : ν) :
    (inspect table data ((Progress.startAt data value).below segment) spec value).violations =
      ((survey table data (data.ownIdentity value) (some segment) spec value).below segment).violations := by
  rw [inspect_absorbs table data (data.ownIdentity value) (some segment) spec value _ rfl rfl]
  generalize survey table data (data.ownIdentity value) (some segment) spec value = part
  have moved := congrArg Progress.violations ((Progress.startAt data value).resume_below segment part)
  have failed := (Progress.startAt data value).failure_below segment part
  rw [← Progress.absorb_start _ (data.ownIdentity value)]
  exact outcome_violations_same _ _ moved failed

theorem check_fields_survey (table : Table) (data : Instance ν) (name : String) (fields : List Field) (value : ν) :
    table.checkFields data name fields value =
      ((survey table data (data.ownIdentity value) (some (.key name)) (.shape fields true) value).below
        (.key name)).violations := by
  rw [← inspect_below_start, inspect, checkFields]

theorem check_entry_exactly_shape (table : Table) (data : Instance ν) (name : String) (fields : List Field)
    (exact : Bool) (value : ν) (entry : table.get? name = some (.shape fields exact)) :
    table.checkEntryExactly data name value = table.checkFields data name fields value := by
  simp only [checkEntryExactly, lookup, entry, bind, Except.bind]

theorem check_entry_exactly_other (table : Table) (data : Instance ν) (name : String) (spec : Spec) (value : ν)
    (entry : table.get? name = some spec) (plain : ∀ fields exact, spec ≠ .shape fields exact) :
    table.checkEntryExactly data name value =
      ((survey table data (data.ownIdentity value) (some (.key name)) spec value).below
        (.key name)).violations := by
  rw [← inspect_below_start]
  simp only [checkEntryExactly, lookup, entry, bind, Except.bind]

theorem check_entry_exactly_unknown (table : Table) (data : Instance ν) (name : String) (value : ν)
    (absent : table.get? name = none) : table.checkEntryExactly data name value = .error ⟨name, []⟩ := by
  simp only [checkEntryExactly, lookup, absent, bind, Except.bind]

end Table

end ShapeCheck
