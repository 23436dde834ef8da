import ShapeCheck.Proofs.Descent

set_option autoImplicit false

/- The check again, as a relation with one state from beginning to end: what is pushed for a
   part is popped after it, and no earlier state is ever returned to. -/
namespace ShapeCheck

variable {ν : Type}

namespace Progress

def leave (progress : Progress) (id : Nat) : Progress :=
  { progress with via := progress.via.dropLast, entered := progress.entered.filter (· != id) }

theorem absorb_back (progress : Progress) (segment : Segment) (part : Survey) :
    progress.resume ((progress.below segment).absorb part).progress =
      ((progress.below segment).absorb part).progress.back := by
  simp [absorb, back, below, resume]

theorem absorb_leave (progress : Progress) (description : String) (id : Nat) (part : Survey)
    (fresh : id ∉ progress.entered) :
    progress.resume ((progress.follow description id).absorb part).progress =
      ((progress.follow description id).absorb part).progress.leave id := by
  have others : progress.entered.filter (· != id) = progress.entered := by
    refine List.filter_eq_self.mpr fun other listed => ?_
    have apart : other ≠ id := fun same => fresh (same ▸ listed)
    simpa using apart
  simp [absorb, leave, follow, resume, others]

end Progress

inductive Task (ν : Type) where
  | check (spec : Spec) (value : ν)
  | items (item : Spec) (position : Nat) (items : List ν)
  | entries (values : Spec) (entries : List (String × ν))
  | fields (fields : List Field) (entries : List (String × ν))

def Task.run (table : Table) (data : Instance ν) (progress : Progress) : Task ν → Outcome
  | .check spec value => inspect table data progress spec value
  | .items item position rest => inspectItems table data progress item position rest
  | .entries values rest => inspectEntries table data progress values rest
  | .fields rest whole => inspectFields table data progress rest whole

inductive Threads (table : Table) (data : Instance ν) : Progress → Task ν → Outcome → Prop where
  | primitive (progress : Progress) (kind : PrimitiveKind) (value : ν) :
      Threads table data progress (.check (.primitive kind) value) (.passed (progress.checkPrimitive data kind value))
  | enum (progress : Progress) (allowed : List Json) (value : ν) :
      Threads table data progress (.check (.enum allowed) value) (.passed (progress.checkEnum data allowed value))
  | array (progress : Progress) (item : Spec) (value : ν) (id : Nat) (items : List ν) (outcome : Outcome)
      (seen : data.view value = .array id items)
      (inner : Threads table data progress (.items item 0 items) outcome) :
      Threads table data progress (.check (.array item) value) outcome
  | no_array (progress : Progress) (item : Spec) (value : ν) (other : data.kind value ≠ .array) :
      Threads table data progress (.check (.array item) value)
        (.passed (progress.reportMismatch "array" (data.kind value)))
  | shape_passed (progress after : Progress) (fields : List Field) (exact : Bool) (value : ν) (id : Nat)
      (entries : List (String × ν)) (seen : data.view value = .object id entries)
      (inner : Threads table data progress (.fields fields entries) ⟨after, none⟩) :
      Threads table data progress (.check (.shape fields exact) value)
        (.passed (if exact then after.reportUndeclared fields (Entries.keys entries) else after))
  | shape_failed (progress after : Progress) (fields : List Field) (exact : Bool) (value : ν) (id : Nat)
      (entries : List (String × ν)) (failure : Unresolved) (seen : data.view value = .object id entries)
      (inner : Threads table data progress (.fields fields entries) ⟨after, some failure⟩) :
      Threads table data progress (.check (.shape fields exact) value) ⟨after, some failure⟩
  | no_shape (progress : Progress) (fields : List Field) (exact : Bool) (value : ν)
      (other : data.kind value ≠ .object) :
      Threads table data progress (.check (.shape fields exact) value)
        (.passed (progress.reportMismatch "object" (data.kind value)))
  | map (progress : Progress) (values : Spec) (value : ν) (id : Nat) (entries : List (String × ν)) (outcome : Outcome)
      (seen : data.view value = .object id entries)
      (inner : Threads table data progress (.entries values entries) outcome) :
      Threads table data progress (.check (.map values) value) outcome
  | no_map (progress : Progress) (values : Spec) (value : ν) (other : data.kind value ≠ .object) :
      Threads table data progress (.check (.map values) value)
        (.passed (progress.reportMismatch "object" (data.kind value)))
  | unknown (progress : Progress) (name : String) (value : ν) (absent : table.get? name = none) :
      Threads table data progress (.check (.reference name) value) ⟨progress, some ⟨name, progress.path⟩⟩
  | null (progress : Progress) (name : String) (target : Spec) (value : ν) (found : table.get? name = some target)
      (null : data.kind value = .null) : Threads table data progress (.check (.reference name) value) (.passed progress)
  | scalar (progress : Progress) (name : String) (target : Spec) (value : ν) (found : table.get? name = some target)
      (filled : data.kind value ≠ .null) (alone : (data.view value).identity? = none) :
      Threads table data progress (.check (.reference name) value)
        (.passed (progress.report .typeMismatch ("`" ++ describeReference name progress.path.getLast? ++
          "` can't be a primitive value (" ++ data.preview value ++ ")")))
  | again (progress : Progress) (name : String) (target : Spec) (value : ν) (id : Nat)
      (found : table.get? name = some target) (seen : (data.view value).identity? = some id)
      (known : id ∈ progress.entered) :
      Threads table data progress (.check (.reference name) value) (.passed progress)
  | follow (progress : Progress) (name : String) (target : Spec) (value : ν) (id : Nat) (outcome : Outcome)
      (found : table.get? name = some target) (seen : (data.view value).identity? = some id)
      (fresh : id ∉ progress.entered)
      (inner : Threads table data (progress.follow (describeReference name progress.path.getLast?) id)
        (.check target value) outcome) :
      Threads table data progress (.check (.reference name) value) ⟨outcome.progress.leave id, outcome.failure⟩
  | items_end (progress : Progress) (item : Spec) (position : Nat) :
      Threads table data progress (.items item position []) (.passed progress)
  | item_passed (progress after : Progress) (item : Spec) (position : Nat) (value : ν) (rest : List ν)
      (outcome : Outcome)
      (first : Threads table data (progress.below (.index position)) (.check item value) ⟨after, none⟩)
      (later : Threads table data after.back (.items item (position + 1) rest) outcome) :
      Threads table data progress (.items item position (value :: rest)) outcome
  | item_failed (progress after : Progress) (item : Spec) (position : Nat) (value : ν) (rest : List ν)
      (failure : Unresolved)
      (first : Threads table data (progress.below (.index position)) (.check item value) ⟨after, some failure⟩) :
      Threads table data progress (.items item position (value :: rest)) ⟨after.back, some failure⟩
  | entries_end (progress : Progress) (values : Spec) :
      Threads table data progress (.entries values []) (.passed progress)
  | entry_passed (progress after : Progress) (values : Spec) (key : String) (value : ν) (rest : List (String × ν))
      (outcome : Outcome)
      (first : Threads table data (progress.below (.key key)) (.check values value) ⟨after, none⟩)
      (later : Threads table data after.back (.entries values rest) outcome) :
      Threads table data progress (.entries values ((key, value) :: rest)) outcome
  | entry_failed (progress after : Progress) (values : Spec) (key : String) (value : ν) (rest : List (String × ν))
      (failure : Unresolved)
      (first : Threads table data (progress.below (.key key)) (.check values value) ⟨after, some failure⟩) :
      Threads table data progress (.entries values ((key, value) :: rest)) ⟨after.back, some failure⟩
  | fields_end (progress : Progress) (entries : List (String × ν)) :
      Threads table data progress (.fields [] entries) (.passed progress)
  | field_absent (progress : Progress) (field : Field) (rest : List Field) (entries : List (String × ν))
      (outcome : Outcome) (absent : Entries.get? field.name entries = none)
      (later : Threads table data (progress.reportMissing field) (.fields rest entries) outcome) :
      Threads table data progress (.fields (field :: rest) entries) outcome
  | field_null (progress : Progress) (field : Field) (rest : List Field) (entries : List (String × ν)) (child : ν)
      (outcome : Outcome) (found : Entries.get? field.name entries = some child) (null : data.kind child = .null)
      (later : Threads table data (progress.reportNull field) (.fields rest entries) outcome) :
      Threads table data progress (.fields (field :: rest) entries) outcome
  | field_passed (progress after : Progress) (field : Field) (rest : List Field) (entries : List (String × ν))
      (child : ν) (outcome : Outcome) (found : Entries.get? field.name entries = some child)
      (filled : data.kind child ≠ .null)
      (first : Threads table data (progress.below (.key field.name)) (.check field.spec child) ⟨after, none⟩)
      (later : Threads table data after.back (.fields rest entries) outcome) :
      Threads table data progress (.fields (field :: rest) entries) outcome
  | field_failed (progress after : Progress) (field : Field) (rest : List Field) (entries : List (String × ν))
      (child : ν) (failure : Unresolved) (found : Entries.get? field.name entries = some child)
      (filled : data.kind child ≠ .null)
      (first : Threads table data (progress.below (.key field.name)) (.check field.spec child) ⟨after, some failure⟩) :
      Threads table data progress (.fields (field :: rest) entries) ⟨after.back, some failure⟩

section

variable (table : Table) (data : Instance ν) (progress : Progress)

theorem inspect_back (segment : Segment) (spec : Spec) (value : ν) :
    progress.resume (inspect table data (progress.below segment) spec value).progress =
      (inspect table data (progress.below segment) spec value).progress.back := by
  rw [inspect_absorbs table data _ _ spec value _ rfl rfl]
  exact progress.absorb_back segment _

theorem inspect_leave (description : String) (id : Nat) (spec : Spec) (value : ν) (fresh : id ∉ progress.entered) :
    progress.resume (inspect table data (progress.follow description id) spec value).progress =
      (inspect table data (progress.follow description id) spec value).progress.leave id := by
  rw [inspect_absorbs table data _ _ spec value _ rfl rfl]
  exact progress.absorb_leave description id _ fresh

theorem inspect_items_back (item : Spec) (position : Nat) (value : ν) (rest : List ν) :
    inspectItems table data progress item position (value :: rest) =
      let step := inspect table data (progress.below (.index position)) item value
      match step.failure with
      | some failure => ⟨step.progress.back, some failure⟩
      | none => inspectItems table data step.progress.back item (position + 1) rest := by
  cases failed : (inspect table data (progress.below (.index position)) item value).failure <;>
    simp only [inspectItems, failed, inspect_back]

theorem inspect_entries_back (values : Spec) (key : String) (value : ν) (rest : List (String × ν)) :
    inspectEntries table data progress values ((key, value) :: rest) =
      let step := inspect table data (progress.below (.key key)) values value
      match step.failure with
      | some failure => ⟨step.progress.back, some failure⟩
      | none => inspectEntries table data step.progress.back values rest := by
  cases failed : (inspect table data (progress.below (.key key)) values value).failure <;>
    simp only [inspectEntries, failed, inspect_back]

theorem inspect_fields_back (field : Field) (rest : List Field) (entries : List (String × ν)) (child : ν)
    (found : Entries.get? field.name entries = some child) (filled : data.kind child ≠ .null) :
    inspectFields table data progress (field :: rest) entries =
      let step := inspect table data (progress.below (.key field.name)) field.spec child
      match step.failure with
      | some failure => ⟨step.progress.back, some failure⟩
      | none => inspectFields table data step.progress.back rest entries := by
  cases failed : (inspect table data (progress.below (.key field.name)) field.spec child).failure <;>
    simp only [inspectFields, found, if_neg filled, failed, inspect_back]

theorem inspect_fields_absent (field : Field) (rest : List Field) (entries : List (String × ν))
    (absent : Entries.get? field.name entries = none) :
    inspectFields table data progress (field :: rest) entries =
      inspectFields table data (progress.reportMissing field) rest entries := by
  simp only [inspectFields, absent]

theorem inspect_fields_null (field : Field) (rest : List Field) (entries : List (String × ν)) (child : ν)
    (found : Entries.get? field.name entries = some child) (null : data.kind child = .null) :
    inspectFields table data progress (field :: rest) entries =
      inspectFields table data (progress.reportNull field) rest entries := by
  simp only [inspectFields, found, if_pos null]

theorem inspect_reference_leave (name : String) (target : Spec) (value : ν) (id : Nat)
    (found : table.get? name = some target) (seen : (data.view value).identity? = some id)
    (fresh : id ∉ progress.entered) :
    inspectReference table data progress name value =
      let description := describeReference name progress.path.getLast?
      let step := inspect table data (progress.follow description id) target value
      ⟨step.progress.leave id, step.failure⟩ := by
  rw [inspectReference, found]
  simp only
  split
  · rename_i absent
    rw [seen] at absent
    contradiction
  · rename_i other same
    obtain rfl : id = other := Option.some.inj (seen.symm.trans same)
    rw [dif_neg (by simpa using fresh), inspect_leave table data progress _ id target value fresh]

theorem inspect_no_array (item : Spec) (value : ν) (other : data.kind value ≠ .array) :
    inspect table data progress (.array item) value =
      .passed (progress.reportMismatch "array" (data.kind value)) := by
  rw [inspect]
  split
  · rename_i seen
    simp [Instance.kind, seen, Layer.kind] at other
  · rfl

theorem inspect_no_shape (fields : List Field) (exact : Bool) (value : ν) (other : data.kind value ≠ .object) :
    inspect table data progress (.shape fields exact) value =
      .passed (progress.reportMismatch "object" (data.kind value)) := by
  rw [inspect, inspectShape]
  split
  · rename_i seen
    simp [Instance.kind, seen, Layer.kind] at other
  · rfl

theorem inspect_no_map (values : Spec) (value : ν) (other : data.kind value ≠ .object) :
    inspect table data progress (.map values) value =
      .passed (progress.reportMismatch "object" (data.kind value)) := by
  rw [inspect]
  split
  · rename_i seen
    simp [Instance.kind, seen, Layer.kind] at other
  · rfl

theorem inspect_reference_alone (name : String) (target : Spec) (value : ν) (found : table.get? name = some target)
    (alone : (data.view value).identity? = none) :
    inspectReference table data progress name value =
      if data.kind value = .null then .passed progress
      else .passed (progress.report .typeMismatch ("`" ++ describeReference name progress.path.getLast? ++
        "` can't be a primitive value (" ++ data.preview value ++ ")")) := by
  rw [inspectReference, found]
  simp only
  split
  · rfl
  · rename_i seen
    rw [alone] at seen
    contradiction

theorem inspect_reference_again (name : String) (target : Spec) (value : ν) (id : Nat)
    (found : table.get? name = some target) (seen : (data.view value).identity? = some id)
    (known : id ∈ progress.entered) : inspectReference table data progress name value = .passed progress := by
  rw [inspectReference, found]
  simp only
  split
  · rename_i alone
    rw [seen] at alone
    contradiction
  · rename_i other same
    obtain rfl : id = other := Option.some.inj (seen.symm.trans same)
    rw [dif_pos (by simpa using known)]

end

theorem null_alone (data : Instance ν) (value : ν) (null : data.kind value = .null) :
    (data.view value).identity? = none := by
  cases seen : data.view value with
  | scalar content => rfl
  | array id items => simp [Instance.kind, seen, Layer.kind] at null
  | object id entries => simp [Instance.kind, seen, Layer.kind] at null

theorem threads_run (table : Table) (data : Instance ν) (progress : Progress) (task : Task ν) (outcome : Outcome)
    (threads : Threads table data progress task outcome) : task.run table data progress = outcome := by
  induction threads with
  | primitive progress kind value => rw [Task.run, inspect]
  | enum progress allowed value => rw [Task.run, inspect]
  | array progress item value id items outcome seen inner ih =>
      rw [Task.run, inspect, seen]
      exact ih
  | no_array progress item value other => exact inspect_no_array table data progress item value other
  | shape_passed progress after fields exact value id entries seen inner ih =>
      rw [Task.run] at ih
      rw [Task.run, inspect, inspectShape, seen]
      simp only [ih]
  | shape_failed progress after fields exact value id entries failure seen inner ih =>
      rw [Task.run] at ih
      rw [Task.run, inspect, inspectShape, seen]
      simp only [ih]
  | no_shape progress fields exact value other => exact inspect_no_shape table data progress fields exact value other
  | map progress values value id entries outcome seen inner ih =>
      rw [Task.run, inspect, seen]
      exact ih
  | no_map progress values value other => exact inspect_no_map table data progress values value other
  | unknown progress name value absent => rw [Task.run, inspect, inspectReference, absent]
  | null progress name target value found null =>
      rw [Task.run, inspect, inspect_reference_alone table data progress name target value found
        (null_alone data value null), if_pos null]
  | scalar progress name target value found filled alone =>
      rw [Task.run, inspect, inspect_reference_alone table data progress name target value found alone, if_neg filled]
  | again progress name target value id found seen known =>
      rw [Task.run, inspect, inspect_reference_again table data progress name target value id found seen known]
  | follow progress name target value id outcome found seen fresh inner ih =>
      rw [Task.run] at ih
      rw [Task.run, inspect, inspect_reference_leave table data progress name target value id found seen fresh]
      simp only [ih]
  | items_end progress item position => rw [Task.run, inspectItems]
  | item_passed progress after item position value rest outcome first later inner others =>
      rw [Task.run] at inner
      rw [Task.run, inspect_items_back, inner]
      exact others
  | item_failed progress after item position value rest failure first inner =>
      rw [Task.run] at inner
      rw [Task.run, inspect_items_back, inner]
  | entries_end progress values => rw [Task.run, inspectEntries]
  | entry_passed progress after values key value rest outcome first later inner others =>
      rw [Task.run] at inner
      rw [Task.run, inspect_entries_back, inner]
      exact others
  | entry_failed progress after values key value rest failure first inner =>
      rw [Task.run] at inner
      rw [Task.run, inspect_entries_back, inner]
  | fields_end progress entries => rw [Task.run, inspectFields]
  | field_absent progress field rest entries outcome absent later others =>
      rw [Task.run, inspect_fields_absent table data progress field rest entries absent]
      exact others
  | field_null progress field rest entries child outcome found null later others =>
      rw [Task.run, inspect_fields_null table data progress field rest entries child found null]
      exact others
  | field_passed progress after field rest entries child outcome found filled first later inner others =>
      rw [Task.run] at inner
      rw [Task.run, inspect_fields_back table data progress field rest entries child found filled, inner]
      exact others
  | field_failed progress after field rest entries child failure found filled first inner =>
      rw [Task.run] at inner
      rw [Task.run, inspect_fields_back table data progress field rest entries child found filled, inner]

theorem back_entered (table : Table) (data : Instance ν) (progress : Progress) (segment : Segment) (spec : Spec)
    (value : ν) :
    (inspect table data (progress.below segment) spec value).progress.back.entered = progress.entered := by
  rw [← inspect_back]
  rfl

def ThreadedBelow (table : Table) (data : Instance ν) (entered : List Nat) (segment : Segment) (spec : Spec) : Prop :=
  ∀ (progress : Progress) (value : ν), progress.entered = entered →
    Threads table data (progress.below segment) (.check spec value)
      (inspect table data (progress.below segment) spec value)

theorem items_thread (table : Table) (data : Instance ν) (entered : List Nat) (item : Spec)
    (each : ∀ position, ThreadedBelow table data entered (.index position) item) (items : List ν)
    (progress : Progress) (position : Nat) (same : progress.entered = entered) :
    Threads table data progress (.items item position items)
      (inspectItems table data progress item position items) := by
  induction items generalizing progress position with
  | nil =>
      rw [inspectItems]
      exact .items_end progress item position
  | cons value rest ih =>
      have first := each position progress value same
      have kept := (back_entered table data progress (.index position) item value).trans same
      rw [inspect_items_back]
      generalize inspect table data (progress.below (.index position)) item value = step at first kept ⊢
      rcases step with ⟨after, failure⟩
      cases failure with
      | none => exact .item_passed progress after item position value rest _ first (ih after.back _ kept)
      | some failure => exact .item_failed progress after item position value rest failure first

theorem entries_thread (table : Table) (data : Instance ν) (entered : List Nat) (values : Spec)
    (each : ∀ key, ThreadedBelow table data entered (.key key) values) (entries : List (String × ν))
    (progress : Progress) (same : progress.entered = entered) :
    Threads table data progress (.entries values entries) (inspectEntries table data progress values entries) := by
  induction entries generalizing progress with
  | nil =>
      rw [inspectEntries]
      exact .entries_end progress values
  | cons entry rest ih =>
      rcases entry with ⟨key, value⟩
      have first := each key progress value same
      have kept := (back_entered table data progress (.key key) values value).trans same
      rw [inspect_entries_back]
      generalize inspect table data (progress.below (.key key)) values value = step at first kept ⊢
      rcases step with ⟨after, failure⟩
      cases failure with
      | none => exact .entry_passed progress after values key value rest _ first (ih after.back kept)
      | some failure => exact .entry_failed progress after values key value rest failure first

theorem fields_thread (table : Table) (data : Instance ν) (entered : List Nat) (entries : List (String × ν))
    (fields : List Field) (each : ∀ field ∈ fields, ThreadedBelow table data entered (.key field.name) field.spec)
    (progress : Progress) (same : progress.entered = entered) :
    Threads table data progress (.fields fields entries) (inspectFields table data progress fields entries) := by
  induction fields generalizing progress with
  | nil =>
      rw [inspectFields]
      exact .fields_end progress entries
  | cons field rest ih =>
      have others := ih fun other listed => each other (List.mem_cons_of_mem _ listed)
      cases found : Entries.get? field.name entries with
      | none =>
          rw [inspect_fields_absent table data progress field rest entries found]
          exact .field_absent progress field rest entries _ found (others _ (by simp [same]))
      | some child =>
          by_cases null : data.kind child = .null
          · rw [inspect_fields_null table data progress field rest entries child found null]
            exact .field_null progress field rest entries child _ found null (others _ (by simp [same]))
          · have first := each field List.mem_cons_self progress child same
            have kept := (back_entered table data progress (.key field.name) field.spec child).trans same
            rw [inspect_fields_back table data progress field rest entries child found null]
            generalize inspect table data (progress.below (.key field.name)) field.spec child = step at first kept ⊢
            rcases step with ⟨after, failure⟩
            cases failure with
            | none => exact .field_passed progress after field rest entries child _ found null first (others _ kept)
            | some failure => exact .field_failed progress after field rest entries child failure found null first

theorem check_threads (table : Table) (data : Instance ν) (entered : List Nat) (last : Option Segment) (spec : Spec)
    (value : ν) (progress : Progress) (same : progress.entered = entered) :
    Threads table data progress (.check spec value) (inspect table data progress spec value) := by
  induction entered, last, spec, value using survey_induction table data generalizing progress with
  | primitive entered last kind value =>
      rw [inspect]
      exact .primitive progress kind value
  | enum entered last allowed value =>
      rw [inspect]
      exact .enum progress allowed value
  | array entered last item value ih =>
      by_cases sort : data.kind value = .array
      · obtain ⟨id, items, seen⟩ := data.view_array value sort
        rw [inspect, seen]
        refine .array progress item value id items _ seen (items_thread table data entered item ?_ items progress 0 same)
        intro position inner child kept
        exact ih position child (inner.below _) kept
      · rw [inspect_no_array table data progress item value sort]
        exact .no_array progress item value sort
  | shape entered last fields exact value ih =>
      by_cases sort : data.kind value = .object
      · obtain ⟨id, entries, seen⟩ := data.view_object value sort
        have each : ∀ field ∈ fields, ThreadedBelow table data entered (.key field.name) field.spec := by
          intro field listed inner child kept
          exact ih field listed child (inner.below _) kept
        have inner := fields_thread table data entered entries fields each progress same
        rw [inspect, inspectShape, seen]
        simp only
        generalize inspectFields table data progress fields entries = step at inner ⊢
        rcases step with ⟨after, failure⟩
        cases failure with
        | none => exact .shape_passed progress after fields exact value id entries seen inner
        | some failure => exact .shape_failed progress after fields exact value id entries failure seen inner
      · rw [inspect_no_shape table data progress fields exact value sort]
        exact .no_shape progress fields exact value sort
  | map entered last values value ih =>
      by_cases sort : data.kind value = .object
      · obtain ⟨id, entries, seen⟩ := data.view_object value sort
        rw [inspect, seen]
        refine .map progress values value id entries _ seen
          (entries_thread table data entered values ?_ entries progress same)
        intro key inner child kept
        exact ih key child (inner.below _) kept
      · rw [inspect_no_map table data progress values value sort]
        exact .no_map progress values value sort
  | reference entered last name value ih =>
      rw [inspect]
      cases found : table.get? name with
      | none =>
          rw [inspectReference, found]
          exact .unknown progress name value found
      | some target =>
          cases seen : (data.view value).identity? with
          | none =>
              rw [inspect_reference_alone table data progress name target value found seen]
              by_cases null : data.kind value = .null
              · rw [if_pos null]
                exact .null progress name target value found null
              · rw [if_neg null]
                exact .scalar progress name target value found null seen
          | some id =>
              by_cases known : id ∈ progress.entered
              · rw [inspect_reference_again table data progress name target value id found seen known]
                exact .again progress name target value id found seen known
              · rw [inspect_reference_leave table data progress name target value id found seen known]
                have inner := ih target id found seen (same ▸ known)
                  (progress.follow (describeReference name progress.path.getLast?) id) (congrArg (List.cons id) same)
                exact .follow progress name target value id _ found seen known inner

theorem threads_iff (table : Table) (data : Instance ν) (progress : Progress) (task : Task ν) (outcome : Outcome) :
    Threads table data progress task outcome ↔ task.run table data progress = outcome := by
  refine ⟨threads_run table data progress task outcome, ?_⟩
  rintro rfl
  have below : ∀ segment spec, ThreadedBelow table data progress.entered segment spec := by
    intro segment spec inner value kept
    exact check_threads table data progress.entered none spec value (inner.below segment) kept
  cases task with
  | check spec value => exact check_threads table data progress.entered none spec value progress rfl
  | items item position items => exact items_thread table data _ item (fun _ => below _ item) items progress position rfl
  | entries values entries => exact entries_thread table data _ values (fun _ => below _ values) entries progress rfl
  | fields fields entries => exact fields_thread table data _ entries fields (fun field _ => below _ field.spec) progress rfl

end ShapeCheck
