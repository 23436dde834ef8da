import ShapeCheck.Proofs.Descent
import ShapeCheck.Proofs.Findings
import ShapeCheck.Proofs.HeapData
import ShapeCheck.Spec.Compile

set_option autoImplicit false

namespace ShapeCheck

variable {ν : Type}

section

variable (table : Table) (data : Instance ν)

def FieldStep (related : Spec → ν → Prop) (entries : List (String × ν)) (field : Field) : Prop :=
  match Entries.get? field.name entries with
  | none => field.required = false
  | some child => if data.kind child = .null then field.required = false else related field.spec child

-- What a spec asks of a value at once, with its parts left to a relation.
def OneStep (related : Spec → ν → Prop) : Spec → ν → Prop
  | .primitive kind, value => kind.accepts (data.kind value) = true
  | .enum allowed, value => allowed.any (data.view value).equalsLiteral = true
  | .array item, value => ∃ id items, data.view value = .array id items ∧ ∀ child ∈ items, related item child
  | .shape fields exact, value => ∃ id entries, data.view value = .object id entries ∧
      (∀ field ∈ fields, FieldStep data related entries field) ∧
      (exact = true → ∀ key ∈ Entries.keys entries, fields.any (·.name == key) = true)
  | .map values, value => ∃ id entries, data.view value = .object id entries ∧
      ∀ entry ∈ entries, related values entry.2
  | .reference name, value => data.view value = .scalar .null ∨
      ∃ target id, table.get? name = some target ∧ (data.view value).identity? = some id ∧ related target value

def Closed (related : Spec → ν → Prop) : Prop := ∀ spec value, related spec value → OneStep table data related spec value

-- Conformance of data that may be cyclic: the largest relation closed under one step.
def Conforms (spec : Spec) (value : ν) : Prop := ∃ related, related spec value ∧ Closed table data related

inductive Asks : Spec → ν → Spec → ν → Prop where
  | item (item : Spec) (value : ν) (id : Nat) (items : List ν) (child : ν) (seen : data.view value = .array id items)
      (listed : child ∈ items) : Asks (.array item) value item child
  | entry (values : Spec) (value : ν) (id : Nat) (entries : List (String × ν)) (entry : String × ν)
      (seen : data.view value = .object id entries) (listed : entry ∈ entries) : Asks (.map values) value values entry.2
  | field (fields : List Field) (exact : Bool) (value : ν) (id : Nat) (entries : List (String × ν)) (field : Field)
      (child : ν) (seen : data.view value = .object id entries) (listed : field ∈ fields)
      (found : Entries.get? field.name entries = some child) (filled : data.kind child ≠ .null) :
      Asks (.shape fields exact) value field.spec child

theorem step_asks (related : Spec → ν → Prop) (spec part : Spec) (value child : ν)
    (step : OneStep table data related spec value) (asks : Asks data spec value part child) : related part child := by
  cases asks with
  | item item _ id items _ seen listed =>
      obtain ⟨other, others, again, each⟩ := step
      rw [seen] at again
      cases again
      exact each child listed
  | entry values _ id entries entry seen listed =>
      obtain ⟨other, others, again, each⟩ := step
      rw [seen] at again
      cases again
      exact each entry listed
  | field fields exact _ id entries field _ seen listed found filled =>
      obtain ⟨other, others, again, each, _⟩ := step
      rw [seen] at again
      cases again
      have holds := each field listed
      rw [FieldStep, found] at holds
      simpa only [if_neg filled] using holds

theorem step_transfer (related other : Spec → ν → Prop) (spec : Spec) (value : ν)
    (step : OneStep table data related spec value) (inner : spec.isReference = false)
    (each : ∀ part child, Asks data spec value part child → other part child) :
    OneStep table data other spec value := by
  cases spec with
  | primitive kind => exact step
  | enum allowed => exact step
  | array item =>
      obtain ⟨id, items, seen, _⟩ := step
      refine ⟨id, items, seen, fun child listed => ?_⟩
      have asks : Asks data (.array item) value item child := .item item value id items child seen listed
      exact each item child asks
  | shape fields exact =>
      obtain ⟨id, entries, seen, holds, closed⟩ := step
      refine ⟨id, entries, seen, fun field listed => ?_, closed⟩
      have held := holds field listed
      rw [FieldStep] at held ⊢
      cases found : Entries.get? field.name entries with
      | none =>
          rw [found] at held
          exact held
      | some child =>
          rw [found] at held
          by_cases null : data.kind child = .null
          · simpa only [if_pos null] using held
          · have asks : Asks data (.shape fields exact) value field.spec child :=
              .field fields exact value id entries field child seen listed found null
            simp only [if_neg null]
            exact each field.spec child asks
  | map values =>
      obtain ⟨id, entries, seen, _⟩ := step
      refine ⟨id, entries, seen, fun entry listed => ?_⟩
      have asks : Asks data (.map values) value values entry.2 := .entry values value id entries entry seen listed
      exact each values entry.2 asks
  | reference name => contradiction

theorem conforms_step (spec : Spec) (value : ν) (conforms : Conforms table data spec value) :
    OneStep table data (Conforms table data) spec value := by
  obtain ⟨related, holds, closed⟩ := conforms
  have step := closed spec value holds
  cases reference : spec.isReference with
  | false =>
      apply step_transfer table data related _ spec value step reference
      intro part child asks
      have inner := step_asks table data related spec part value child step asks
      exact ⟨related, inner, closed⟩
  | true =>
      cases spec with
      | reference name =>
          rcases step with null | ⟨target, id, found, seen, inner⟩
          · exact .inl null
          · exact .inr ⟨target, id, found, seen, related, inner, closed⟩
      | primitive kind => contradiction
      | enum allowed => contradiction
      | array item => contradiction
      | shape fields exact => contradiction
      | map values => contradiction

theorem conforms_reference (name : String) (target : Spec) (value : ν) (id : Nat) (found : table.get? name = some target)
    (seen : (data.view value).identity? = some id) (conforms : Conforms table data (.reference name) value) :
    Conforms table data target value := by
  rcases conforms_step table data _ value conforms with null | ⟨other, _, again, _, inner⟩
  · rw [null] at seen
    contradiction
  · rw [found, Option.some.injEq] at again
    exact again ▸ inner

def Quiet (entered : List Nat) (spec : Spec) (value : ν) : Prop :=
  ∃ last, survey table data entered last spec value = .nothing

theorem quiet_field (entered : List Nat) (entries : List (String × ν)) (field : Field)
    (quiet : surveyField table data entered entries field = .nothing) :
    FieldStep data (Quiet table data entered) entries field := by
  rw [FieldStep]
  cases found : Entries.get? field.name entries with
  | none =>
      rw [survey_field_absent _ _ _ _ _ found, Survey.leaf_missing] at quiet
      cases required : field.required with
      | false => rfl
      | true => simp [required] at quiet
  | some child =>
      by_cases null : data.kind child = .null
      · rw [survey_field_null _ _ _ _ _ child found null, Survey.leaf_null] at quiet
        simp only [if_pos null]
        cases required : field.required with
        | false => rfl
        | true => simp [required] at quiet
      · rw [survey_field_filled _ _ _ _ _ child found null, Survey.below_eq_nothing] at quiet
        simp only [if_neg null]
        exact ⟨_, quiet⟩

theorem quiet_array (entered : List Nat) (item : Spec) (value : ν) (quiet : Quiet table data entered (.array item) value) :
    OneStep table data (Quiet table data entered) (.array item) value := by
  obtain ⟨last, none⟩ := quiet
  by_cases sort : data.kind value = .array
  · obtain ⟨id, items, seen⟩ := data.view_array value sort
    rw [survey_array _ _ _ _ _ item id items seen, Survey.all_nothing] at none
    refine ⟨id, items, seen, fun child listed => ?_⟩
    obtain ⟨position, inside, same⟩ := List.getElem_of_mem listed
    have indexed : (items[position], position) ∈ items.zipIdx :=
      List.mk_mem_zipIdx_iff_getElem?.mpr (List.getElem?_eq_getElem inside)
    have part := none _ (List.mem_map_of_mem indexed)
    rw [Survey.below_eq_nothing] at part
    exact ⟨_, same ▸ part⟩
  · rw [survey_array_mismatch _ _ _ _ _ item sort, Survey.leaf_mismatch] at none
    exact absurd none (Survey.single_filled _ _)

theorem quiet_shape (entered : List Nat) (fields : List Field) (exact : Bool) (value : ν)
    (quiet : Quiet table data entered (.shape fields exact) value) :
    OneStep table data (Quiet table data entered) (.shape fields exact) value := by
  obtain ⟨last, none⟩ := quiet
  by_cases sort : data.kind value = .object
  · obtain ⟨id, entries, seen⟩ := data.view_object value sort
    rw [survey_shape _ _ _ _ _ fields exact id entries seen, Survey.and_then_nothing, Survey.all_nothing] at none
    obtain ⟨declared, undeclared⟩ := none
    refine ⟨id, entries, seen, fun field listed => ?_, fun exactly key listed => ?_⟩
    · have part := declared _ (List.mem_map_of_mem listed)
      exact quiet_field table data entered entries field part
    · rw [exactly, if_pos rfl, Survey.leaf_undeclared] at undeclared
      simp only [Survey.nothing, Survey.mk.injEq, List.map_eq_nil_iff, and_true, Survey.undeclared,
        List.filter_eq_nil_iff] at undeclared
      simpa using undeclared key listed
  · rw [survey_shape_mismatch _ _ _ _ _ fields exact sort, Survey.leaf_mismatch] at none
    exact absurd none (Survey.single_filled _ _)

theorem quiet_map (entered : List Nat) (values : Spec) (value : ν) (quiet : Quiet table data entered (.map values) value) :
    OneStep table data (Quiet table data entered) (.map values) value := by
  obtain ⟨last, none⟩ := quiet
  by_cases sort : data.kind value = .object
  · obtain ⟨id, entries, seen⟩ := data.view_object value sort
    rw [survey_map _ _ _ _ _ values id entries seen, Survey.all_nothing] at none
    refine ⟨id, entries, seen, fun entry listed => ?_⟩
    have part := none _ (List.mem_map_of_mem listed)
    rw [Survey.below_eq_nothing] at part
    exact ⟨_, part⟩
  · rw [survey_map_mismatch _ _ _ _ _ values sort, Survey.leaf_mismatch] at none
    exact absurd none (Survey.single_filled _ _)

theorem quiet_step (entered : List Nat) (spec : Spec) (value : ν) (inner : spec.isReference = false)
    (quiet : Quiet table data entered spec value) : OneStep table data (Quiet table data entered) spec value := by
  cases spec with
  | primitive kind =>
      obtain ⟨last, none⟩ := quiet
      rw [survey, Survey.leaf_primitive] at none
      by_cases accepted : kind.accepts (data.kind value) = true
      · exact accepted
      · rw [if_neg accepted] at none
        exact absurd none (Survey.single_filled _ _)
  | enum allowed =>
      obtain ⟨last, none⟩ := quiet
      rw [survey, Survey.leaf_enum] at none
      by_cases allows : allowed.any (data.view value).equalsLiteral = true
      · exact allows
      · rw [if_neg allows] at none
        exact absurd none (Survey.single_filled _ _)
  | array item => exact quiet_array table data entered item value quiet
  | shape fields exact => exact quiet_shape table data entered fields exact value quiet
  | map values => exact quiet_map table data entered values value quiet
  | reference name => contradiction

theorem quiet_reference (entered : List Nat) (name : String) (value : ν)
    (quiet : Quiet table data entered (.reference name) value) :
    data.view value = .scalar .null ∨ ∃ target id, table.get? name = some target ∧
      (data.view value).identity? = some id ∧ (id ∈ entered ∨ Quiet table data (id :: entered) target value) := by
  obtain ⟨last, none⟩ := quiet
  cases found : table.get? name with
  | none =>
      rw [survey_reference_unknown table data _ _ name value found] at none
      exact absurd none (Survey.unresolved_filled name)
  | some target =>
      rcases data.view_cases value with ⟨content, seen⟩ | ⟨id, seen⟩
      · by_cases null : content = .null
        · exact .inl (null ▸ seen)
        · rw [survey_reference_scalar table data _ _ name target value content found seen null] at none
          exact absurd none (Survey.single_filled _ _)
      · refine .inr ⟨target, id, rfl, seen, ?_⟩
        by_cases known : id ∈ entered
        · exact .inl known
        · rw [survey_reference_fresh table data _ _ name target value id found seen known,
            Survey.through_eq_nothing] at none
          exact .inr ⟨last, none⟩

-- Containers that are being checked, the innermost first, each with the spec it is checked
-- against. A check knows the containers alone.
abbrev Stack := List (Nat × Spec)

def startStack (spec : Spec) (root : ν) : Stack :=
  if spec.isReference then [] else (data.ownIdentity root).map fun id => (id, spec)

theorem start_stack_marks (spec : Spec) (root : ν) :
    (startStack data spec root).map Prod.fst = if spec.isReference then [] else data.ownIdentity root := by
  rw [startStack]
  cases spec.isReference with
  | true => rfl
  | false =>
      rw [if_neg Bool.false_ne_true, if_neg Bool.false_ne_true, List.map_map]
      exact List.map_id _

-- The places a check of the root comes to. A reference into a container that is already
-- being checked is not followed, whatever it is being checked against.
inductive Walk (spec : Spec) (root : ν) : Stack → Spec → ν → Prop where
  | start : Walk spec root (startStack data spec root) spec root
  | part (stack : Stack) (whole part : Spec) (value child : ν) (here : Walk spec root stack whole value)
      (asks : Asks data whole value part child) : Walk spec root stack part child
  | follow (stack : Stack) (name : String) (target : Spec) (value : ν) (id : Nat)
      (here : Walk spec root stack (.reference name) value) (found : table.get? name = some target)
      (seen : (data.view value).identity? = some id) (fresh : id ∉ stack.map Prod.fst) :
      Walk spec root ((id, target) :: stack) target value

def Skipped (spec : Spec) (root : ν) (target : Spec) (container : ν) : Prop :=
  ∃ stack name id, Walk table data spec root stack (.reference name) container ∧ table.get? name = some target ∧
    (data.view container).identity? = some id ∧ id ∈ stack.map Prod.fst ∧ (id, target) ∉ stack

theorem walk_quiet (spec : Spec) (root : ν)
    (quiet : Quiet table data ((startStack data spec root).map Prod.fst) spec root) (stack : Stack) (part : Spec)
    (value : ν) (walk : Walk table data spec root stack part value) :
    Quiet table data (stack.map Prod.fst) part value := by
  induction walk with
  | start => exact quiet
  | part stack whole part value child here asks ih =>
      have inner : whole.isReference = false := by cases asks <;> rfl
      have step := quiet_step table data _ whole value inner ih
      exact step_asks table data _ whole part value child step asks
  | follow stack name target value id here found seen fresh ih =>
      rcases quiet_reference table data _ name value ih with null | ⟨other, again, foundToo, seenToo, inside⟩
      · rw [null] at seen
        contradiction
      · rw [found, Option.some.injEq] at foundToo
        rw [seen, Option.some.injEq] at seenToo
        subst foundToo seenToo
        exact inside.resolve_left fresh

theorem walk_stack (spec : Spec) (root : ν) (stack : Stack) (part : Spec) (value : ν)
    (walk : Walk table data spec root stack part value) :
    ∀ mark ∈ stack, ∃ below holder, Walk table data spec root below mark.2 holder ∧
      (data.view holder).identity? = some mark.1 := by
  induction walk with
  | start =>
      intro mark listed
      rw [startStack] at listed
      cases reference : spec.isReference with
      | true => simp [reference] at listed
      | false =>
          rw [reference, if_neg Bool.false_ne_true, List.mem_map] at listed
          obtain ⟨id, own, same⟩ := listed
          rw [Instance.ownIdentity, Option.mem_toList] at own
          subst same
          exact ⟨_, root, .start, own⟩
  | part stack whole part value child here asks ih => exact ih
  | follow stack name target value id here found seen fresh ih =>
      intro mark listed
      rcases List.mem_cons.mp listed with same | before
      · subst same
        exact ⟨_, value, .follow stack name target value id here found seen fresh, seen⟩
      · exact ih mark before

theorem walk_conforms (spec : Spec) (root : ν) (conforms : Conforms table data spec root) (stack : Stack) (part : Spec)
    (value : ν) (walk : Walk table data spec root stack part value) : Conforms table data part value := by
  induction walk with
  | start => exact conforms
  | part stack whole part value child here asks ih =>
      have step := conforms_step table data whole value ih
      exact step_asks table data _ whole part value child step asks
  | follow stack name target value id here found seen fresh ih =>
      exact conforms_reference table data name target value id found seen ih

-- The places of a check that finds nothing are closed under one step, once what was passed
-- over conforms.
theorem walk_closed (single : ∀ value other id, (data.view value).identity? = some id →
      (data.view other).identity? = some id → value = other)
    (spec : Spec) (root : ν) (quiet : Quiet table data ((startStack data spec root).map Prod.fst) spec root)
    (covered : ∀ target container, Skipped table data spec root target container → Conforms table data target container) :
    Closed table data fun part value =>
      (∃ stack, Walk table data spec root stack part value) ∨ Conforms table data part value := by
  intro part value holds
  rcases holds with ⟨stack, walk⟩ | conforms
  · have here := walk_quiet table data spec root quiet stack part value walk
    cases part with
    | reference name =>
        rcases quiet_reference table data _ name value here with null | ⟨target, id, found, seen, inside⟩
        · exact .inl null
        · refine .inr ⟨target, id, found, seen, ?_⟩
          by_cases fresh : id ∈ stack.map Prod.fst
          · by_cases same : (id, target) ∈ stack
            · obtain ⟨below, holder, before, holding⟩ := walk_stack table data spec root stack _ value walk _ same
              have met : value = holder := single value holder id seen holding
              exact .inl ⟨below, met ▸ before⟩
            · have skipped : Skipped table data spec root target value :=
                ⟨stack, name, id, walk, found, seen, fresh, same⟩
              exact .inr (covered target value skipped)
          · exact .inl ⟨_, .follow stack name target value id walk found seen fresh⟩
    | _ =>
        have step := quiet_step table data _ _ value rfl here
        apply step_transfer table data _ _ _ value step rfl
        intro inner child asks
        exact .inl ⟨stack, .part stack _ inner value child walk asks⟩
  · cases part with
    | reference name =>
        rcases conforms_step table data _ value conforms with null | ⟨target, id, found, seen, inner⟩
        · exact .inl null
        · exact .inr ⟨target, id, found, seen, .inr inner⟩
    | _ =>
        have step := conforms_step table data _ value conforms
        apply step_transfer table data _ _ _ value step rfl
        intro inner child asks
        exact .inr (step_asks table data _ _ inner value child step asks)

end

-- A definition whose check reports nothing is conformed to just when the data also conforms
-- wherever the check passed over a reference because it was inside the container already,
-- though under other definitions only.
theorem empty_report_conforms_iff (table : Table) (heap : Heap) (name : String) (spec : Spec) (root : Datum)
    (entry : table.get? name = some spec) (clean : table.checkEntry heap.data name root = .ok []) :
    Conforms table heap.data spec root ↔
      ∀ target container, Skipped table heap.data spec root target container →
        Conforms table heap.data target container := by
  constructor
  · intro conforms target container skipped
    obtain ⟨stack, link, id, walk, found, seen, _⟩ := skipped
    have linked := walk_conforms table heap.data spec root conforms stack _ container walk
    exact conforms_reference table heap.data link target container id found seen linked
  · intro covered
    have quiet : Quiet table heap.data ((startStack heap.data spec root).map Prod.fst) spec root := by
      rw [table.check_entry_survey _ name spec root entry, Table.check_survey, Survey.violations_passed] at clean
      exact ⟨none, start_stack_marks heap.data spec root ▸ clean⟩
    have closed := walk_closed table heap.data heap.identity_single spec root quiet covered
    exact ⟨_, .inl ⟨_, .start⟩, closed⟩

def partDefinitions : Definitions :=
  ⟨[("whole", ⟨some "object", none, none,
      some [("part", ⟨none, some "#/definitions/part", none, none, [], none, none⟩)], [], none, none⟩),
    ("part", ⟨some "object", none, none, some [("size", ⟨some "string", none, none, none, [], none, none⟩)],
      ["size"], none, none⟩)]⟩

def wholeSpec : Spec := .shape [⟨"part", .reference "part", false⟩] false

def partTable : Table :=
  ⟨[("whole", some wholeSpec), ("part", some (.shape [⟨"size", .primitive .string, true⟩] false))]⟩

def ownPart : Heap := ⟨[.object [("part", .container 0)]]⟩

theorem own_part_clean : partTable.checkEntry ownPart.data "whole" (.container 0) = .ok [] := by
  have again : survey partTable ownPart.data [0] (some (.key "part")) (.reference "part") (.container 0) = .nothing :=
    survey_reference_again _ _ _ _ _ _ _ 0 rfl rfl List.mem_cons_self
  have field : surveyField partTable ownPart.data [0] [("part", .container 0)] ⟨"part", .reference "part", false⟩ =
      .nothing := by
    rw [survey_field_filled _ _ _ _ _ (.container 0) rfl (by decide), again]
    rfl
  have whole : survey partTable ownPart.data [0] none wholeSpec (.container 0) = .nothing := by
    rw [wholeSpec, survey_shape _ _ _ _ _ _ _ 0 _ rfl, List.map_cons, field]
    rfl
  rw [Table.check_entry_survey _ _ "whole" wholeSpec _ rfl, Table.check_survey]
  exact congrArg Survey.violations whole

theorem own_part_wrong : ¬ Conforms partTable ownPart.data wholeSpec (.container 0) := by
  intro conforms
  obtain ⟨_, _, seen, fields, _⟩ := conforms_step partTable ownPart.data wholeSpec _ conforms
  cases seen
  have link : Conforms partTable ownPart.data (.reference "part") (.container 0) := fields _ List.mem_cons_self
  have part := conforms_reference partTable ownPart.data "part" _ _ 0 rfl rfl link
  obtain ⟨_, _, seen, sizes, _⟩ := conforms_step partTable ownPart.data _ _ part
  cases seen
  exact absurd (sizes _ List.mem_cons_self) (by decide : ¬ true = false)

theorem own_part_skipped :
    partTable.get? "whole" = some wholeSpec ∧
      partTable.checkEntry ownPart.data "whole" (.container 0) = .ok [] ∧
      ∃ target container, Skipped partTable ownPart.data wholeSpec (.container 0) target container ∧
        ¬ Conforms partTable ownPart.data target container := by
  have exactly := empty_report_conforms_iff partTable ownPart "whole" wholeSpec (.container 0) rfl own_part_clean
  refine ⟨rfl, own_part_clean, ?_⟩
  by_contra covered
  apply own_part_wrong
  apply exactly.mpr
  intro target container skipped
  by_contra wrong
  exact covered ⟨target, container, skipped, wrong⟩

theorem empty_report_not_sound :
    partDefinitions.compile = .ok partTable ∧ partTable.dangling = [] ∧
      ownPart.data.DistinctKeys (.container 0) ∧ partTable.get? "whole" = some wholeSpec ∧
      partTable.checkEntry ownPart.data "whole" (.container 0) = .ok [] ∧
      ¬ Conforms partTable ownPart.data wholeSpec (.container 0) := by
  refine ⟨rfl, by decide, ?_, rfl, own_part_clean, own_part_wrong⟩
  refine ownPart.distinct_of_cells (.container 0) fun entries listed => ?_
  cases List.mem_singleton.mp listed
  decide

end ShapeCheck
