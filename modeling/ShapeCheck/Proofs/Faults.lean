import ShapeCheck.Proofs.Descent
import ShapeCheck.Proofs.Resolution
import ShapeCheck.Proofs.TreeData

set_option autoImplicit false

namespace ShapeCheck

-- No entry does nothing but point to another one.
def Table.Direct (table : Table) : Prop := ∀ name spec, table.get? name = some spec → spec.isReference = false

abbrev Fault := ViolationKind × Path

def Fault.below (segment : Segment) (fault : Fault) : Fault := (fault.1, segment :: fault.2)

def Violation.fault (violation : Violation) : Fault := (violation.kind, violation.path)

-- All that is wrong with a tree, by recursion on it. Nothing is marked and nothing is
-- skipped: a reference goes on with its target, which looks into the tree at once.
def faults (table : Table) (direct : table.Direct) (spec : Spec) (value : Json) : List Fault :=
  match spec, value with
  | .primitive kind, value => if kind.accepts value.kind then [] else [(.typeMismatch, [])]
  | .enum allowed, value => if allowed.any value.equalsLiteral then [] else [(.enumMismatch, [])]
  | .array item, .array items =>
      (items.map fun value => faults table direct item value).zipIdx.flatMap fun part =>
        part.1.map (Fault.below (.index part.2))
  | .array _, _ => [(.typeMismatch, [])]
  | .map values, .object members =>
      members.flatMap fun member => (faults table direct values member.2).map (Fault.below (.key member.1))
  | .map _, _ => [(.typeMismatch, [])]
  | .shape fields exact, .object members =>
      (fields.flatMap fun field =>
        match _found : Entries.get? field.name members with
        | some child =>
            if child.kind = .null then
              if field.required then [(.missingRequired, [.key field.name])] else []
            else (faults table direct field.spec child).map (Fault.below (.key field.name))
        | none => if field.required then [(.missingRequired, [.key field.name])] else []) ++
      if exact then
        ((Entries.keys members).filter fun key => ! fields.any (·.name == key)).map fun key =>
          (.unexpectedProperty, [.key key])
      else []
  | .shape _ _, _ => [(.typeMismatch, [])]
  | .reference _, .scalar .null => []
  | .reference _, .scalar _ => [(.typeMismatch, [])]
  | .reference name, container =>
      match _entry : table.get? name with
      | some target => faults table direct target container
      | none => []
termination_by (value.size, if spec.isReference then 1 else 0)
decreasing_by
  · exact Prod.Lex.left _ _ (Json.size_item items value ‹_›)
  · exact Prod.Lex.left _ _ (Json.size_member members member ‹_›)
  · exact Prod.Lex.left _ _ (Json.size_found members field.name child _found)
  · refine Prod.Lex.right _ ?_
    rw [direct name target _entry]
    exact Nat.zero_lt_one

section

variable (table : Table) (direct : table.Direct)

def fieldFaults (members : List (String × Json)) (field : Field) : List Fault :=
  match Entries.get? field.name members with
  | some child =>
      if child.kind = .null then if field.required then [(.missingRequired, [.key field.name])] else []
      else (faults table direct field.spec child).map (Fault.below (.key field.name))
  | none => if field.required then [(.missingRequired, [.key field.name])] else []

theorem faults_shape (fields : List Field) (exact : Bool) (members : List (String × Json)) :
    faults table direct (.shape fields exact) (.object members) =
      fields.flatMap (fieldFaults table direct members) ++
        if exact then
          ((Entries.keys members).filter fun key => ! fields.any (·.name == key)).map fun key =>
            (.unexpectedProperty, [.key key])
        else [] := by
  have each : ∀ field, fieldFaults table direct members field =
      match _found : Entries.get? field.name members with
      | some child =>
          if child.kind = .null then if field.required then [(.missingRequired, [.key field.name])] else []
          else (faults table direct field.spec child).map (Fault.below (.key field.name))
      | none => if field.required then [(.missingRequired, [.key field.name])] else [] := by
    intro field
    rw [fieldFaults]
    symm
    split <;> rename_i found <;> simp only [found]
  rw [faults, funext each]

theorem faults_array_mismatch (item : Spec) (value : Json) (apart : value.kind ≠ .array) :
    faults table direct (.array item) value = [(.typeMismatch, [])] := by
  cases value with
  | scalar content => rw [faults]; exact nofun
  | array items => exact absurd rfl apart
  | object members => rw [faults]; exact nofun

theorem faults_shape_mismatch (fields : List Field) (exact : Bool) (value : Json) (apart : value.kind ≠ .object) :
    faults table direct (.shape fields exact) value = [(.typeMismatch, [])] := by
  cases value with
  | scalar content => rw [faults]; nofun
  | array items => rw [faults]; nofun
  | object members => contradiction

theorem faults_map_mismatch (values : Spec) (value : Json) (apart : value.kind ≠ .object) :
    faults table direct (.map values) value = [(.typeMismatch, [])] := by
  cases value with
  | scalar content => rw [faults]; exact nofun
  | array items => rw [faults]; exact nofun
  | object members => exact absurd rfl apart

theorem faults_reference (name : String) (target : Spec) (value : Json) (found : table.get? name = some target)
    (container : value.kind.isContainer = true) :
    faults table direct (.reference name) value = faults table direct target value := by
  have entered : ∀ content, value ≠ .scalar content := by
    intro content same
    simp [same] at container
  rw [faults]
  · split
    · rename_i other entry
      rw [found, Option.some.injEq] at entry
      rw [entry]
    · rename_i absent
      rw [found] at absent
      contradiction
  · exact entered _
  · exact entered

end

namespace Survey

def Finds (survey : Survey) (expected : List Fault) : Prop :=
  survey.failure = none → survey.found.map Violation.fault = expected

theorem finds_nothing : nothing.Finds [] := fun _ => rfl

theorem finds_single (kind : ViolationKind) (message : String) : (single kind message).Finds [(kind, [])] := fun _ => rfl

theorem finds_below (segment : Segment) (part : Survey) (expected : List Fault) (finds : part.Finds expected) :
    (part.below segment).Finds (expected.map (Fault.below segment)) := by
  intro passed
  rw [below, Option.map_eq_none_iff] at passed
  rw [← finds passed, below, List.map_map, List.map_map]
  rfl

theorem finds_through (description : String) (part : Survey) (expected : List Fault) (finds : part.Finds expected) :
    (part.through description).Finds expected := by
  intro passed
  rw [← finds passed, through, List.map_map]
  rfl

theorem finds_and_then (first second : Survey) (expected more : List Fault) (finds : first.Finds expected)
    (others : second.Finds more) : (first.andThen second).Finds (expected ++ more) := by
  intro passed
  cases failed : first.failure with
  | some failure =>
      rw [and_then_failed first second failure failed, failed] at passed
      contradiction
  | none =>
      rw [and_then_passed first second failed] at passed ⊢
      rw [List.map_append, finds failed, others passed]

theorem finds_all (parts : List Survey) (expected : List (List Fault)) (each : List.Forall₂ Finds parts expected) :
    (all parts).Finds expected.flatten := by
  induction each with
  | nil => exact finds_nothing
  | cons first rest ih => exact finds_and_then _ _ _ _ first ih

theorem finds_missing (field : Field) :
    (leaf (·.reportMissing field)).Finds (if field.required then [(.missingRequired, [.key field.name])] else []) := by
  rw [leaf_missing]
  cases field.required with
  | true => exact finds_below _ _ _ (finds_single _ _)
  | false => exact finds_nothing

theorem finds_null (field : Field) :
    (leaf (·.reportNull field)).Finds (if field.required then [(.missingRequired, [.key field.name])] else []) := by
  rw [leaf_null]
  cases field.required with
  | true => exact finds_below _ _ _ (finds_single _ _)
  | false => exact finds_nothing

theorem finds_undeclared (fields : List Field) (keys : List String) :
    (leaf (·.reportUndeclared fields keys)).Finds
      ((keys.filter fun key => ! fields.any (·.name == key)).map fun key => (.unexpectedProperty, [.key key])) := by
  intro _
  rw [leaf_undeclared, List.map_map]
  rfl

end Survey

section

variable {ν : Type} (table : Table) (direct : table.Direct) (data : Instance ν)

theorem field_finds (entered : List Nat) (entries : List (String × ν)) (members : List (String × Json)) (field : Field)
    (paired : List.Forall₂ (fun entry member => entry.1 = member.1 ∧ data.Unfolds entry.2 member.2) entries members)
    (each : ∀ child tree, Entries.get? field.name entries = some child → data.Unfolds child tree →
      (survey table data entered (some (.key field.name)) field.spec child).Finds (faults table direct field.spec tree)) :
    (surveyField table data entered entries field).Finds (fieldFaults table direct members field) := by
  rw [fieldFaults]
  cases placed : Entries.get? field.name members with
  | none =>
      have absent := get_paired_none data.Unfolds field.name entries members paired placed
      rw [survey_field_absent _ _ _ _ _ absent]
      exact Survey.finds_missing field
  | some tree =>
      obtain ⟨child, found, unfolds⟩ := get_paired_some data.Unfolds field.name entries members paired tree placed
      have sort := data.unfolds_kind child tree unfolds
      by_cases null : tree.kind = .null
      · rw [survey_field_null _ _ _ _ _ child found (sort.trans null)]
        simp only [if_pos null]
        exact Survey.finds_null field
      · rw [survey_field_filled _ _ _ _ _ child found (sort ▸ null)]
        simp only [if_neg null]
        exact Survey.finds_below _ _ _ (each child tree found unfolds)

section

variable (entered : List Nat) (last : Option Segment) (value : ν) (tree : Json) (ready : data.Ready entered value tree)
include ready

theorem primitive_finds (kind : PrimitiveKind) :
    (survey table data entered last (.primitive kind) value).Finds (faults table direct (.primitive kind) tree) := by
  have sort := data.unfolds_kind value tree ready.unfolds
  rw [survey, faults, Survey.leaf_primitive, sort]
  split
  · exact Survey.finds_nothing
  · apply Survey.finds_single

theorem enum_finds (allowed : List Json) :
    (survey table data entered last (.enum allowed) value).Finds (faults table direct (.enum allowed) tree) := by
  have literal := data.unfolds_literal value tree ready.unfolds
  rw [survey, faults, Survey.leaf_enum, literal]
  split
  · exact Survey.finds_nothing
  · apply Survey.finds_single

theorem array_mismatch_finds (item : Spec) (apart : tree.kind ≠ .array) :
    (survey table data entered last (.array item) value).Finds (faults table direct (.array item) tree) := by
  have sort := data.unfolds_kind value tree ready.unfolds
  have differs : data.kind value ≠ .array := sort ▸ apart
  rw [survey_array_mismatch _ _ _ _ _ item differs, faults_array_mismatch _ _ item _ apart]
  apply Survey.finds_single

theorem shape_mismatch_finds (fields : List Field) (exact : Bool) (apart : tree.kind ≠ .object) :
    (survey table data entered last (.shape fields exact) value).Finds
      (faults table direct (.shape fields exact) tree) := by
  have sort := data.unfolds_kind value tree ready.unfolds
  have differs : data.kind value ≠ .object := sort ▸ apart
  rw [survey_shape_mismatch _ _ _ _ _ fields exact differs, faults_shape_mismatch _ _ fields exact _ apart]
  apply Survey.finds_single

theorem map_mismatch_finds (values : Spec) (apart : tree.kind ≠ .object) :
    (survey table data entered last (.map values) value).Finds (faults table direct (.map values) tree) := by
  have sort := data.unfolds_kind value tree ready.unfolds
  have differs : data.kind value ≠ .object := sort ▸ apart
  rw [survey_map_mismatch _ _ _ _ _ values differs, faults_map_mismatch _ _ values _ apart]
  apply Survey.finds_single

theorem array_finds (item : Spec) (trees : List Json) (same : tree = .array trees)
    (each : ∀ position child inner, data.Ready entered child inner → ¬ data.Marked entered child →
      (survey table data entered (some (.index position)) item child).Finds (faults table direct item inner)) :
    (survey table data entered last (.array item) value).Finds (faults table direct (.array item) tree) := by
  subst same
  obtain ⟨id, items, seen, paired⟩ := data.unfolds_array value trees ready.unfolds
  obtain ⟨sized, unfolds⟩ := List.forall₂_iff_get.mp paired
  rw [survey_array _ _ _ _ _ item id items seen, faults, List.flatMap_def]
  apply Survey.finds_all
  refine List.forall₂_iff_get.mpr ⟨by simp [sized], fun position inside placed => ?_⟩
  simp only [List.length_map, List.length_zipIdx] at inside placed
  simp only [List.get_eq_getElem, List.getElem_map, List.getElem_zipIdx, Nat.zero_add]
  have held := data.holds_item value id items _ seen (List.getElem_mem inside)
  have unfolded := unfolds position inside placed
  apply Survey.finds_below
  apply each
  · exact data.ready_child entered value _ _ _ ready held unfolded
  · exact data.ready_fresh entered value _ _ ready held

theorem shape_finds (fields : List Field) (exact : Bool) (members : List (String × Json)) (same : tree = .object members)
    (each : ∀ field ∈ fields, ∀ child inner, data.Ready entered child inner → ¬ data.Marked entered child →
      (survey table data entered (some (.key field.name)) field.spec child).Finds
        (faults table direct field.spec inner)) :
    (survey table data entered last (.shape fields exact) value).Finds
      (faults table direct (.shape fields exact) tree) := by
  subst same
  obtain ⟨id, entries, seen, keys, unfolds⟩ := data.unfolds_object value members ready.unfolds
  have paired := entries_paired data.Unfolds entries members keys unfolds
  rw [survey_shape _ _ _ _ _ fields exact id entries seen, faults_shape, List.flatMap_def, keys]
  apply Survey.finds_and_then
  · apply Survey.finds_all
    refine List.forall₂_map_left_iff.mpr (List.forall₂_map_right_iff.mpr ?_)
    refine List.forall₂_same.mpr fun field listed => ?_
    refine field_finds table direct data entered entries members field paired ?_
    intro child inner found unfolded
    have held := data.holds_entry value id entries _ seen (Entries.get_mem _ _ _ found)
    have childReady := data.ready_child entered value child _ inner ready held unfolded
    have childFresh := data.ready_fresh entered value child _ ready held
    exact each field listed child inner childReady childFresh
  · cases exact with
    | true => exact Survey.finds_undeclared fields _
    | false => exact Survey.finds_nothing

theorem map_finds (values : Spec) (members : List (String × Json)) (same : tree = .object members)
    (each : ∀ key child inner, data.Ready entered child inner → ¬ data.Marked entered child →
      (survey table data entered (some (.key key)) values child).Finds (faults table direct values inner)) :
    (survey table data entered last (.map values) value).Finds (faults table direct (.map values) tree) := by
  subst same
  obtain ⟨id, entries, seen, keys, unfolds⟩ := data.unfolds_object value members ready.unfolds
  have paired := entries_paired data.Unfolds entries members keys unfolds
  rw [survey_map _ _ _ _ _ values id entries seen, faults, List.flatMap_def]
  apply Survey.finds_all
  refine List.forall₂_map_left_iff.mpr (List.forall₂_map_right_iff.mpr ?_)
  refine forall₂_listed _ _ _ _ paired fun entry listed member same => ?_
  obtain ⟨key, unfolded⟩ := same
  have held := data.holds_entry value id entries entry seen listed
  rw [key]
  apply Survey.finds_below
  apply each
  · exact data.ready_child entered value _ _ _ ready held unfolded
  · exact data.ready_fresh entered value _ _ ready held

theorem reference_scalar_finds (name : String) (target : Spec) (found : table.get? name = some target)
    (content : Scalar) (same : tree = .scalar content) :
    (survey table data entered last (.reference name) value).Finds (faults table direct (.reference name) tree) := by
  subst same
  have seen := data.unfolds_scalar value content ready.unfolds
  by_cases null : content = .null
  · subst null
    rw [survey_reference_null table data _ _ name target value found seen, faults]
    exact Survey.finds_nothing
  · rw [survey_reference_scalar table data _ _ name target value content found seen null, faults]
    · apply Survey.finds_single
    · exact null

end

-- The check finds what is wrong with the tree a value looks like. It never meets a marked
-- container: only those above are marked, and a reference is not followed twice in a row.
theorem survey_finds (entered : List Nat) (last : Option Segment) (spec : Spec) (value : ν) (tree : Json)
    (ready : data.Ready entered value tree) (fresh : spec.isReference = true → ¬ data.Marked entered value) :
    (survey table data entered last spec value).Finds (faults table direct spec tree) := by
  induction entered, last, spec, value using survey_induction table data generalizing tree with
  | primitive entered last kind value => exact primitive_finds table direct data entered last value tree ready kind
  | enum entered last allowed value => exact enum_finds table direct data entered last value tree ready allowed
  | array entered last item value ih =>
      cases tree with
      | scalar content =>
          have apart := Json.scalar_not_array content
          exact array_mismatch_finds table direct data entered last value _ ready item apart
      | array trees =>
          exact array_finds table direct data entered last value _ ready item trees rfl
            fun position child inner childReady unmarked => ih position child inner childReady fun _ => unmarked
      | object members =>
          exact array_mismatch_finds table direct data entered last value _ ready item Kind.noConfusion
  | shape entered last fields exact value ih =>
      cases tree with
      | scalar content =>
          have apart := Json.scalar_not_object content
          exact shape_mismatch_finds table direct data entered last value _ ready fields exact apart
      | array trees =>
          exact shape_mismatch_finds table direct data entered last value _ ready fields exact Kind.noConfusion
      | object members =>
          exact shape_finds table direct data entered last value _ ready fields exact members rfl
            fun field listed child inner childReady unmarked => ih field listed child inner childReady fun _ => unmarked
  | map entered last values value ih =>
      cases tree with
      | scalar content =>
          have apart := Json.scalar_not_object content
          exact map_mismatch_finds table direct data entered last value _ ready values apart
      | array trees =>
          exact map_mismatch_finds table direct data entered last value _ ready values Kind.noConfusion
      | object members =>
          exact map_finds table direct data entered last value _ ready values members rfl
            fun key child inner childReady unmarked => ih key child inner childReady fun _ => unmarked
  | reference entered last name value ih =>
      cases found : table.get? name with
      | none =>
          rw [survey_reference_unknown table data _ _ name value found]
          intro passed
          contradiction
      | some target =>
          rcases data.unfolds_cases value tree ready.unfolds with ⟨content, same, _⟩ | ⟨container, id, seen⟩
          · exact reference_scalar_finds table direct data entered last value tree ready name target found content same
          · have unmarked : id ∉ entered := fun listed => fresh rfl ⟨id, listed, seen⟩
            have inside := data.ready_inside entered value tree id ready seen
            rw [survey_reference_fresh table data _ _ name target value id found seen unmarked,
              faults_reference table direct name target tree found container]
            apply Survey.finds_through
            apply ih target id found seen unmarked tree inside
            intro reference
            rw [direct name target found] at reference
            contradiction

theorem start_ready (spec : Spec) (value : Json) :
    (Tree.data value.size).Ready
      (if spec.isReference then [] else (Tree.data value.size).ownIdentity (Tree.root value)) (Tree.root value) value := by
  have unfolds := Tree.root_unfolds value
  have acyclic := Tree.node_acyclic (Tree.root value)
  cases spec.isReference with
  | true => exact Instance.ready_unmarked _ _ value unfolds acyclic
  | false => exact Instance.ready_start _ _ value unfolds acyclic

theorem start_fresh (spec : Spec) (value : Json) (reference : spec.isReference = true) :
    ¬ (Tree.data value.size).Marked
      (if spec.isReference then [] else (Tree.data value.size).ownIdentity (Tree.root value)) (Tree.root value) := by
  rw [reference, if_pos rfl]
  exact fun ⟨_, listed, _⟩ => List.not_mem_nil listed

end

namespace Table

theorem direct_of_entries (table : Table) (plain : ∀ entry ∈ table.entries, entry.2.isReference = false) :
    table.Direct :=
  fun name spec found => plain (name, spec) (table.get_entry name spec found)

theorem check_faults (table : Table) (direct : table.Direct) (spec : Spec) (value : Json) (found : List Violation)
    (ran : table.check (Tree.data value.size) spec (Tree.root value) = .ok found) :
    found.map Violation.fault = faults table direct spec value := by
  rw [check_survey, Survey.violations_passed] at ran
  have ready := start_ready spec value
  have fresh := start_fresh spec value
  have finds := survey_finds table direct (Tree.data value.size) _ none spec (Tree.root value) value ready fresh
  rw [ran] at finds
  exact finds rfl

theorem check_passes {ν : Type} (table : Table) (data : Instance ν) (resolves : table.Resolves) (spec : Spec) (value : ν)
    (known : ∀ reference ∈ spec.references, table.contains reference = true) :
    ∃ found, table.check data spec value = .ok found := by
  rw [check_survey, Survey.violations, survey_passes table data resolves _ none spec value known]
  exact ⟨_, rfl⟩

-- A check that comes to its end has found exactly the faults of the tree, in order, and it
-- does come to its end when every name that may be followed has an entry.
theorem check_reports_faults (table : Table) (direct : table.Direct) (spec : Spec) (value : Json) :
    (∀ found, table.check (Tree.data value.size) spec (Tree.root value) = .ok found →
      found.map Violation.fault = faults table direct spec value) ∧
    (table.dangling = [] → (∀ reference ∈ spec.references, table.contains reference = true) →
      ∃ found, table.check (Tree.data value.size) spec (Tree.root value) = .ok found) :=
  ⟨fun found ran => table.check_faults direct spec value found ran,
    fun closed known => table.check_passes _ (table.resolves_of_dangling closed) spec _ known⟩

def chain : Table :=
  ⟨[("node", some (.shape [⟨"label", .primitive .string, true⟩, ⟨"next", .reference "node", false⟩] true))]⟩

def brokenChain : Json :=
  .object [("label", .boolean true), ("next", .object [("mark", .null), ("next", .string "end")])]

theorem chain_direct : chain.Direct := chain.direct_of_entries (by decide)

theorem broken_chain_faults :
    ∃ found, chain.check (Tree.data brokenChain.size) (.reference "node") (Tree.root brokenChain) = .ok found ∧
      found.map Violation.fault = faults chain chain_direct (.reference "node") brokenChain := by
  have runs := chain.check_reports_faults chain_direct (.reference "node") brokenChain
  obtain ⟨found, ran⟩ := runs.2 (by decide) (by decide)
  exact ⟨found, ran, runs.1 found ran⟩

example : faults chain chain_direct (.reference "node") brokenChain =
    [(.typeMismatch, [.key "label"]), (.missingRequired, [.key "next", .key "label"]),
      (.typeMismatch, [.key "next", .key "next"]), (.unexpectedProperty, [.key "next", .key "mark"])] := by cbv

end Table

end ShapeCheck
