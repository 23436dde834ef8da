import ShapeCheck.Proofs.Reports
import ShapeCheck.Proofs.Unresolved

set_option autoImplicit false

namespace ShapeCheck

def Spec.container? : Spec → Option Kind
  | .array _ => some .array
  | .shape _ _ => some .object
  | .map _ => some .object
  | .primitive .object => some .object
  | _ => none

namespace Survey

theorem violations_through (description : String) (part : Survey) :
    (part.through description).violations = part.violations.map (List.map (Violation.through description)) := by
  rcases part with ⟨found, failure⟩
  cases failure <;> rfl

@[simp] theorem nothing_after (part : Survey) : part.andThen nothing = part := by
  rcases part with ⟨found, failure⟩
  cases failure with
  | some failure => rfl
  | none => simp [andThen, nothing]

theorem violations_below (segment : Segment) (part : Survey) (more : List Violation) :
    ((part.andThen ⟨more, none⟩).below segment).violations =
      match part.violations with
      | .error failure => .error (failure.below segment)
      | .ok found => .ok (found.map (Violation.below segment) ++ more.map (Violation.below segment)) := by
  rcases part with ⟨found, failure⟩
  cases failure with
  | some failure => rfl
  | none => simp [andThen, below, Survey.violations]

end Survey

section

variable {ν : Type} (table : Table) (data : Instance ν) (value : ν)

theorem identity_container (id : Nat) (seen : (data.view value).identity? = some id) :
    (data.kind value).isContainer = true := by
  rw [Instance.kind]
  cases layer : data.view value with
  | scalar content =>
      rw [layer] at seen
      contradiction
  | array id items => rfl
  | object id entries => rfl

theorem container_view (container : (data.kind value).isContainer = true) :
    ∃ id, (data.view value).identity? = some id := by
  rcases data.view_cases value with ⟨content, seen⟩ | identified
  · rw [Instance.kind, seen] at container
    cases content <;> contradiction
  · exact identified

theorem scalar_view (plain : (data.kind value).isContainer = false) : ∃ content, data.view value = .scalar content := by
  rcases data.view_cases value with scalar | ⟨id, seen⟩
  · exact scalar
  · rw [identity_container data value id seen] at plain
    contradiction

theorem null_view (null : data.kind value = .null) : data.view value = .scalar .null := by
  obtain ⟨content, seen⟩ := scalar_view data value (by rw [null]; rfl)
  rw [Instance.kind, seen] at null
  cases content with
  | null => exact seen
  | _ => contradiction

theorem container_mismatch (entered : List Nat) (last : Option Segment) (spec : Spec) (sort : Kind)
    (asks : spec.container? = some sort) (apart : data.kind value ≠ sort) :
    survey table data entered last spec value =
      .single .typeMismatch ("expected " ++ sort.name ++ ", found " ++ (data.kind value).name) := by
  cases spec with
  | primitive kind =>
      cases kind with
      | object =>
          cases asks
          have refused : PrimitiveKind.object.accepts (data.kind value) = false := by
            cases other : data.kind value <;> first | rfl | contradiction
          rw [survey, Survey.leaf_primitive, if_neg (by rw [refused]; exact Bool.false_ne_true)]
          rfl
      | _ => contradiction
  | enum allowed => contradiction
  | array item =>
      cases asks
      exact survey_array_mismatch table data entered last value item apart
  | shape fields exact =>
      cases asks
      exact survey_shape_mismatch table data entered last value fields exact apart
  | map values =>
      cases asks
      exact survey_map_mismatch table data entered last value values apart
  | reference name => contradiction

end

section

variable {ν : Type} (table : Table) (data : Instance ν) (name : String) (target : Spec)
  (found : table.get? name = some target) (value : ν)
include found

-- Both checks come to the target with the value entered, one at its start and one on the way.
theorem check_container_through (plain : target.isReference = false) (container : (data.kind value).isContainer = true) :
    table.check data (.reference name) value =
      (table.check data target value).map (List.map (Violation.through name)) := by
  obtain ⟨id, seen⟩ := container_view data value container
  have own : data.ownIdentity value = [id] := by rw [Instance.ownIdentity, seen]; rfl
  have followed := survey_reference_fresh table data [] none name target value id found seen List.not_mem_nil
  rw [table.check_survey, table.check_survey, plain, own, if_neg Bool.false_ne_true, ← Survey.violations_through]
  exact congrArg Survey.violations followed

theorem check_scalar_refused (filled : data.kind value ≠ .null) (scalar : (data.kind value).isContainer = false) :
    table.check data (.reference name) value =
      .ok [⟨[], [], "`" ++ name ++ "` can't be a primitive value (" ++ data.preview value ++ ")", .typeMismatch⟩] := by
  obtain ⟨content, seen⟩ := scalar_view data value scalar
  have other : content ≠ .null := by
    rintro rfl
    exact filled (by rw [Instance.kind, seen]; rfl)
  rw [table.check_survey, survey_reference_scalar table data _ none name target value content found seen other]
  rfl

theorem check_null_accepted (null : data.kind value = .null) : table.check data (.reference name) value = .ok [] := by
  rw [table.check_survey, survey_reference_null table data _ none name target value found (null_view data value null)]
  rfl

end

theorem check_container_refused {ν : Type} (table : Table) (data : Instance ν) (spec : Spec) (sort : Kind)
    (asks : spec.container? = some sort) (value : ν) (apart : data.kind value ≠ sort) :
    table.check data spec value =
      .ok [⟨[], [], "expected " ++ sort.name ++ ", found " ++ (data.kind value).name, .typeMismatch⟩] := by
  rw [table.check_survey, container_mismatch table data value _ none spec sort asks apart]
  rfl

theorem asked_container (spec : Spec) (sort : Kind) (asks : spec.container? = some sort) : sort.isContainer = true := by
  cases spec with
  | primitive kind => cases kind <;> cases asks; rfl
  | enum allowed => contradiction
  | array item => cases asks; rfl
  | shape fields exact => cases asks; rfl
  | map values => cases asks; rfl
  | reference name => contradiction

-- A reference adds its name to the way to each violation of a container and nothing else. Null is
-- no violation of a reference, and any other scalar is one for both where the target asks for a container.
theorem reference_transparent (table : Table) (name : String) (target : Spec) (found : table.get? name = some target)
    (plain : target.isReference = false) {ν : Type} (data : Instance ν) (value : ν) :
    ((data.kind value).isContainer = true →
      table.check data (.reference name) value =
        (table.check data target value).map (List.map (Violation.through name))) ∧
    ((data.kind value).isContainer = false → data.kind value ≠ .null → ∀ sort, target.container? = some sort →
      table.check data (.reference name) value =
          .ok [⟨[], [], "`" ++ name ++ "` can't be a primitive value (" ++ data.preview value ++ ")", .typeMismatch⟩] ∧
        table.check data target value =
          .ok [⟨[], [], "expected " ++ sort.name ++ ", found " ++ (data.kind value).name, .typeMismatch⟩]) ∧
    (data.kind value = .null → table.check data (.reference name) value = .ok []) := by
  refine ⟨check_container_through table data name target found value plain, fun scalar filled sort asks => ?_,
    check_null_accepted table data name target found value⟩
  have apart : data.kind value ≠ sort := by
    intro same
    rw [same, asked_container target sort asks] at scalar
    contradiction
  have refused := check_scalar_refused table data name target found value filled scalar
  exact ⟨refused, check_container_refused table data target sort asks value apart⟩

theorem ring_through_reference :
    Table.chain.get? "node" = some nodeSpec ∧ nodeSpec.isReference = false ∧
      Table.chain.check Heap.ring.data (.reference "node") (.container 0) =
        (Table.chain.check Heap.ring.data nodeSpec (.container 0)).map (List.map (Violation.through "node")) ∧
      Table.chain.check Heap.ring.data (.reference "node") (.scalar (.boolean true)) =
        .ok [⟨[], [], "`node` can't be a primitive value (true)", .typeMismatch⟩] ∧
      Table.chain.check Heap.ring.data nodeSpec (.scalar (.boolean true)) =
        .ok [⟨[], [], "expected object, found boolean", .typeMismatch⟩] ∧
      Table.chain.check Heap.ring.data (.reference "node") (.scalar .null) = .ok [] := by
  have transparent := fun value => reference_transparent Table.chain "node" nodeSpec rfl rfl Heap.ring.data value
  obtain ⟨reference, target⟩ := (transparent (.scalar (.boolean true))).2.1 rfl Kind.noConfusion .object rfl
  exact ⟨rfl, rfl, (transparent (.container 0)).1 rfl, reference, target, (transparent (.scalar .null)).2.2 rfl⟩

section

variable {ν : Type} (table : Table) (data : Instance ν)

theorem survey_last (spec : Spec) (plain : spec.isReference = false) (entered : List Nat) (last other : Option Segment)
    (value : ν) : survey table data entered last spec value = survey table data entered other spec value := by
  cases spec with
  | reference name => contradiction
  | _ => rw [survey, survey]

def Spec.undeclaredKeys : Spec → List String → List String
  | .shape fields false, keys => Survey.undeclared fields keys
  | _, _ => []

theorem survey_exactly (entered : List Nat) (last : Option Segment) (spec : Spec) (value : ν) :
    survey table data entered last spec.exactly value =
      (survey table data entered last spec value).andThen
        ⟨(spec.undeclaredKeys (data.view value).keys).map Survey.unexpected, none⟩ := by
  cases spec with
  | shape fields exact =>
      cases exact with
      | true => exact (Survey.nothing_after _).symm
      | false =>
          by_cases sort : data.kind value = .object
          · obtain ⟨id, entries, seen⟩ := data.view_object value sort
            rw [Spec.exactly, survey_shape _ _ _ _ _ fields true id entries seen,
              survey_shape _ _ _ _ _ fields false id entries seen, if_pos rfl, if_neg Bool.false_ne_true,
              Survey.nothing_after, Survey.leaf_undeclared, seen]
            rfl
          · have bare : (data.view value).keys = [] := by
              rw [Instance.kind] at sort
              cases seen : data.view value with
              | object id entries => exact absurd (congrArg Layer.kind seen) sort
              | _ => rfl
            rw [Spec.exactly, survey_shape_mismatch _ _ _ _ _ fields true sort,
              survey_shape_mismatch _ _ _ _ _ fields false sort, bare]
            exact (Survey.nothing_after _).symm
  | _ => exact (Survey.nothing_after _).symm

theorem exactly_adds_undeclared (name : String) (spec : Spec) (entry : table.get? name = some spec)
    (plain : spec.isReference = false) (value : ν) :
    table.checkEntryExactly data name value =
      match table.checkEntry data name value with
      | .error failure => .error (failure.below (.key name))
      | .ok found =>
          .ok (found.map (Violation.below (.key name)) ++
            (spec.undeclaredKeys (data.view value).keys).map fun key =>
              ⟨[.key name, .key key], [], "unexpected property `" ++ key ++ "`", .unexpectedProperty⟩) := by
  rw [table.check_entry_exactly_survey data name spec value entry, table.check_entry_survey data name spec value entry,
    table.check_survey, plain, if_neg Bool.false_ne_true, survey_exactly,
    survey_last table data spec plain _ (some (.key name)) none, Survey.violations_below, List.map_map]
  rfl

end
def Heap.shelves : Heap :=
  ⟨[.object [("labels", .container 1), ("owner", .container 0)], .object [("top", .container 0)],
    .object [("books", .container 3)], .array [.container 2]]⟩

def missingBooks : Violation := ⟨[.key "books"], [], "required property `books` is missing", .missingRequired⟩

theorem shelf_checked : Table.shelf.checkEntry Heap.shelves.data "shelf" (.container 0) = .ok [missingBooks] := by cbv

theorem shelf_failed :
    Table.shelf.checkEntry Heap.shelves.data "shelf" (.container 2) = .error ⟨"book", [.key "books", .index 0]⟩ := by cbv

theorem shelves_exactly :
    (∃ spec, Table.shelf.get? "shelf" = some spec ∧ spec.isReference = false) ∧
      Table.shelf.checkEntryExactly Heap.shelves.data "shelf" (.container 0) =
        .ok [missingBooks.below (.key "shelf"),
          ⟨[.key "shelf", .key "owner"], [], "unexpected property `owner`", .unexpectedProperty⟩] ∧
      Table.shelf.checkEntryExactly Heap.shelves.data "shelf" (.container 2) =
        .error ⟨"book", [.key "shelf", .key "books", .index 0]⟩ := by
  have exactly := exactly_adds_undeclared Table.shelf Heap.shelves.data "shelf" _ rfl rfl
  refine ⟨⟨_, rfl, rfl⟩, ?_, ?_⟩
  · rw [exactly, shelf_checked]
    rfl
  · rw [exactly, shelf_failed]
    rfl

end ShapeCheck
