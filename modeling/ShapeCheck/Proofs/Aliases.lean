import Mathlib.Data.List.Permutation
import ShapeCheck.Proofs.Faults

set_option autoImplicit false

namespace ShapeCheck

-- Two runs that both fail, or both pass and find the same faults, those of the first one below
-- a given place.
def SameFaults (place : Path) : Except Unresolved (List Violation) → Except Unresolved (List Violation) → Prop
  | .ok one, .ok other => one.map Violation.fault = other.map fun violation => (violation.kind, place ++ violation.path)
  | .error _, .error _ => True
  | _, _ => False

theorem same_faults_nothing (place : Path) (run : Except Unresolved (List Violation)) :
    SameFaults place (.ok []) run ↔ run = .ok [] := by
  cases run with
  | error failure => exact iff_of_false id nofun
  | ok found =>
      rw [SameFaults, List.map_nil, eq_comm, List.map_eq_nil_iff, Except.ok.injEq]

section

variable {ν : Type} (table : Table) (data : Instance ν)

-- A name stands for the entry it points to: a check against the name, also as a property, finds
-- what a check against that entry finds.
structure Transparent (name entry : String) (value : ν) : Prop where
  check : SameFaults [] (table.check data (.reference name) value) (table.check data (.reference entry) value)
  exactly : SameFaults [.key name] (table.checkEntryExactly data name value) (table.check data (.reference entry) value)

variable (name entry : String) (target : Spec) (value : ν)

theorem pointer_exactly_survey (pointer : table.get? name = some (.reference entry)) :
    table.checkEntryExactly data name value =
      ((survey table data (data.ownIdentity value) (some (.key name)) (.reference entry) value).below
        (.key name)).violations :=
  table.check_entry_exactly_other data name (.reference entry) value pointer nofun

variable (pointer : table.get? name = some (.reference entry)) (filled : table.get? entry = some target)
include pointer filled

-- Following the first reference marks the container, so that the second is not followed.
theorem pointer_container (id : Nat) (seen : (data.view value).identity? = some id) :
    table.check data (.reference name) value = .ok [] ∧ table.checkEntryExactly data name value = .ok [] := by
  constructor
  · have fresh : id ∉ (if (Spec.reference name).isReference then [] else data.ownIdentity value) := List.not_mem_nil
    rw [table.check_survey, survey_reference_fresh table data _ none name _ value id pointer seen fresh,
      survey_reference_again table data _ none entry target value id filled seen List.mem_cons_self]
    rfl
  · have marked : id ∈ data.ownIdentity value := by rwa [Instance.ownIdentity, Option.mem_toList]
    rw [pointer_exactly_survey table data name entry value pointer,
      survey_reference_again table data _ _ entry target value id filled seen marked]
    rfl

theorem pointer_scalar (content : Scalar) (seen : data.view value = .scalar content) :
    Transparent table data name entry value := by
  by_cases null : content = .null
  · subst null
    have first := fun entered last => survey_reference_null table data entered last name _ value pointer seen
    have second := fun entered last => survey_reference_null table data entered last entry target value filled seen
    constructor
    · rw [table.check_survey, table.check_survey, first, second]
      rfl
    · rw [pointer_exactly_survey table data name entry value pointer, table.check_survey, second, second]
      rfl
  · have first := fun entered last =>
      survey_reference_scalar table data entered last name _ value content pointer seen null
    have second := fun entered last =>
      survey_reference_scalar table data entered last entry target value content filled seen null
    constructor
    · rw [table.check_survey, table.check_survey, first, second]
      rfl
    · rw [pointer_exactly_survey table data name entry value pointer, table.check_survey, second, second]
      rfl

end

-- A name that only points to another entry accepts each container unseen, so it stands for the
-- entry just where the value is no container or the entry has nothing to report on it.
theorem pointer_transparent_iff (table : Table) (name entry : String) (target : Spec) (value : Json)
    (pointer : table.get? name = some (.reference entry)) (filled : table.get? entry = some target) :
    (value.kind.isContainer = true →
      table.check (Tree.data value.size) (.reference name) (Tree.root value) = .ok [] ∧
        table.checkEntryExactly (Tree.data value.size) name (Tree.root value) = .ok []) ∧
    (Transparent table (Tree.data value.size) name entry (Tree.root value) ↔
      (value.kind.isContainer = true →
        table.check (Tree.data value.size) (.reference entry) (Tree.root value) = .ok [])) := by
  have unfolds := Tree.root_unfolds value
  rcases Instance.unfolds_cases _ _ value unfolds with ⟨content, same, seen⟩ | ⟨container, id, seen⟩
  · subst same
    have apart : ¬ (Json.scalar content).kind.isContainer = true := by simp
    have transparent := pointer_scalar table _ name entry target _ pointer filled content seen
    exact ⟨fun held => absurd held apart, iff_of_true transparent fun held => absurd held apart⟩
  · have accepted := pointer_container table _ name entry target _ pointer filled id seen
    refine ⟨fun _ => accepted, fun transparent _ => ?_, fun clean => ⟨?_, ?_⟩⟩
    · have same := transparent.check
      rwa [accepted.1, same_faults_nothing] at same
    · rw [accepted.1, same_faults_nothing]
      exact clean container
    · rw [accepted.2, same_faults_nothing]
      exact clean container

def sized : Spec := .shape [⟨"size", .primitive .string, true⟩] false

def Table.twoNames : Table := ((Table.empty.insert "part" sized).1.insert "piece" (.reference "part")).1

def sizeMissing : Violation :=
  ⟨[.key "size"], ["part"], "required property `size` is missing", .missingRequired⟩

def unsizedPart : Json := .object []

def sizedPart : Json := .object [("size", .scalar (.string "small"))]

theorem part_refused :
    Table.twoNames.check (Tree.data unsizedPart.size) (.reference "part") (Tree.root unsizedPart) = .ok [sizeMissing] := by
  cbv

theorem part_accepted :
    Table.twoNames.check (Tree.data sizedPart.size) (.reference "part") (Tree.root sizedPart) = .ok [] := by cbv

theorem piece_transparent :
    Table.twoNames.get? "piece" = some (.reference "part") ∧ Table.twoNames.get? "part" = some sized ∧
      Transparent Table.twoNames (Tree.data sizedPart.size) "piece" "part" (Tree.root sizedPart) ∧
      ¬ Transparent Table.twoNames (Tree.data unsizedPart.size) "piece" "part" (Tree.root unsizedPart) := by
  have onSized := pointer_transparent_iff Table.twoNames "piece" "part" sized sizedPart rfl rfl
  have onUnsized := pointer_transparent_iff Table.twoNames "piece" "part" sized unsizedPart rfl rfl
  refine ⟨rfl, rfl, onSized.2.mpr fun _ => part_accepted, fun transparent => ?_⟩
  have clean := onUnsized.2.mp transparent rfl
  rw [part_refused] at clean
  contradiction

theorem pointer_accepts_refused :
    Table.twoNames.get? "piece" = some (.reference "part") ∧ Table.twoNames.get? "part" = some sized ∧
      sized.isReference = false ∧ unsizedPart ≠ .scalar .null ∧
      Table.twoNames.check (Tree.data unsizedPart.size) (.reference "part") (Tree.root unsizedPart) = .ok [sizeMissing] ∧
      Table.twoNames.check (Tree.data unsizedPart.size) (.reference "piece") (Tree.root unsizedPart) = .ok [] ∧
      Table.twoNames.checkEntryExactly (Tree.data unsizedPart.size) "piece" (Tree.root unsizedPart) = .ok [] ∧
      ¬ SameFaults [] (Table.twoNames.check (Tree.data unsizedPart.size) (.reference "piece") (Tree.root unsizedPart))
        (Table.twoNames.check (Tree.data unsizedPart.size) (.reference "part") (Tree.root unsizedPart)) ∧
      ¬ SameFaults [.key "piece"]
        (Table.twoNames.checkEntryExactly (Tree.data unsizedPart.size) "piece" (Tree.root unsizedPart))
        (Table.twoNames.check (Tree.data unsizedPart.size) (.reference "part") (Tree.root unsizedPart)) := by
  have accepted := pointer_container Table.twoNames (Tree.data unsizedPart.size) "piece" "part" sized
    (Tree.root unsizedPart) rfl rfl 0 rfl
  refine ⟨rfl, rfl, rfl, Json.noConfusion, part_refused, accepted.1, accepted.2, ?_, ?_⟩
  · rw [accepted.1, part_refused, same_faults_nothing]
    exact nofun
  · rw [accepted.2, part_refused, same_faults_nothing]
    exact nofun

end ShapeCheck
