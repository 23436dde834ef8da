import ShapeCheck.Proofs.Dependence
import ShapeCheck.Proofs.Relocation
import ShapeCheck.Proofs.Threading

set_option autoImplicit false

namespace ShapeCheck

variable {ν : Type}

inductive Descent (ν : Type) where
  | whole (spec : Spec) (value : ν)
  | shape (fields : List Field) (exact : Bool) (value : ν)
  | reference (name : String) (value : ν)

namespace Descent

def spec : Descent ν → Spec
  | .whole spec _ => spec
  | .shape fields exact _ => .shape fields exact
  | .reference name _ => .reference name

def value : Descent ν → ν
  | .whole _ value => value
  | .shape _ _ value => value
  | .reference _ value => value

def run (table : Table) (data : Instance ν) (progress : Progress) : Descent ν → Outcome
  | .whole spec value => inspect table data progress spec value
  | .shape fields exact value => inspectShape table data progress fields exact value
  | .reference name value => inspectReference table data progress name value

def finds (table : Table) (data : Instance ν) (entered : List Nat) (last : Option Segment) (descent : Descent ν) : Survey :=
  survey table data entered last descent.spec descent.value

theorem run_checks (table : Table) (data : Instance ν) (descent : Descent ν) (progress : Progress) :
    descent.run table data progress = inspect table data progress descent.spec descent.value := by
  cases descent with
  | whole spec value => rfl
  | shape fields exact value => rw [run, spec, inspect, Descent.value]
  | reference name value => rw [run, spec, inspect, Descent.value]

theorem run_absorbs (table : Table) (data : Instance ν) (descent : Descent ν) (progress : Progress) :
    descent.run table data progress =
      progress.absorb (descent.finds table data progress.entered progress.path.getLast?) := by
  rw [run_checks]
  exact inspect_absorbs table data _ _ descent.spec descent.value progress rfl rfl

end Descent

theorem survey_same_marks (table : Table) (data : Instance ν) (entered others : List Nat) (last : Option Segment)
    (spec : Spec) (value : ν) (same : ∀ id, id ∈ others ↔ id ∈ entered) :
    survey table data others last spec value = survey table data entered last spec value := by
  induction entered, last, spec, value using survey_induction table data generalizing others with
  | primitive entered last kind value => rw [survey, survey]
  | enum entered last allowed value => rw [survey, survey]
  | array entered last item value ih =>
      refine survey_parts_same table table data others entered last _ value ?_ (fun _ => Spec.noConfusion)
      intro segment part child asks
      cases asks with
      | item => exact ih _ child others same
  | shape entered last fields exact value ih =>
      refine survey_parts_same table table data others entered last _ value ?_ (fun _ => Spec.noConfusion)
      intro segment part child asks
      cases asks with
      | field _ _ _ _ _ field _ _ declared => exact ih field declared child others same
  | map entered last values value ih =>
      refine survey_parts_same table table data others entered last _ value ?_ (fun _ => Spec.noConfusion)
      intro segment part child asks
      cases asks with
      | entry => exact ih _ child others same
  | reference entered last name value ih =>
      refine survey_reference_same table table data others entered last (fun id => (same id).symm) name value rfl ?_
      intro target id found seen fresh
      have marked : ∀ other, other ∈ id :: others ↔ other ∈ id :: entered := by
        intro other
        rw [List.mem_cons, List.mem_cons, same other]
      exact ih target id found seen (fun known => fresh ((same id).mpr known)) (id :: others) marked

structure Descent.Disciplined (table : Table) (data : Instance ν) (progress : Progress) (descent : Descent ν) : Prop where
  path : (descent.run table data progress).progress.path = progress.path
  via : (descent.run table data progress).progress.via = progress.via
  entered : (descent.run table data progress).progress.entered = progress.entered
  added : ∃ added, (descent.run table data progress).progress.violations = progress.violations ++ added ∧
    ∀ violation ∈ added, progress.path <+: violation.path ∧ progress.via <+: violation.via
  failed : ∀ failure, (descent.run table data progress).failure = some failure → progress.path <+: failure.path
  -- It ends as the check with one state ends, and that one always ends.
  threaded : ∀ outcome, Threads table data progress (.check descent.spec descent.value) outcome ↔
    descent.run table data progress = outcome
  -- What was pushed before it is still there to be popped.
  popped : ∀ segment, progress.resume (descent.run table data (progress.below segment)).progress =
    (descent.run table data (progress.below segment)).progress.back
  left : ∀ description id, id ∉ progress.entered →
    progress.resume (descent.run table data (progress.follow description id)).progress =
      (descent.run table data (progress.follow description id)).progress.leave id
  -- From another place, and after other violations, it finds the same, each time placed where it stands.
  alike : ∀ other : Progress, (∀ id, id ∈ other.entered ↔ id ∈ progress.entered) →
    other.path.getLast? = progress.path.getLast? →
      ∃ part : Survey, descent.run table data progress = progress.absorb part ∧
        descent.run table data other = other.absorb part

theorem descents_disciplined (table : Table) (data : Instance ν) (progress : Progress) (descent : Descent ν) :
    descent.Disciplined table data progress := by
  have whole := descent.run_absorbs table data
  constructor
  case path => rw [whole, Progress.absorb]
  case via => rw [whole, Progress.absorb]
  case entered => rw [whole, Progress.absorb]
  case added =>
    rw [whole, Progress.absorb]
    refine ⟨_, rfl, ?_⟩
    intro violation listed
    obtain ⟨inner, _, rfl⟩ := List.mem_map.mp listed
    exact ⟨List.prefix_append _ _, List.prefix_append _ _⟩
  case failed =>
    intro failure ended
    rw [whole, Progress.absorb, Option.map_eq_some_iff] at ended
    obtain ⟨inner, _, rfl⟩ := ended
    exact List.prefix_append _ _
  case threaded =>
    intro outcome
    rw [descent.run_checks]
    exact threads_iff table data progress (.check descent.spec descent.value) outcome
  case popped =>
    intro segment
    rw [whole]
    exact progress.absorb_back segment _
  case left =>
    intro description id fresh
    rw [whole]
    exact progress.absorb_leave description id _ fresh
  case alike =>
    intro other marks last
    refine ⟨descent.finds table data progress.entered progress.path.getLast?, whole progress, ?_⟩
    rw [whole, last, Descent.finds, survey_same_marks table data progress.entered _ _ _ _ marks, Descent.finds]

def Progress.inRoom : Progress :=
  ⟨[.index 4, .key "room"], ["house"], [9, 7], [⟨[.index 4], ["house"], "unexpected property `garden`", .unexpectedProperty⟩]⟩

def Progress.inAttic : Progress := ⟨[.key "room"], [], [7, 9, 7], []⟩

theorem shelf_moved :
    (∀ id, id ∈ Progress.inAttic.entered ↔ id ∈ Progress.inRoom.entered) ∧
      Progress.inAttic.path.getLast? = Progress.inRoom.path.getLast? ∧
      (Descent.reference "shelf" (Datum.container 2)).run Table.shelf Heap.shelves.data .inRoom =
        ⟨.inRoom, some ⟨"book", [.index 4, .key "room", .key "books", .index 0]⟩⟩ ∧
      ∃ part : Survey,
        (Descent.reference "shelf" (Datum.container 2)).run Table.shelf Heap.shelves.data .inRoom =
          Progress.inRoom.absorb part ∧
        (Descent.reference "shelf" (Datum.container 2)).run Table.shelf Heap.shelves.data .inAttic =
          Progress.inAttic.absorb part := by
  have marks : ∀ id, id ∈ Progress.inAttic.entered ↔ id ∈ Progress.inRoom.entered := by
    intro id
    simp [Progress.inAttic, Progress.inRoom]
    omega
  have disciplined := descents_disciplined Table.shelf Heap.shelves.data .inRoom (.reference "shelf" (.container 2))
  exact ⟨marks, rfl, by cbv, disciplined.alike .inAttic marks rfl⟩

end ShapeCheck
