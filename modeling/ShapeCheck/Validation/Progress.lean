import ShapeCheck.Instance.Basic
import ShapeCheck.Validation.Violation

set_option autoImplicit false

/- The state of one check: where it is, the references it has followed to get there, the
   containers it is inside of, and the violations found so far. -/
namespace ShapeCheck

structure Progress where
  path : Path
  via : List String
  -- Containers entered through a reference and not left yet.
  entered : List Nat
  violations : List Violation
deriving DecidableEq, Repr

namespace Progress

def start : Progress := ⟨[], [], [], []⟩

-- A start at which the root counts as entered, so that a reference that leads back to it is not
-- followed.
def startAt {ν : Type} (data : Instance ν) (value : ν) : Progress :=
  { start with entered := (data.view value).identity?.toList }

def report (progress : Progress) (kind : ViolationKind) (message : String) : Progress :=
  { progress with
    violations := progress.violations ++ [⟨progress.path, progress.via, message, kind⟩] }

def below (progress : Progress) (segment : Segment) : Progress :=
  { progress with path := progress.path ++ [segment] }

def follow (progress : Progress) (description : String) (id : Nat) : Progress :=
  { progress with via := progress.via ++ [description], entered := id :: progress.entered }

def back (progress : Progress) : Progress := { progress with path := progress.path.dropLast }

-- Back at the place of `progress`, with what was found meanwhile.
def resume (progress : Progress) (inner : Progress) : Progress :=
  { progress with violations := inner.violations }

def reportBelow (progress : Progress) (segment : Segment) (kind : ViolationKind) (message : String) :
    Progress :=
  ((progress.below segment).report kind message).back

@[simp] theorem report_below (progress : Progress) (segment : Segment) (kind : ViolationKind) (message : String) :
    progress.reportBelow segment kind message =
      { progress with
        violations := progress.violations ++ [⟨progress.path ++ [segment], progress.via, message, kind⟩] } := by
  simp [reportBelow, below, report, back]

def remaining (bound : Nat) (progress : Progress) : Nat :=
  ((List.range bound).filter fun id => ! progress.entered.contains id).length

@[simp] theorem remaining_below (bound : Nat) (progress : Progress) (segment : Segment) :
    (progress.below segment).remaining bound = progress.remaining bound := rfl

@[simp] theorem remaining_resume (bound : Nat) (progress inner : Progress) :
    (progress.resume inner).remaining bound = progress.remaining bound := rfl

theorem filter_shrinks (ids : List Nat) (entered : List Nat) (id : Nat)
    (listed : id ∈ ids) (fresh : entered.contains id = false) :
    (ids.filter fun other => ! (id :: entered).contains other).length <
      (ids.filter fun other => ! entered.contains other).length := by
  have kept : ∀ others : List Nat,
      (others.filter fun other => ! (id :: entered).contains other).length ≤
        (others.filter fun other => ! entered.contains other).length := by
    intro others
    induction others with
    | nil => simp
    | cons other rest ih =>
        simp only [List.filter_cons, List.contains_cons]
        by_cases known : entered.contains other <;> by_cases same : other == id <;>
          simp only [known, same, Bool.or_true, Bool.or_false, Bool.not_true, Bool.not_false,
            Bool.false_eq_true, if_true, if_false, List.length_cons, List.contains_cons] at ih ⊢ <;>
          omega
  induction ids with
  | nil => simp at listed
  | cons other rest ih =>
      by_cases here : other = id
      · subst here
        have bound := kept rest
        simp only [List.filter_cons, List.contains_cons, BEq.rfl, Bool.true_or, Bool.not_true,
          Bool.false_eq_true, if_false, fresh, Bool.not_false, if_true, List.length_cons] at bound ⊢
        omega
      · have later : id ∈ rest := by
          rcases List.mem_cons.mp listed with same | tail
          · exact absurd same.symm here
          · exact tail
        have smaller := ih later
        have apart : (other == id) = false := by simpa using here
        simp only [List.filter_cons, List.contains_cons, apart, Bool.false_or] at smaller ⊢
        by_cases known : entered.contains other <;>
          simp only [known, Bool.not_true, Bool.not_false, Bool.false_eq_true, if_true, if_false,
            List.length_cons] <;> omega

theorem remaining_follow (bound : Nat) (progress : Progress) (description : String) (id : Nat)
    (inside : id < bound) (fresh : progress.entered.contains id = false) :
    (progress.follow description id).remaining bound < progress.remaining bound :=
  filter_shrinks _ _ id (List.mem_range.mpr inside) fresh

end Progress

end ShapeCheck
