import Mathlib.Data.List.Forall2
import ShapeCheck.Proofs.Findings
import ShapeCheck.Proofs.Unfolding

set_option autoImplicit false

namespace ShapeCheck

-- An enum mismatch shows the value it is about, and containers are shown differently by
-- different data.
def Violation.ShowsContainer (whole : Json) (violation : Violation) : Prop :=
  violation.kind = .enumMismatch ∧ ∃ shown, whole.at? violation.path = some shown ∧ shown.kind.isContainer = true

structure Violation.Agrees (whole : Json) (one other : Violation) : Prop where
  path : one.path = other.path
  via : one.via = other.via
  kind : one.kind = other.kind
  message : one.message = other.message ↔ ¬ one.ShowsContainer whole

structure Survey.Agrees (whole : Json) (one other : Survey) : Prop where
  failure : one.failure = other.failure
  found : List.Forall₂ (Violation.Agrees whole) one.found other.found

namespace Survey

theorem agrees_nothing (whole : Json) : nothing.Agrees whole nothing := ⟨rfl, .nil⟩

theorem agrees_same (whole : Json) (part : Survey) (plain : ∀ violation ∈ part.found, violation.kind ≠ .enumMismatch) :
    part.Agrees whole part := by
  refine ⟨rfl, List.forall₂_same.mpr fun violation listed => ?_⟩
  have hidden : ¬ violation.ShowsContainer whole := fun shows => plain violation listed shows.1
  exact ⟨rfl, rfl, rfl, iff_of_true rfl hidden⟩

theorem agrees_single (whole : Json) (kind : ViolationKind) (message : String) (plain : kind ≠ .enumMismatch) :
    (single kind message).Agrees whole (single kind message) :=
  agrees_same whole _ fun violation listed => by
    rw [single, List.mem_singleton] at listed
    rwa [listed]

theorem agrees_mismatch (whole : Json) (expected : String) (found : Kind) :
    (leaf (·.reportMismatch expected found)).Agrees whole (leaf (·.reportMismatch expected found)) :=
  agrees_single whole _ _ ViolationKind.noConfusion

theorem agrees_missing (whole : Json) (field : Field) :
    (leaf (·.reportMissing field)).Agrees whole (leaf (·.reportMissing field)) := by
  refine agrees_same whole _ fun violation listed => ?_
  rw [leaf_missing] at listed
  cases required : field.required <;> simp [required, nothing, single, below, Violation.below] at listed
  simp [listed]

theorem agrees_null (whole : Json) (field : Field) :
    (leaf (·.reportNull field)).Agrees whole (leaf (·.reportNull field)) := by
  refine agrees_same whole _ fun violation listed => ?_
  rw [leaf_null] at listed
  cases required : field.required <;> simp [required, nothing, single, below, Violation.below] at listed
  simp [listed]

theorem agrees_undeclared (whole : Json) (fields : List Field) (keys : List String) :
    (leaf (·.reportUndeclared fields keys)).Agrees whole (leaf (·.reportUndeclared fields keys)) := by
  refine agrees_same whole _ fun violation listed => ?_
  rw [leaf_undeclared] at listed
  obtain ⟨key, _, same⟩ := List.mem_map.mp listed
  rw [← same]
  exact ViolationKind.noConfusion

theorem agrees_below (whole inner : Json) (segment : Segment)
    (placed : ∀ rest, whole.at? (segment :: rest) = inner.at? rest) (one other : Survey)
    (agrees : one.Agrees inner other) :
    (one.below segment).Agrees whole (other.below segment) := by
  refine ⟨congrArg (Option.map (Unresolved.below segment)) agrees.failure, ?_⟩
  refine List.forall₂_map_left_iff.mpr (List.forall₂_map_right_iff.mpr (agrees.found.imp ?_))
  intro left right same
  refine ⟨congrArg (List.cons segment) same.path, same.via, same.kind, ?_⟩
  have shown : (left.below segment).ShowsContainer whole ↔ left.ShowsContainer inner := by
    rw [Violation.ShowsContainer, Violation.below, placed, Violation.ShowsContainer]
  rw [shown]
  exact same.message

theorem agrees_through (whole : Json) (description : String) (one other : Survey) (agrees : one.Agrees whole other) :
    (one.through description).Agrees whole (other.through description) := by
  refine ⟨agrees.failure, ?_⟩
  refine List.forall₂_map_left_iff.mpr (List.forall₂_map_right_iff.mpr (agrees.found.imp ?_))
  intro left right same
  exact ⟨same.path, congrArg (List.cons description) same.via, same.kind, same.message⟩

theorem agrees_and_then (whole : Json) (one other more others : Survey) (first : one.Agrees whole other)
    (second : more.Agrees whole others) : (one.andThen more).Agrees whole (other.andThen others) := by
  cases failed : one.failure with
  | some failure =>
      have otherFailed : other.failure = some failure := first.failure ▸ failed
      rw [and_then_failed one more failure failed, and_then_failed other others failure otherFailed]
      exact first
  | none =>
      have otherPassed : other.failure = none := first.failure ▸ failed
      rw [and_then_passed one more failed, and_then_passed other others otherPassed]
      exact ⟨second.failure, List.rel_append first.found second.found⟩

theorem agrees_all (whole : Json) (ones others : List Survey) (each : List.Forall₂ (Survey.Agrees whole) ones others) :
    (all ones).Agrees whole (all others) := by
  induction each with
  | nil => exact agrees_nothing whole
  | cons first rest ih => exact agrees_and_then whole _ _ _ _ first ih

end Survey

variable {ν μ : Type}

structure Instance.PreviewsAgree (one : Instance ν) (other : Instance μ) : Prop where
  scalar : ∀ value twin content, one.view value = .scalar content → other.view twin = .scalar content →
    one.preview value = other.preview twin
  container : ∀ value twin tree, one.Unfolds value tree → other.Unfolds twin tree → tree.kind.isContainer = true →
    one.preview value ≠ other.preview twin

section

variable (one : Instance ν) (other : Instance μ)

theorem agrees_enum (previews : one.PreviewsAgree other) (allowed : List Json) (value : ν) (twin : μ) (tree : Json)
    (left : one.Unfolds value tree) (right : other.Unfolds twin tree) :
    (Survey.leaf (·.checkEnum one allowed value)).Agrees tree (.leaf (·.checkEnum other allowed twin)) := by
  rw [Survey.leaf_enum, Survey.leaf_enum, one.unfolds_literal value tree left, other.unfolds_literal twin tree right]
  by_cases allows : allowed.any tree.equalsLiteral = true
  · rw [if_pos allows, if_pos allows]
    exact Survey.agrees_nothing tree
  · rw [if_neg allows, if_neg allows]
    refine ⟨rfl, .cons ⟨rfl, rfl, rfl, ?_⟩ .nil⟩
    simp only [String.append_left_inj, String.append_right_inj, Violation.ShowsContainer, true_and, Json.at?,
      Option.some.injEq, exists_eq_left']
    cases tree with
    | scalar content =>
        have seen := one.unfolds_scalar value content left
        have twinSeen := other.unfolds_scalar twin content right
        have shown := previews.scalar value twin content seen twinSeen
        rw [Json.scalar_kind]
        exact iff_of_true shown Bool.false_ne_true
    | array trees =>
        have differ := previews.container value twin _ left right rfl
        exact iff_of_false differ (not_not_intro rfl)
    | object members =>
        have differ := previews.container value twin _ left right rfl
        exact iff_of_false differ (not_not_intro rfl)

theorem agrees_items (items : List ν) (twins : List μ) (trees : List Json) (left : List.Forall₂ one.Unfolds items trees)
    (right : List.Forall₂ other.Unfolds twins trees) (first : Nat → ν → Survey) (second : Nat → μ → Survey)
    (each : ∀ position, ∀ item ∈ items, ∀ twin ∈ twins, ∀ tree ∈ trees, one.Unfolds item tree →
      other.Unfolds twin tree → (first position item).Agrees tree (second position twin)) :
    (Survey.all (items.zipIdx.map fun entry => (first entry.2 entry.1).below (.index entry.2))).Agrees
      (.array trees)
      (Survey.all (twins.zipIdx.map fun entry => (second entry.2 entry.1).below (.index entry.2))) := by
  obtain ⟨sized, unfolds⟩ := List.forall₂_iff_get.mp left
  obtain ⟨twinSized, twinUnfolds⟩ := List.forall₂_iff_get.mp right
  refine Survey.agrees_all _ _ _ (List.forall₂_iff_get.mpr ⟨?_, fun position inside _ => ?_⟩)
  · rw [List.length_map, List.length_map, List.length_zipIdx, List.length_zipIdx, sized, twinSized]
  · rw [List.length_map, List.length_zipIdx] at inside
    have placed : position < trees.length := sized ▸ inside
    have twinInside : position < twins.length := twinSized.symm ▸ placed
    simp only [List.get_eq_getElem, List.getElem_map, List.getElem_zipIdx, Nat.zero_add]
    refine Survey.agrees_below _ trees[position] _ (fun rest => ?_) _ _ ?_
    · exact Json.at_index trees position trees[position] rest (List.getElem?_eq_getElem placed)
    · have unfolded := unfolds position inside placed
      have twinUnfolded := twinUnfolds position twinInside placed
      exact each position _ (List.getElem_mem inside) _ (List.getElem_mem twinInside) _ (List.getElem_mem placed)
        unfolded twinUnfolded

theorem agrees_entries (entries : List (String × ν)) (twins : List (String × μ)) (members : List (String × Json))
    (distinct : (Entries.keys members).Nodup)
    (left : List.Forall₂ (fun entry member => entry.1 = member.1 ∧ one.Unfolds entry.2 member.2) entries members)
    (right : List.Forall₂ (fun entry member => entry.1 = member.1 ∧ other.Unfolds entry.2 member.2) twins members)
    (first : String → ν → Survey) (second : String → μ → Survey)
    (each : ∀ key, ∀ entry ∈ entries, ∀ twin ∈ twins, ∀ member ∈ members, one.Unfolds entry.2 member.2 →
      other.Unfolds twin.2 member.2 → (first key entry.2).Agrees member.2 (second key twin.2)) :
    (Survey.all (entries.map fun entry => (first entry.1 entry.2).below (.key entry.1))).Agrees (.object members)
      (Survey.all (twins.map fun entry => (second entry.1 entry.2).below (.key entry.1))) := by
  obtain ⟨sized, unfolds⟩ := List.forall₂_iff_get.mp left
  obtain ⟨twinSized, twinUnfolds⟩ := List.forall₂_iff_get.mp right
  refine Survey.agrees_all _ _ _ (List.forall₂_iff_get.mpr ⟨?_, fun position inside _ => ?_⟩)
  · rw [List.length_map, List.length_map, sized, twinSized]
  · rw [List.length_map] at inside
    have placed : position < members.length := sized ▸ inside
    have twinInside : position < twins.length := twinSized.symm ▸ placed
    obtain ⟨key, unfolded⟩ := unfolds position inside placed
    obtain ⟨twinKey, twinUnfolded⟩ := twinUnfolds position twinInside placed
    simp only [List.get_eq_getElem] at key unfolded twinKey twinUnfolded
    simp only [List.get_eq_getElem, List.getElem_map, key, twinKey]
    have found := get_distinct members distinct members[position] (List.getElem_mem placed)
    refine Survey.agrees_below _ members[position].2 _ (fun rest => ?_) _ _ ?_
    · exact Json.at_key members _ _ rest found
    · exact each _ _ (List.getElem_mem inside) _ (List.getElem_mem twinInside) _ (List.getElem_mem placed) unfolded
        twinUnfolded

theorem agrees_field (table : Table) (entered marks : List Nat) (field : Field) (entries : List (String × ν))
    (twins : List (String × μ)) (members : List (String × Json))
    (left : List.Forall₂ (fun entry member => entry.1 = member.1 ∧ one.Unfolds entry.2 member.2) entries members)
    (right : List.Forall₂ (fun entry member => entry.1 = member.1 ∧ other.Unfolds entry.2 member.2) twins members)
    (each : ∀ child twin tree, Entries.get? field.name entries = some child →
      Entries.get? field.name twins = some twin → Entries.get? field.name members = some tree →
      one.Unfolds child tree → other.Unfolds twin tree →
      (survey table one entered (some (.key field.name)) field.spec child).Agrees tree
        (survey table other marks (some (.key field.name)) field.spec twin)) :
    (surveyField table one entered entries field).Agrees (.object members)
      (surveyField table other marks twins field) := by
  cases placed : Entries.get? field.name members with
  | none =>
      have absent := get_paired_none one.Unfolds field.name entries members left placed
      have twinAbsent := get_paired_none other.Unfolds field.name twins members right placed
      rw [survey_field_absent _ _ _ _ _ absent, survey_field_absent _ _ _ _ _ twinAbsent]
      exact Survey.agrees_missing _ field
  | some tree =>
      obtain ⟨child, found, unfolds⟩ := get_paired_some one.Unfolds field.name entries members left tree placed
      obtain ⟨twin, twinFound, twinUnfolds⟩ := get_paired_some other.Unfolds field.name twins members right tree placed
      have kind := one.unfolds_kind child tree unfolds
      have twinKind := other.unfolds_kind twin tree twinUnfolds
      by_cases null : tree.kind = .null
      · rw [survey_field_null _ _ _ _ _ child found (kind.trans null),
          survey_field_null _ _ _ _ _ twin twinFound (twinKind.trans null)]
        exact Survey.agrees_null _ field
      · rw [survey_field_filled _ _ _ _ _ child found (kind ▸ null),
          survey_field_filled _ _ _ _ _ twin twinFound (twinKind ▸ null)]
        have inner := each child twin tree found twinFound placed unfolds twinUnfolds
        exact Survey.agrees_below _ tree _ (fun rest => Json.at_key members _ tree rest placed) _ _ inner

-- Two values that look like one tree. Which containers are entered may differ, as long as
-- both or neither of the values are.
structure Instance.Alike (entered marks : List Nat) (value : ν) (twin : μ) (tree : Json) : Prop where
  left : one.Ready entered value tree
  right : other.Ready marks twin tree
  marked : one.Marked entered value ↔ other.Marked marks twin
  distinct : tree.DistinctKeys

theorem alike_child (entered marks : List Nat) (value child : ν) (twin twinChild : μ) (tree inner : Json)
    (alike : one.Alike other entered marks value twin tree) (held : one.Holds value child)
    (twinHeld : other.Holds twin twinChild) (unfolds : one.Unfolds child inner)
    (twinUnfolds : other.Unfolds twinChild inner) (distinct : inner.DistinctKeys) :
    one.Alike other entered marks child twinChild inner where
  left := one.ready_child entered value child tree inner alike.left held unfolds
  right := other.ready_child marks twin twinChild tree inner alike.right twinHeld twinUnfolds
  marked := iff_of_false (one.ready_fresh entered value child tree alike.left held)
    (other.ready_fresh marks twin twinChild tree alike.right twinHeld)
  distinct := distinct

theorem alike_inside (entered marks : List Nat) (value : ν) (twin : μ) (tree : Json) (id twinId : Nat)
    (alike : one.Alike other entered marks value twin tree) (seen : (one.view value).identity? = some id)
    (twinSeen : (other.view twin).identity? = some twinId) :
    one.Alike other (id :: entered) (twinId :: marks) value twin tree where
  left := one.ready_inside entered value tree id alike.left seen
  right := other.ready_inside marks twin tree twinId alike.right twinSeen
  marked := iff_of_true ⟨id, List.mem_cons_self, seen⟩ ⟨twinId, List.mem_cons_self, twinSeen⟩
  distinct := alike.distinct

theorem alike_fresh (entered marks : List Nat) (value : ν) (twin : μ) (tree : Json) (id twinId : Nat)
    (alike : one.Alike other entered marks value twin tree) (seen : (one.view value).identity? = some id)
    (twinSeen : (other.view twin).identity? = some twinId) (fresh : id ∉ entered) : twinId ∉ marks := by
  intro listed
  obtain ⟨mark, known, same⟩ := alike.marked.mpr ⟨twinId, listed, twinSeen⟩
  rw [seen, Option.some.injEq] at same
  exact fresh (same ▸ known)

-- What two checks of one form of spec find, for the forms in the order of their definition.
section

variable (table : Table) (entered marks : List Nat) (last : Option Segment) (value : ν) (twin : μ) (tree : Json)
  (alike : one.Alike other entered marks value twin tree)
include alike

theorem agrees_primitive (kind : PrimitiveKind) :
    (survey table one entered last (.primitive kind) value).Agrees tree
      (survey table other marks last (.primitive kind) twin) := by
  have sort := one.unfolds_kind value tree alike.left.unfolds
  have twinSort := other.unfolds_kind twin tree alike.right.unfolds
  rw [survey, survey, Survey.leaf_primitive, Survey.leaf_primitive, sort, twinSort]
  by_cases accepted : kind.accepts tree.kind = true
  · rw [if_pos accepted]
    exact Survey.agrees_nothing tree
  · rw [if_neg accepted]
    apply Survey.agrees_single
    decide

theorem agrees_array_mismatch (item : Spec) (apart : tree.kind ≠ .array) :
    (survey table one entered last (.array item) value).Agrees tree
      (survey table other marks last (.array item) twin) := by
  have sort := one.unfolds_kind value tree alike.left.unfolds
  have twinSort := other.unfolds_kind twin tree alike.right.unfolds
  have differs : one.kind value ≠ .array := sort ▸ apart
  have twinDiffers : other.kind twin ≠ .array := twinSort ▸ apart
  rw [survey_array_mismatch table one _ _ value item differs,
    survey_array_mismatch table other _ _ twin item twinDiffers, sort, twinSort]
  apply Survey.agrees_mismatch

theorem agrees_shape_mismatch (fields : List Field) (exact : Bool) (apart : tree.kind ≠ .object) :
    (survey table one entered last (.shape fields exact) value).Agrees tree
      (survey table other marks last (.shape fields exact) twin) := by
  have sort := one.unfolds_kind value tree alike.left.unfolds
  have twinSort := other.unfolds_kind twin tree alike.right.unfolds
  have differs : one.kind value ≠ .object := sort ▸ apart
  have twinDiffers : other.kind twin ≠ .object := twinSort ▸ apart
  rw [survey_shape_mismatch table one _ _ value fields exact differs,
    survey_shape_mismatch table other _ _ twin fields exact twinDiffers, sort, twinSort]
  apply Survey.agrees_mismatch

theorem agrees_map_mismatch (values : Spec) (apart : tree.kind ≠ .object) :
    (survey table one entered last (.map values) value).Agrees tree
      (survey table other marks last (.map values) twin) := by
  have sort := one.unfolds_kind value tree alike.left.unfolds
  have twinSort := other.unfolds_kind twin tree alike.right.unfolds
  have differs : one.kind value ≠ .object := sort ▸ apart
  have twinDiffers : other.kind twin ≠ .object := twinSort ▸ apart
  rw [survey_map_mismatch table one _ _ value values differs,
    survey_map_mismatch table other _ _ twin values twinDiffers, sort, twinSort]
  apply Survey.agrees_mismatch

theorem agrees_array (item : Spec) (trees : List Json) (same : tree = .array trees)
    (each : ∀ position child twinChild inner, one.Alike other entered marks child twinChild inner →
      (survey table one entered (some (.index position)) item child).Agrees inner
        (survey table other marks (some (.index position)) item twinChild)) :
    (survey table one entered last (.array item) value).Agrees tree
      (survey table other marks last (.array item) twin) := by
  subst same
  obtain ⟨id, items, seen, unfold⟩ := one.unfolds_array value trees alike.left.unfolds
  obtain ⟨twinId, twins, twinSeen, twinUnfold⟩ := other.unfolds_array twin trees alike.right.unfolds
  rw [survey_array _ _ _ _ _ item id items seen, survey_array _ _ _ _ _ item twinId twins twinSeen]
  refine agrees_items one other items twins trees unfold twinUnfold
    (fun position => survey table one entered (some (.index position)) item)
    (fun position => survey table other marks (some (.index position)) item) ?_
  intro position child listed twinChild twinListed inner innerListed unfolds twinUnfolds
  have held := one.holds_item value id items child seen listed
  have twinHeld := other.holds_item twin twinId twins twinChild twinSeen twinListed
  have distinct := Json.distinct_item trees alike.distinct inner innerListed
  apply each
  exact alike_child one other entered marks value child twin twinChild _ inner alike held twinHeld unfolds
    twinUnfolds distinct

theorem agrees_shape (fields : List Field) (exact : Bool) (members : List (String × Json)) (same : tree = .object members)
    (each : ∀ field ∈ fields, ∀ child twinChild inner,
      one.Alike other entered marks child twinChild inner →
      (survey table one entered (some (.key field.name)) field.spec child).Agrees inner
        (survey table other marks (some (.key field.name)) field.spec twinChild)) :
    (survey table one entered last (.shape fields exact) value).Agrees tree
      (survey table other marks last (.shape fields exact) twin) := by
  subst same
  obtain ⟨id, entries, seen, keys, unfold⟩ := one.unfolds_object value members alike.left.unfolds
  obtain ⟨twinId, twins, twinSeen, twinKeys, twinUnfold⟩ := other.unfolds_object twin members alike.right.unfolds
  have paired := entries_paired _ _ _ keys unfold
  have twinPaired := entries_paired _ _ _ twinKeys twinUnfold
  rw [survey_shape _ _ _ _ _ fields exact id entries seen,
    survey_shape _ _ _ _ _ fields exact twinId twins twinSeen]
  apply Survey.agrees_and_then
  · apply Survey.agrees_all
    refine List.forall₂_map_left_iff.mpr (List.forall₂_map_right_iff.mpr ?_)
    refine List.forall₂_same.mpr fun field listed => ?_
    refine agrees_field one other table entered marks field entries twins members paired twinPaired ?_
    intro child twinChild inner found twinFound placed unfolds twinUnfolds
    have held := one.holds_entry value id entries _ seen (Entries.get_mem _ _ _ found)
    have twinHeld := other.holds_entry twin twinId twins _ twinSeen (Entries.get_mem _ _ _ twinFound)
    have distinct := Json.distinct_entry members alike.distinct.2 _ (Entries.get_mem _ _ _ placed)
    apply each field listed
    exact alike_child one other entered marks value child twin twinChild _ inner alike held twinHeld unfolds
      twinUnfolds distinct
  · rw [keys, twinKeys]
    cases exact with
    | true => exact Survey.agrees_undeclared _ fields _
    | false => exact Survey.agrees_nothing _

theorem agrees_map (values : Spec) (members : List (String × Json)) (same : tree = .object members)
    (each : ∀ key child twinChild inner, one.Alike other entered marks child twinChild inner →
      (survey table one entered (some (.key key)) values child).Agrees inner
        (survey table other marks (some (.key key)) values twinChild)) :
    (survey table one entered last (.map values) value).Agrees tree
      (survey table other marks last (.map values) twin) := by
  subst same
  obtain ⟨id, entries, seen, keys, unfold⟩ := one.unfolds_object value members alike.left.unfolds
  obtain ⟨twinId, twins, twinSeen, twinKeys, twinUnfold⟩ := other.unfolds_object twin members alike.right.unfolds
  have paired := entries_paired _ _ _ keys unfold
  have twinPaired := entries_paired _ _ _ twinKeys twinUnfold
  rw [survey_map _ _ _ _ _ values id entries seen, survey_map _ _ _ _ _ values twinId twins twinSeen]
  refine agrees_entries one other entries twins members alike.distinct.1 paired twinPaired
    (fun key => survey table one entered (some (.key key)) values)
    (fun key => survey table other marks (some (.key key)) values) ?_
  intro key entry listed twinEntry twinListed member placed unfolds twinUnfolds
  have held := one.holds_entry value id entries entry seen listed
  have twinHeld := other.holds_entry twin twinId twins twinEntry twinSeen twinListed
  have distinct := Json.distinct_entry members alike.distinct.2 member placed
  apply each
  exact alike_child one other entered marks value entry.2 twin twinEntry.2 _ member.2 alike held twinHeld unfolds
    twinUnfolds distinct

theorem agrees_reference_scalar (previews : one.PreviewsAgree other) (name : String) (target : Spec)
    (found : table.get? name = some target) (content : Scalar) (same : tree = .scalar content) :
    (survey table one entered last (.reference name) value).Agrees tree
      (survey table other marks last (.reference name) twin) := by
  subst same
  have seen := one.unfolds_scalar value content alike.left.unfolds
  have twinSeen := other.unfolds_scalar twin content alike.right.unfolds
  by_cases null : content = .null
  · subst null
    rw [survey_reference_null table one _ _ name target value found seen,
      survey_reference_null table other _ _ name target twin found twinSeen]
    exact Survey.agrees_nothing _
  · have shown := previews.scalar value twin content seen twinSeen
    rw [survey_reference_scalar table one _ _ name target value content found seen null,
      survey_reference_scalar table other _ _ name target twin content found twinSeen null, shown]
    apply Survey.agrees_single
    decide

theorem agrees_reference_container (name : String) (target : Spec) (found : table.get? name = some target)
    (id : Nat) (seen : (one.view value).identity? = some id) (container : tree.kind.isContainer = true)
    (each : id ∉ entered → ∀ twinId, one.Alike other (id :: entered) (twinId :: marks) value twin tree →
      (survey table one (id :: entered) last target value).Agrees tree
        (survey table other (twinId :: marks) last target twin)) :
    (survey table one entered last (.reference name) value).Agrees tree
      (survey table other marks last (.reference name) twin) := by
  obtain ⟨twinId, twinSeen⟩ := other.unfolds_container twin tree alike.right.unfolds container
  by_cases known : id ∈ entered
  · obtain ⟨mark, listed, same⟩ := alike.marked.mp ⟨id, known, seen⟩
    rw [survey_reference_again table one _ _ name target value id found seen known,
      survey_reference_again table other _ _ name target twin mark found same listed]
    exact Survey.agrees_nothing _
  · have twinFresh := alike_fresh one other entered marks value twin tree id twinId alike seen twinSeen known
    have inside := alike_inside one other entered marks value twin tree id twinId alike seen twinSeen
    rw [survey_reference_fresh table one _ _ name target value id found seen known,
      survey_reference_fresh table other _ _ name target twin twinId found twinSeen twinFresh]
    apply Survey.agrees_through
    exact each known twinId inside

end

theorem survey_agrees (table : Table) (previews : one.PreviewsAgree other) (entered marks : List Nat)
    (last : Option Segment) (spec : Spec) (value : ν) (twin : μ) (tree : Json)
    (alike : one.Alike other entered marks value twin tree) :
    (survey table one entered last spec value).Agrees tree (survey table other marks last spec twin) := by
  induction entered, last, spec, value using survey_induction table one generalizing marks twin tree with
  | primitive entered last kind value =>
      exact agrees_primitive one other table entered marks last value twin tree alike kind
  | enum entered last allowed value =>
      rw [survey, survey]
      exact agrees_enum one other previews allowed value twin tree alike.left.unfolds alike.right.unfolds
  | array entered last item value ih =>
      cases tree with
      | scalar content =>
          have apart := Json.scalar_not_array content
          exact agrees_array_mismatch one other table entered marks last value twin _ alike item apart
      | array trees =>
          exact agrees_array one other table entered marks last value twin _ alike item trees rfl
            fun position child twinChild inner next => ih position child marks twinChild inner next
      | object members =>
          exact agrees_array_mismatch one other table entered marks last value twin _ alike item Kind.noConfusion
  | shape entered last fields exact value ih =>
      cases tree with
      | scalar content =>
          have apart := Json.scalar_not_object content
          exact agrees_shape_mismatch one other table entered marks last value twin _ alike fields exact apart
      | array trees =>
          exact agrees_shape_mismatch one other table entered marks last value twin _ alike fields exact Kind.noConfusion
      | object members =>
          exact agrees_shape one other table entered marks last value twin _ alike fields exact members rfl
            fun field listed child twinChild inner next => ih field listed child marks twinChild inner next
  | map entered last values value ih =>
      cases tree with
      | scalar content =>
          have apart := Json.scalar_not_object content
          exact agrees_map_mismatch one other table entered marks last value twin _ alike values apart
      | array trees =>
          exact agrees_map_mismatch one other table entered marks last value twin _ alike values Kind.noConfusion
      | object members =>
          exact agrees_map one other table entered marks last value twin _ alike values members rfl
            fun key child twinChild inner next => ih key child marks twinChild inner next
  | reference entered last name value ih =>
      cases found : table.get? name with
      | none =>
          rw [survey_reference_unknown table one _ _ name value found,
            survey_reference_unknown table other _ _ name twin found]
          exact ⟨rfl, .nil⟩
      | some target =>
          rcases one.unfolds_cases value tree alike.left.unfolds with ⟨content, same, seen⟩ | ⟨container, id, seen⟩
          · exact agrees_reference_scalar one other table entered marks last value twin tree alike previews name
              target found content same
          · refine agrees_reference_container one other table entered marks last value twin tree alike name target
              found id seen container ?_
            intro fresh twinId inside
            exact ih target id found seen fresh (twinId :: marks) twin tree inside

end

end ShapeCheck
