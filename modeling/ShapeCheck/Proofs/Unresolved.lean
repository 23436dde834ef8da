import ShapeCheck.Proofs.Dependence

set_option autoImplicit false

namespace ShapeCheck

namespace Spec

mutual
def DistinctFields : Spec → Prop
  | .primitive _ => True
  | .enum _ => True
  | .array item => DistinctFields item
  | .shape fields _ => (fields.map Field.name).Nodup ∧ DistinctWithin fields
  | .map values => DistinctFields values
  | .reference _ => True
def DistinctWithin : List Field → Prop
  | [] => True
  | ⟨_, spec, _⟩ :: rest => DistinctFields spec ∧ DistinctWithin rest
end

theorem distinct_field (fields : List Field) (distinct : DistinctWithin fields) (field : Field) (declared : field ∈ fields) :
    field.spec.DistinctFields := by
  induction fields with
  | nil => simp at declared
  | cons first rest ih =>
      rcases first with ⟨name, spec, required⟩
      rcases List.mem_cons.mp declared with same | later
      · exact same ▸ distinct.1
      · exact ih distinct.2 later

theorem distinct_within (fields : List Field) (each : ∀ field ∈ fields, field.spec.DistinctFields) :
    DistinctWithin fields := by
  induction fields with
  | nil => trivial
  | cons first rest ih =>
      rcases first with ⟨name, spec, required⟩
      rw [List.forall_mem_cons] at each
      exact ⟨each.1, ih each.2⟩

theorem references_field (fields : List Field) (reference : String) (used : reference ∈ fieldReferences fields) :
    ∃ field ∈ fields, reference ∈ field.spec.references := by
  induction fields with
  | nil => simp [fieldReferences] at used
  | cons first rest ih =>
      rcases first with ⟨name, spec, required⟩
      rw [fieldReferences, List.mem_append] at used
      rcases used with here | later
      · exact ⟨_, List.mem_cons_self, here⟩
      · obtain ⟨field, declared, inside⟩ := ih later
        exact ⟨field, List.mem_cons_of_mem _ declared, inside⟩

end Spec

def Table.FieldsDistinct (table : Table) : Prop := ∀ entry ∈ table.entries, entry.2.DistinctFields

section

variable {ν : Type} (table : Table) (data : Instance ν) (names : Set String) (closed : table.ClosedOn names)
include closed

theorem calls_within (outer inner : Visit ν) (calls : Calls table data outer inner) (within : outer.spec.Within names) :
    inner.spec.Within names := by
  cases calls with
  | part progress segment whole part value child asked =>
      have asks := part_asks data segment whole part value child asked
      intro reference used
      exact within reference (asks_references data whole part value child asks used)
  | follow progress name target value id found seen fresh =>
      have named : name ∈ names := within name List.mem_cons_self
      exact closed name named target found

theorem reached_within (start visit : Visit ν) (within : start.spec.Within names) (reached : Reached table data start visit) :
    visit.spec.Within names := by
  induction reached with
  | refl => exact within
  | tail _ calls ih => exact calls_within table data names closed _ _ calls ih

end

section

variable {ν : Type} (table : Table) (data : Instance ν)

theorem answer_dangling (start : Visit ν) (clean : start.progress.violations = [])
    (within : start.spec.Within {name | name ∈ table.references}) (failure : Unresolved)
    (failed : start.answer table data = .error failure) : failure.name ∈ table.dangling := by
  rw [answer_failed table data start clean] at failed
  obtain ⟨visit, reached, reference, unknown, _⟩ := failed_reached table data start failure failed
  have inside := reached_within table data _ table.closed_references start visit within reached
  have used : failure.name ∈ table.references := by
    apply inside
    rw [reference]
    exact List.mem_cons_self
  exact (table.mem_dangling failure.name).mpr ⟨used, unknown⟩

variable (entry : String) (filled : table.contains entry = true) (value : ν)
include filled

theorem entry_fails_dangling (failure : Unresolved)
    (failed : table.checkEntry data entry value = .error failure ∨ table.checkEntryExactly data entry value = .error failure) :
    failure.name ∈ table.dangling := by
  obtain ⟨spec, found⟩ := (table.contains_iff entry).mp filled
  have used := table.entry_within entry spec found
  rcases failed with whole | property
  · rw [table.check_entry_survey data entry spec value found, table.check_answer] at whole
    exact answer_dangling table data _ (at_root_clean data spec value) used failure whole
  · rw [table.check_entry_exactly_answer data entry spec value found] at property
    have exactly := within_exactly _ spec used
    exact answer_dangling table data _ (as_property_clean data entry spec.exactly value) exactly failure property

theorem entry_passes (none : table.dangling = []) :
    (∃ found, table.checkEntry data entry value = .ok found) ∧
      ∃ found, table.checkEntryExactly data entry value = .ok found := by
  have never := entry_fails_dangling table data entry filled value
  rw [none] at never
  constructor
  · cases ran : table.checkEntry data entry value with
    | ok found => exact ⟨found, rfl⟩
    | error failure => exact absurd (never failure (.inl ran)) List.not_mem_nil
  · cases ran : table.checkEntryExactly data entry value with
    | ok found => exact ⟨found, rfl⟩
    | error failure => exact absurd (never failure (.inr ran)) List.not_mem_nil

end

theorem Survey.all_fails (parts : List Survey) (failure : Unresolved)
    (each : ∀ part ∈ parts, part.failure = none ∨ part.failure = some failure) (part : Survey) (listed : part ∈ parts)
    (failed : part.failure = some failure) : (all parts).failure = some failure := by
  induction parts with
  | nil => simp at listed
  | cons first rest ih =>
      rw [List.forall_mem_cons] at each
      rw [all_cons]
      rcases each.1 with passed | fails
      · rw [and_then_passed first _ passed]
        rcases List.mem_cons.mp listed with same | later
        · rw [← same, failed] at passed
          contradiction
        · exact ih each.2 later
      · rw [and_then_failed first _ failure fails]
        exact fails

def Exposes (table : Table) (name : String) (spec : Spec) (tree : Json) (path : Path) : Prop :=
  ∀ (ν : Type) (data : Instance ν) (entered : List Nat) (last : Option Segment) (value : ν), data.Unfolds value tree →
    (survey table data entered last spec value).failure = some ⟨name, path⟩

section

variable (table : Table) (name : String) (tree : Json) (path : Path)

theorem exposes_reference (absent : table.get? name = none) : Exposes table name (.reference name) (.object []) [] := by
  intro ν data entered last value _
  rw [survey_reference_unknown table data entered last name value absent]
  rfl

theorem exposes_array (item : Spec) (inner : Exposes table name item tree path) :
    Exposes table name (.array item) (.array [tree]) (.index 0 :: path) := by
  intro ν data entered last value unfolds
  obtain ⟨id, child, seen, unfolded⟩ := data.unfolds_one_item value tree unfolds
  have failed : ((survey table data entered (some (.index 0)) item child).below (.index 0)).failure =
      some ⟨name, .index 0 :: path⟩ := by
    rw [Survey.below, inner ν data entered _ child unfolded]
    rfl
  rw [survey_array _ _ _ _ _ item id [child] seen, List.zipIdx_singleton, List.map_singleton, Survey.all_cons,
    Survey.and_then_failed _ _ _ failed]
  exact failed

theorem exposes_map (values : Spec) (key : String) (inner : Exposes table name values tree path) :
    Exposes table name (.map values) (.object [(key, tree)]) (.key key :: path) := by
  intro ν data entered last value unfolds
  obtain ⟨id, child, seen, unfolded⟩ := data.unfolds_one_entry value key tree unfolds
  have failed : ((survey table data entered (some (.key key)) values child).below (.key key)).failure =
      some ⟨name, .key key :: path⟩ := by
    rw [Survey.below, inner ν data entered _ child unfolded]
    rfl
  rw [survey_map _ _ _ _ _ values id [(key, child)] seen, List.map_singleton, Survey.all_cons,
    Survey.and_then_failed _ _ _ failed]
  exact failed

theorem exposes_shape (fields : List Field) (exact : Bool) (field : Field) (declared : field ∈ fields)
    (distinct : (fields.map Field.name).Nodup) (filled : tree.kind ≠ .null) (inner : Exposes table name field.spec tree path) :
    Exposes table name (.shape fields exact) (.object [(field.name, tree)]) (.key field.name :: path) := by
  intro ν data entered last value unfolds
  obtain ⟨id, child, seen, unfolded⟩ := data.unfolds_one_entry value field.name tree unfolds
  have failed : (surveyField table data entered [(field.name, child)] field).failure =
      some ⟨name, .key field.name :: path⟩ := by
    have sort := data.unfolds_kind child tree unfolded
    have found : Entries.get? field.name [(field.name, child)] = some child := if_pos rfl
    rw [survey_field_filled _ _ _ _ field child found (sort ▸ filled), Survey.below,
      inner ν data entered _ child unfolded]
    rfl
  have others : ∀ other ∈ fields, (surveyField table data entered [(field.name, child)] other).failure = none ∨
      (surveyField table data entered [(field.name, child)] other).failure = some ⟨name, .key field.name :: path⟩ := by
    intro other listed
    by_cases named : other.name = field.name
    · have one := List.inj_on_of_nodup_map distinct listed declared named
      exact .inr (one ▸ failed)
    · have absent : Entries.get? other.name [(field.name, child)] = none := if_neg (Ne.symm named)
      rw [survey_field_absent _ _ _ _ other absent]
      exact .inl rfl
  have fails := Survey.all_fails (fields.map (surveyField table data entered [(field.name, child)])) _
    (List.forall_mem_map.mpr others) _ (List.mem_map_of_mem declared) failed
  rw [survey_shape _ _ _ _ _ fields exact id _ seen, Survey.and_then_failed _ _ _ fails]
  exact fails

end

-- Each place where a name is used can be come to by a tree that has nothing on the way there
-- but what leads to it.
theorem reference_exposed (table : Table) (name : String) (absent : table.get? name = none) (spec : Spec)
    (distinct : spec.DistinctFields) (used : name ∈ spec.references) :
    ∃ tree path, tree.DistinctKeys ∧ tree.kind ≠ .null ∧ Exposes table name spec tree path := by
  induction spec using spec_induction with
  | primitive kind => contradiction
  | enum allowed => contradiction
  | array item ih =>
      obtain ⟨tree, path, keys, _, inner⟩ := ih distinct used
      exact ⟨.array [tree], _, ⟨keys, trivial⟩, Kind.noConfusion, exposes_array table name tree path item inner⟩
  | shape fields exact ih =>
      obtain ⟨field, declared, inside⟩ := Spec.references_field fields name used
      have part := Spec.distinct_field fields distinct.2 field declared
      obtain ⟨tree, path, keys, filled, inner⟩ := ih field declared part inside
      have exposed := exposes_shape table name tree path fields exact field declared distinct.1 filled inner
      exact ⟨.object [(field.name, tree)], _, ⟨List.nodup_singleton _, keys, trivial⟩, Kind.noConfusion, exposed⟩
  | map values ih =>
      obtain ⟨tree, path, keys, _, inner⟩ := ih distinct used
      have exposed := exposes_map table name tree path values "" inner
      exact ⟨.object [("", tree)], _, ⟨List.nodup_singleton _, keys, trivial⟩, Kind.noConfusion, exposed⟩
  | reference other =>
      obtain rfl : name = other := List.mem_singleton.mp used
      exact ⟨.object [], [], ⟨.nil, trivial⟩, Kind.noConfusion, exposes_reference table name absent⟩

theorem unresolved_exactly_dangling (table : Table) (built : table.Built) :
    (∀ (ν : Type) (data : Instance ν) (entry : String) (value : ν) (failure : Unresolved), table.contains entry = true →
      table.checkEntry data entry value = .error failure ∨ table.checkEntryExactly data entry value = .error failure →
        failure.name ∈ table.dangling) ∧
    (table.dangling = [] → ∀ (ν : Type) (data : Instance ν) (entry : String) (value : ν), table.contains entry = true →
      (∃ found, table.checkEntry data entry value = .ok found) ∧
        ∃ found, table.checkEntryExactly data entry value = .ok found) ∧
    (table.FieldsDistinct → ∀ name ∈ table.dangling, ∃ entry value path, table.contains entry = true ∧
      value.DistinctKeys ∧
        table.checkEntry (Tree.data value.size) entry (Tree.root value) = .error ⟨name, path⟩) ∧
    table.dangling.Nodup := by
  refine ⟨fun ν data entry value failure filled => ?_, fun none ν data entry value filled => ?_,
    fun distinct name dangles => ?_, table.dangling_distinct⟩
  · exact entry_fails_dangling table data entry filled value failure
  · exact entry_passes table data entry filled value none
  · obtain ⟨used, absent⟩ := (table.mem_dangling name).mp dangles
    obtain ⟨⟨entry, spec⟩, listed, inside⟩ := List.mem_flatMap.mp used
    have found := table.entry_get (table.built_distinct built) entry spec listed
    obtain ⟨value, path, keys, _, exposes⟩ := reference_exposed table name absent spec (distinct _ listed) inside
    refine ⟨entry, value, path, (table.contains_iff entry).mpr ⟨spec, found⟩, keys, ?_⟩
    rw [table.check_entry_survey _ entry spec _ found, Table.check_survey, Survey.violations,
      exposes _ (Tree.data value.size) _ none (Tree.root value) (Tree.root_unfolds value)]

def Table.shelf : Table :=
  ((Table.empty.insert "shelf" (.shape [⟨"books", .array (.reference "book"), true⟩,
    ⟨"labels", .map (.reference "label"), false⟩] false)).1.insert "label" (.primitive .object)).1

theorem shelf_unresolved :
    Table.shelf.Built ∧ Table.shelf.FieldsDistinct ∧ Table.shelf.dangling = ["book"] ∧
      (∃ entry value path, Table.shelf.contains entry = true ∧ value.DistinctKeys ∧
        Table.shelf.checkEntry (Tree.data value.size) entry (Tree.root value) = .error ⟨"book", path⟩) ∧
      ∀ failure, Table.shelf.checkEntryExactly Heap.ring.data "shelf" (.container 0) = .error failure →
        failure.name = "book" := by
  have built : Table.shelf.Built := Table.built_insert _ _ _ (Table.built_insert _ _ _ .empty)
  have distinct : Table.shelf.FieldsDistinct := by
    intro entry listed
    rcases List.mem_pair.mp listed with same | same
    · subst same
      exact ⟨by decide, trivial, trivial, trivial⟩
    · subst same
      exact trivial
  have dangles : Table.shelf.dangling = ["book"] := by decide
  obtain ⟨fails, _, exposed, _⟩ := unresolved_exactly_dangling Table.shelf built
  refine ⟨built, distinct, dangles, exposed distinct "book" (by simp [dangles]), fun failure failed => ?_⟩
  have named := fails Datum Heap.ring.data "shelf" (.container 0) failure rfl (.inr failed)
  rw [dangles] at named
  exact List.mem_singleton.mp named

end ShapeCheck
