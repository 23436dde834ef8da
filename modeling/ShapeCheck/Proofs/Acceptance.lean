import ShapeCheck.Proofs.Conformance
import ShapeCheck.Proofs.Reports

set_option autoImplicit false

namespace ShapeCheck

variable {ν : Type}

section

variable (table : Table) (data : Instance ν)

-- Conformance in which each reference that is asked about has an entry, even where the value
-- is null and the entry is not looked at.
def ConformsNamed (spec : Spec) (value : ν) : Prop :=
  ∃ related : Spec → ν → Prop, related spec value ∧ Closed table data related ∧
    ∀ name value, related (.reference name) value → table.contains name = true

theorem part_asks (segment : Segment) (whole part : Spec) (value child : ν)
    (asked : Part data segment whole value part child) : Asks data whole value part child := by
  cases asked with
  | item _ _ id items position _ seen placed =>
      exact .item part value id items child seen (List.mem_of_getElem? placed)
  | entry _ _ id entries key _ seen listed => exact .entry part value id entries (key, child) seen listed
  | field fields exact _ id entries field _ seen declared found filled =>
      exact .field fields exact value id entries field child seen declared found filled

theorem calls_related (related : Spec → ν → Prop) (closed : Closed table data related) (outer inner : Visit ν)
    (calls : Calls table data outer inner) (holds : related outer.spec outer.value) :
    related inner.spec inner.value := by
  have step := closed outer.spec outer.value holds
  cases calls with
  | part progress segment whole part value child asked =>
      have asks := part_asks data segment whole part value child asked
      exact step_asks table data related whole part value child step asks
  | follow progress name target value id found seen fresh =>
      rcases step with null | ⟨other, _, again, _, inside⟩
      · rw [null] at seen
        contradiction
      · rw [found, Option.some.injEq] at again
        exact again ▸ inside

theorem reached_related (related : Spec → ν → Prop) (closed : Closed table data related) (start visit : Visit ν)
    (holds : related start.spec start.value) (reached : Reached table data start visit) :
    related visit.spec visit.value := by
  induction reached with
  | refl => exact holds
  | tail _ calls ih => exact calls_related table data related closed _ _ calls ih

theorem step_flawless (related : Spec → ν → Prop) (last : Option Segment) (spec : Spec) (value : ν) (flaw : Violation)
    (step : OneStep table data related spec value) : ¬ Flaw table data last spec value flaw := by
  intro wrong
  cases wrong with
  | primitive kind _ refused => exact absurd step (by simp [OneStep, refused])
  | enum allowed _ other =>
      obtain ⟨literal, listed, equal⟩ := List.any_eq_true.mp step
      exact absurd equal (by simp [other literal listed])
  | array item _ apart =>
      obtain ⟨id, items, seen, _⟩ := step
      exact apart (by rw [Instance.kind, seen]; rfl)
  | shape fields exact _ apart =>
      obtain ⟨id, entries, seen, _⟩ := step
      exact apart (by rw [Instance.kind, seen]; rfl)
  | map values _ apart =>
      obtain ⟨id, entries, seen, _⟩ := step
      exact apart (by rw [Instance.kind, seen]; rfl)
  | reference name target _ content found seen filled =>
      rcases step with null | ⟨other, id, _, entered, _⟩
      · rw [seen, Layer.scalar.injEq] at null
        exact filled null
      · rw [seen] at entered
        contradiction
  | missing fields exact _ id entries field seen declared required absent =>
      obtain ⟨other, others, again, each, _⟩ := step
      rw [seen] at again
      cases again
      have held := each field declared
      rw [FieldStep, absent, required] at held
      contradiction
  | null fields exact _ id entries field child seen declared required found null =>
      obtain ⟨other, others, again, each, _⟩ := step
      rw [seen] at again
      cases again
      have held := each field declared
      simp [FieldStep, found, null, required] at held
  | undeclared fields _ id entries key seen listed unknown =>
      obtain ⟨other, others, again, _, exactly⟩ := step
      rw [seen] at again
      cases again
      obtain ⟨field, declared, named⟩ := List.any_eq_true.mp (exactly rfl key listed)
      exact unknown field declared (by simpa using named)

theorem named_clean (spec : Spec) (root : ν) (conforms : ConformsNamed table data spec root) :
    table.check data spec root = .ok [] := by
  obtain ⟨related, holds, closed, named⟩ := conforms
  have there : ∀ visit, Reached table data (.atRoot data spec root) visit → related visit.spec visit.value :=
    fun visit => reached_related table data related closed _ visit holds
  rw [table.check_answer, answer_passed _ _ _ (at_root_clean data spec root)]
  constructor
  · refine Option.eq_none_iff_forall_not_mem.mpr fun failure ended => ?_
    obtain ⟨visit, reached, reference, unknown, _⟩ := failed_reached table data _ failure ended
    have known := named failure.name visit.value (reference ▸ there visit reached)
    rw [Table.contains, unknown] at known
    contradiction
  · refine List.eq_nil_iff_forall_not_mem.mpr fun violation listed => ?_
    obtain ⟨visit, reached, flaw, wrong, _⟩ := reported_reached table data _ violation listed
    have step := closed visit.spec visit.value (there visit reached)
    exact step_flawless table data related _ visit.spec visit.value flaw step wrong

theorem asks_references (whole part : Spec) (value child : ν) (asks : Asks data whole value part child) :
    part.references ⊆ whole.references := by
  cases asks with
  | item => exact List.Subset.refl _
  | entry => exact List.Subset.refl _
  | field fields exact _ id entries field _ seen listed found filled =>
      intro reference used
      exact field_references fields field listed reference used

theorem conforms_named (resolves : table.Resolves) (spec : Spec) (value : ν)
    (known : ∀ reference ∈ spec.references, table.contains reference = true) (conforms : Conforms table data spec value) :
    ConformsNamed table data spec value := by
  refine ⟨fun part child => Conforms table data part child ∧
    ∀ reference ∈ part.references, table.contains reference = true, ⟨conforms, known⟩, ?_, ?_⟩
  · intro part child both
    obtain ⟨here, names⟩ := both
    have step := conforms_step table data part child here
    cases part with
    | reference name =>
        rcases step with null | ⟨target, id, found, seen, inner⟩
        · exact .inl null
        · exact .inr ⟨target, id, found, seen, inner, resolves name target found⟩
    | _ =>
        apply step_transfer table data _ _ _ child step rfl
        intro inner deeper asks
        have inside := step_asks table data _ _ inner child deeper step asks
        exact ⟨inside, fun reference used => names reference (asks_references data _ inner child deeper asks used)⟩
  · intro name child both
    exact both.2 name List.mem_cons_self

-- Where all references are to one entry, a check knows what a container on its stack is being
-- checked against, because that is always the one entry.
theorem walk_one_entry (name : String) (spec : Spec) (root : ν) (entry : table.get? name = some spec)
    (inner : spec.isReference = false) (only : ∀ reference ∈ spec.references, reference = name) (stack : Stack)
    (part : Spec) (value : ν) (walk : Walk table data spec root stack part value) :
    (∀ reference ∈ part.references, reference = name) ∧ ∀ mark ∈ stack, mark.2 = spec := by
  induction walk with
  | start =>
      refine ⟨only, fun mark listed => ?_⟩
      rw [startStack, inner, if_neg Bool.false_ne_true] at listed
      obtain ⟨id, _, same⟩ := List.mem_map.mp listed
      exact same ▸ rfl
  | part stack whole part value child here asks ih =>
      refine ⟨fun reference used => ?_, ih.2⟩
      exact ih.1 reference (asks_references data whole part value child asks used)
  | follow stack link target value id here found seen fresh ih =>
      have named : link = name := ih.1 link List.mem_cons_self
      rw [named, entry, Option.some.injEq] at found
      subst found
      exact ⟨only, List.forall_mem_cons.mpr ⟨rfl, ih.2⟩⟩

theorem one_entry_unskipped (name : String) (spec : Spec) (root : ν) (entry : table.get? name = some spec)
    (inner : spec.isReference = false) (only : ∀ reference ∈ spec.references, reference = name) (target : Spec)
    (container : ν) : ¬ Skipped table data spec root target container := by
  intro skipped
  obtain ⟨stack, link, id, walk, found, seen, marked, unlisted⟩ := skipped
  obtain ⟨names, marks⟩ := walk_one_entry table data name spec root entry inner only stack _ container walk
  have named : link = name := names link List.mem_cons_self
  rw [named, entry, Option.some.injEq] at found
  obtain ⟨mark, listed, same⟩ := List.mem_map.mp marked
  have whole : mark = (id, target) := Prod.ext same ((marks mark listed).trans found)
  exact unlisted (whole ▸ listed)

theorem clean_conforms (single : ∀ value other id, (data.view value).identity? = some id →
      (data.view other).identity? = some id → value = other)
    (name : String) (spec : Spec) (root : ν) (entry : table.get? name = some spec) (inner : spec.isReference = false)
    (only : ∀ reference ∈ spec.references, reference = name) (clean : table.check data spec root = .ok []) :
    Conforms table data spec root := by
  have quiet : Quiet table data ((startStack data spec root).map Prod.fst) spec root := by
    rw [Table.check_survey, Survey.violations_passed] at clean
    exact ⟨none, start_stack_marks data spec root ▸ clean⟩
  have unskipped := one_entry_unskipped table data name spec root entry inner only
  have closed := walk_closed table data single spec root quiet
    fun target container skipped => absurd skipped (unskipped target container)
  exact ⟨_, .inl ⟨_, .start⟩, closed⟩

end

def Table.RefersOnlyTo (table : Table) (name : String) : Prop := ∀ reference ∈ table.references, reference = name

theorem entry_refers (table : Table) (name : String) (refers : table.RefersOnlyTo name) (other : String) (spec : Spec)
    (entry : table.get? other = some spec) (reference : String) (used : reference ∈ spec.references) :
    reference = name := by
  apply refers
  exact List.mem_flatMap.mpr ⟨(other, spec), table.get_entry other spec entry, used⟩

-- What conforms is never reported on, however the data is linked. Where all references are to
-- the one definition that is checked, what is not reported on conforms.
theorem conforming_clean (table : Table) (heap : Heap) :
    (∀ spec root, ConformsNamed table heap.data spec root → table.check heap.data spec root = .ok []) ∧
    ∀ name spec, table.RefersOnlyTo name → table.get? name = some spec → spec.isReference = false →
      ∀ root, table.checkEntry heap.data name root = .ok [] ↔ ConformsNamed table heap.data spec root := by
  constructor
  · intro spec root
    exact named_clean table heap.data spec root
  · intro name spec refers entry inner root
    have only := entry_refers table name refers name spec entry
    have present : table.contains name = true := by rw [Table.contains, entry]; rfl
    have resolves : table.Resolves := by
      intro other target found reference used
      rw [entry_refers table name refers other target found reference used]
      exact present
    rw [table.check_entry_survey heap.data name spec root entry]
    constructor
    · intro clean
      have conforms := clean_conforms table heap.data heap.identity_single name spec root entry inner only clean
      exact conforms_named table heap.data resolves spec root (resolves name spec entry) conforms
    · exact named_clean table heap.data spec root

def Heap.labelledRing : Heap :=
  ⟨[.object [("label", .scalar (.string "a")), ("next", .container 1)],
    .object [("label", .scalar (.string "b")), ("next", .container 0)]]⟩

theorem labelled_ring_checked : Table.chain.checkEntry Heap.labelledRing.data "node" (.container 0) = .ok [] := by cbv

theorem rings_conforming :
    Table.chain.RefersOnlyTo "node" ∧ Table.chain.get? "node" = some nodeSpec ∧ nodeSpec.isReference = false ∧
      ConformsNamed Table.chain Heap.labelledRing.data nodeSpec (.container 0) ∧
      Table.chain.check Heap.labelledRing.data nodeSpec (.container 0) = .ok [] ∧
      ¬ ConformsNamed Table.chain Heap.ring.data (.reference "node") (.container 0) := by
  have refers : Table.chain.RefersOnlyTo "node" := by
    intro reference used
    exact List.mem_singleton.mp used
  obtain ⟨clean, exactly⟩ := conforming_clean Table.chain Heap.labelledRing
  have conforms := (exactly "node" nodeSpec refers rfl rfl (.container 0)).mp labelled_ring_checked
  refine ⟨refers, rfl, rfl, conforms, clean nodeSpec _ conforms, fun wrong => ?_⟩
  have reported := (conforming_clean Table.chain Heap.ring).1 _ _ wrong
  rw [ring_checked] at reported
  contradiction

end ShapeCheck
