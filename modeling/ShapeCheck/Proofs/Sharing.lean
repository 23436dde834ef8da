import ShapeCheck.Proofs.Descent
import ShapeCheck.Proofs.Previews

set_option autoImplicit false

namespace ShapeCheck

def RunsAgree (whole : Json) : Except Unresolved (List Violation) → Except Unresolved (List Violation) → Prop
  | .ok one, .ok other => List.Forall₂ (Violation.Agrees whole) one other
  | .error one, .error other => one = other
  | _, _ => False

theorem surveys_runs_agree (whole : Json) (one other : Survey) (agrees : one.Agrees whole other) :
    RunsAgree whole one.violations other.violations := by
  have same := agrees.failure
  rw [Survey.violations, Survey.violations]
  cases failed : one.failure with
  | none =>
      rw [← same, failed]
      exact agrees.found
  | some failure =>
      rw [← same, failed]
      rfl

section

variable (table : Table) (heap : Heap) (root : Datum) (tree : Json)

theorem start_alike (unfolds : heap.data.Unfolds root tree) (distinct : tree.DistinctKeys) :
    heap.data.Alike (Tree.data tree.size) (heap.data.ownIdentity root)
      ((Tree.data tree.size).ownIdentity (Tree.root tree)) root (Tree.root tree) tree where
  left := by
    have acyclic := heap.acyclic_of_unfolds root tree unfolds
    exact heap.data.ready_start root tree unfolds acyclic
  right := Instance.ready_start _ _ tree (Tree.root_unfolds tree) (Tree.node_acyclic _)
  marked := by
    have marks := heap.data.marked_start root tree unfolds
    have treeMarks := Instance.marked_start _ _ tree (Tree.root_unfolds tree)
    exact marks.trans treeMarks.symm
  distinct := distinct

theorem unmarked_alike (unfolds : heap.data.Unfolds root tree) (distinct : tree.DistinctKeys) :
    heap.data.Alike (Tree.data tree.size) [] [] root (Tree.root tree) tree where
  left := by
    have acyclic := heap.acyclic_of_unfolds root tree unfolds
    exact heap.data.ready_unmarked root tree unfolds acyclic
  right := Instance.ready_unmarked _ _ tree (Tree.root_unfolds tree) (Tree.node_acyclic _)
  marked := iff_of_false (fun ⟨_, listed, _⟩ => List.not_mem_nil listed) fun ⟨_, listed, _⟩ => List.not_mem_nil listed
  distinct := distinct

theorem property_agrees (name : String) (spec : Spec) (unfolds : heap.data.Unfolds root tree)
    (distinct : tree.DistinctKeys) :
    RunsAgree (.object [(name, tree)])
      ((survey table heap.data (heap.data.ownIdentity root) (some (.key name)) spec root).below (.key name)).violations
      ((survey table (Tree.data tree.size) ((Tree.data tree.size).ownIdentity (Tree.root tree)) (some (.key name)) spec
        (Tree.root tree)).below (.key name)).violations := by
  have previews := previews_agree heap tree.size
  have alike := start_alike heap root tree unfolds distinct
  apply surveys_runs_agree
  apply Survey.agrees_below _ tree
  · intro rest
    exact Json.at_key [(name, tree)] name tree rest (if_pos rfl)
  · exact survey_agrees _ _ table previews _ _ _ spec root _ tree alike

structure Table.ChecksAgree : Prop where
  check : ∀ spec, RunsAgree tree (table.check heap.data spec root)
    (table.check (Tree.data tree.size) spec (Tree.root tree))
  checkEntry : ∀ name, RunsAgree tree (table.checkEntry heap.data name root)
    (table.checkEntry (Tree.data tree.size) name (Tree.root tree))
  checkFields : ∀ name fields, RunsAgree (.object [(name, tree)]) (table.checkFields heap.data name fields root)
    (table.checkFields (Tree.data tree.size) name fields (Tree.root tree))
  checkEntryExactly : ∀ name, RunsAgree (.object [(name, tree)]) (table.checkEntryExactly heap.data name root)
    (table.checkEntryExactly (Tree.data tree.size) name (Tree.root tree))

theorem check_agrees (spec : Spec) (unfolds : heap.data.Unfolds root tree) (distinct : tree.DistinctKeys) :
    RunsAgree tree (table.check heap.data spec root)
      (table.check (Tree.data tree.size) spec (Tree.root tree)) := by
  rw [Table.check_survey, Table.check_survey]
  have previews := previews_agree heap tree.size
  apply surveys_runs_agree
  apply survey_agrees _ _ table previews
  cases spec.isReference with
  | true => exact unmarked_alike heap root tree unfolds distinct
  | false => exact start_alike heap root tree unfolds distinct

theorem checks_agree (unfolds : heap.data.Unfolds root tree) (distinct : tree.DistinctKeys) :
    table.ChecksAgree heap root tree where
  check spec := check_agrees table heap root tree spec unfolds distinct
  checkEntry name := by
    cases entry : table.get? name with
    | none =>
        rw [table.check_entry_unknown _ name _ entry, table.check_entry_unknown _ name _ entry]
        rfl
    | some spec =>
        rw [table.check_entry_survey _ name spec _ entry, table.check_entry_survey _ name spec _ entry]
        exact check_agrees table heap root tree spec unfolds distinct
  checkFields name fields := by
    rw [Table.check_fields_survey, Table.check_fields_survey]
    exact property_agrees table heap root tree name _ unfolds distinct
  checkEntryExactly name := by
    cases entry : table.get? name with
    | none =>
        rw [table.check_entry_exactly_unknown _ name _ entry, table.check_entry_exactly_unknown _ name _ entry]
        rfl
    | some spec =>
        by_cases shape : ∃ fields exact, spec = .shape fields exact
        · obtain ⟨fields, exact, same⟩ := shape
          subst same
          rw [table.check_entry_exactly_shape _ name fields exact _ entry,
            table.check_entry_exactly_shape _ name fields exact _ entry, Table.check_fields_survey,
            Table.check_fields_survey]
          exact property_agrees table heap root tree name _ unfolds distinct
        · have plain : ∀ fields exact, spec ≠ .shape fields exact := by
            intro fields exact same
            exact shape ⟨fields, exact, same⟩
          rw [table.check_entry_exactly_other _ name spec _ entry plain,
            table.check_entry_exactly_other _ name spec _ entry plain]
          exact property_agrees table heap root tree name spec unfolds distinct

end

-- Data without cycles is checked as the one tree it unfolds to, however much it shares, and
-- a tree is checked alike as it is and after it was put on a heap.
theorem sharing_invisible (table : Table) (heap : Heap) :
    (∀ root, heap.data.Acyclic root → heap.data.DistinctKeys root →
      ∃ tree, heap.data.Unfolds root tree ∧ (∀ other, heap.data.Unfolds root other → other = tree) ∧
        table.ChecksAgree heap root tree) ∧
    ∀ tree : Json, tree.DistinctKeys →
      (heap.load tree).1.data.Acyclic (heap.load tree).2 ∧
        (heap.load tree).1.data.Unfolds (heap.load tree).2 tree ∧
        table.ChecksAgree (heap.load tree).1 (heap.load tree).2 tree := by
  constructor
  · intro root acyclic distinct
    obtain ⟨tree, unfolds⟩ := heap.data.acyclic_unfolds root acyclic
    have treeDistinct := heap.data.unfolds_distinct root tree distinct unfolds
    have unique : ∀ other, heap.data.Unfolds root other → other = tree := by
      intro other again
      exact heap.data.unfolds_unique root other tree again unfolds
    have agree := checks_agree table heap root tree unfolds treeDistinct
    exact ⟨tree, unfolds, unique, agree⟩
  · intro tree distinct
    have unfolds := heap.load_unfolds tree distinct _ (heap.load tree).1.extends_refl
    have acyclic := Heap.acyclic_of_unfolds _ _ tree unfolds
    have agree := checks_agree table _ _ tree unfolds distinct
    exact ⟨acyclic, unfolds, agree⟩

def Heap.twice : Heap := ⟨[.object [("kind", .scalar .null)], .array [.container 0, .container 0]]⟩

theorem twice_acyclic : Heap.twice.data.Acyclic (.container 1) := by
  have inner : Heap.twice.data.Unfolds (.container 0) (.object [("kind", .null)]) :=
    .object _ 0 [("kind", .scalar .null)] _ rfl rfl (.cons (.scalar _ .null rfl) .nil)
  have items : List.Forall₂ Heap.twice.data.Unfolds [.container 0, .container 0] _ := .cons inner (.cons inner .nil)
  exact Heap.acyclic_of_unfolds _ _ _ (.array _ 1 _ _ rfl items)

theorem twice_distinct : Heap.twice.data.DistinctKeys (.container 1) := by
  apply Heap.distinct_of_cells
  intro entries listed
  simp only [Heap.twice, List.mem_cons, Cell.object.injEq, reduceCtorEq, List.not_mem_nil, or_false] at listed
  rw [listed]
  decide

def Table.kinds : Table :=
  ⟨[("item", some (.shape [⟨"kind", .primitive .string, true⟩] false)), ("list", some (.array (.reference "item")))]⟩

theorem twice_agrees :
    (Heap.twice.data.Acyclic (.container 1) ∧ Heap.twice.data.DistinctKeys (.container 1) ∧
      ∃ tree, Heap.twice.data.Unfolds (.container 1) tree ∧ Table.kinds.ChecksAgree Heap.twice (.container 1) tree) ∧
    (Json.array [.array [], .null]).DistinctKeys ∧
      Table.kinds.ChecksAgree (Heap.twice.load (.array [.array [], .null])).1
        (Heap.twice.load (.array [.array [], .null])).2 (.array [.array [], .null]) := by
  obtain ⟨graphs, trees⟩ := sharing_invisible Table.kinds Heap.twice
  obtain ⟨tree, unfolds, _, agree⟩ := graphs _ twice_acyclic twice_distinct
  have distinct : (Json.array [.array [], .null]).DistinctKeys := ⟨trivial, trivial, trivial⟩
  exact ⟨⟨twice_acyclic, twice_distinct, tree, unfolds, agree⟩, distinct, (trees _ distinct).2.2⟩

example : Table.kinds.checkEntry Heap.twice.data "list" (.container 1) =
    .ok [⟨[.index 0, .key "kind"], ["item (index 0 in array)"], "`kind` is required, but its value is `null`",
        .missingRequired⟩,
      ⟨[.index 1, .key "kind"], ["item (index 1 in array)"], "`kind` is required, but its value is `null`",
        .missingRequired⟩] := by cbv

end ShapeCheck
