import ShapeCheck.Proofs.Slots
import ShapeCheck.Spec.Compile

set_option autoImplicit false

/- The two passes by name. A definition keeps the slot that it was given, so the slot can as
   well be looked up again when the definition is compiled. -/
namespace ShapeCheck.Definitions

def reserveAll (definitions : List (String × Schema)) (table : Table) : Table :=
  definitions.foldl (fun table entry => (table.reserve entry.1).1) table

def fillAll : List (String × Schema) → Table → Compilation
  | [], table => ⟨[], .ok table⟩
  | (name, schema) :: rest, table =>
      match schema.compileDefinition with
      | .error cause => ⟨[], .error (.inDefinition name cause)⟩
      | .ok spec =>
          let others := fillAll rest (table.insert name spec).1
          ⟨.compiled name :: others.events, others.result⟩

theorem register_all_table (definitions : List (String × Schema)) (table : Table) :
    (registerAll definitions table).1 = reserveAll definitions table := by
  induction definitions generalizing table with
  | nil => rfl
  | cons entry rest ih => exact ih _

theorem register_all_pending (definitions : List (String × Schema)) (table : Table) :
    ((registerAll definitions table).2.map fun pending => (pending.name, pending.schema)) = definitions := by
  induction definitions generalizing table with
  | nil => rfl
  | cons entry rest ih => exact congrArg (List.cons entry) (ih _)

theorem slot_reserve_all (definitions : List (String × Schema)) (table : Table) (query : String) (id : SlotId)
    (found : table.slot? query = some id) : (reserveAll definitions table).slot? query = some id := by
  induction definitions generalizing table with
  | nil => exact found
  | cons entry rest ih => exact ih _ (table.slot_reserve entry.1 query id found)

theorem register_all_slots (definitions : List (String × Schema)) (table : Table) :
    ∀ pending ∈ (registerAll definitions table).2,
      (reserveAll definitions table).slot? pending.name = some pending.id := by
  induction definitions generalizing table with
  | nil => exact fun _ listed => absurd listed List.not_mem_nil
  | cons entry rest ih =>
      rw [registerAll, List.forall_mem_cons]
      exact ⟨slot_reserve_all rest _ entry.1 _ (table.reserve_slot entry.1), ih _⟩

theorem fill_pending (pending : List Pending) (table : Table)
    (placed : ∀ one ∈ pending, table.slot? one.name = some one.id) :
    fillPending pending table = fillAll (pending.map fun one => (one.name, one.schema)) table := by
  induction pending generalizing table with
  | nil => rfl
  | cons one rest ih =>
      rw [List.forall_mem_cons] at placed
      rw [fillPending, List.map_cons, fillAll]
      cases one.schema.compileDefinition with
      | error cause => rfl
      | ok spec =>
          have kept : ∀ other ∈ rest, (table.fill one.id spec).slot? other.name = some other.id := by
            intro other listed
            simp [placed.2 other listed]
          simp only [table.insert_known one.name spec one.id placed.1, ih _ kept]

theorem fill_by_name (definitions : Definitions) :
    fillPending (registerAll definitions.objects .empty).2 (registerAll definitions.objects .empty).1 =
      fillAll definitions.objects (reserveAll definitions.objects .empty) := by
  have filled := fill_pending _ _ (register_all_slots definitions.objects .empty)
  rw [register_all_pending] at filled
  rwa [register_all_table]

theorem compile_by_name (definitions : Definitions) :
    definitions.compile = (fillAll definitions.objects (reserveAll definitions.objects .empty)).result := by
  rw [← fill_by_name]
  rfl

end ShapeCheck.Definitions
