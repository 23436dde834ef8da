import ShapeCheck.Spec.Basic

set_option autoImplicit false

/- Named specs in the order their names were first given. A slot is reserved for a name
   before its spec is known, so a slot may be empty; only filled slots are entries. -/
namespace ShapeCheck

structure SlotId where
  index : Nat
deriving DecidableEq, Repr

structure Table where
  slots : List (String × Option Spec)

namespace Table

def empty : Table := ⟨[]⟩

def names (table : Table) : List String := table.slots.map Prod.fst

def slot? (table : Table) (name : String) : Option SlotId :=
  (table.names.idxOf? name).map SlotId.mk

def reserve (table : Table) (name : String) : Table × SlotId :=
  match table.slot? name with
  | some id => (table, id)
  | none => (⟨table.slots ++ [(name, none)]⟩, ⟨table.slots.length⟩)

-- Puts a spec into a slot; a slot of no name is left alone.
def fill (table : Table) (id : SlotId) (spec : Spec) : Table :=
  ⟨table.slots.modify id.index fun slot => (slot.1, some spec)⟩

def insert (table : Table) (name : String) (spec : Spec) : Table × SlotId :=
  let (reserved, id) := table.reserve name
  (reserved.fill id spec, id)

def specAt? (table : Table) (id : SlotId) : Option Spec :=
  table.slots[id.index]?.bind Prod.snd

def get? (table : Table) (name : String) : Option Spec :=
  (table.slot? name).bind table.specAt?

def contains (table : Table) (name : String) : Bool :=
  (table.get? name).isSome

def entries (table : Table) : List (String × Spec) :=
  table.slots.filterMap fun slot => slot.2.map fun spec => (slot.1, spec)

def size (table : Table) : Nat := table.entries.length

def isEmpty (table : Table) : Bool := table.size == 0

def references (table : Table) : List String :=
  table.entries.flatMap fun entry => entry.2.references

def dangling (table : Table) : List String :=
  table.references.foldl
    (fun missing name =>
      if table.contains name || missing.contains name then missing else missing ++ [name])
    []

end Table

end ShapeCheck
