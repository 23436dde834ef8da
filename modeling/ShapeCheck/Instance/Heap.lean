import ShapeCheck.Instance.Basic
import ShapeCheck.Json.Writer
import ShapeCheck.Text.Quoted

set_option autoImplicit false

/- Data in which containers are shared. A container is a cell of a heap and a value holds
   only its number, so one container may be reached from several places, itself included,
   and a change made through one handle is seen through all of them. -/
namespace ShapeCheck

inductive Datum where
  | scalar (value : Scalar)
  | container (id : Nat)
deriving DecidableEq, Repr

inductive Cell where
  | array (items : List Datum)
  | object (entries : List (String × Datum))
deriving DecidableEq, Repr

structure Heap where
  cells : List Cell
deriving DecidableEq, Repr

-- A number that is not finite has no JSON form and becomes null.
def Datum.ofDouble? : Option Double → Datum
  | some value => .scalar (.number (.double value))
  | none => .scalar .null

def Datum.sameContainer : Datum → Datum → Bool
  | .container a, .container b => a == b
  | _, _ => false

namespace Heap

def empty : Heap := ⟨[]⟩

def cell? (heap : Heap) : Datum → Option Cell
  | .container id => heap.cells[id]?
  | .scalar _ => none

def allocate (heap : Heap) (cell : Cell) : Heap × Datum :=
  (⟨heap.cells ++ [cell]⟩, .container heap.cells.length)

def array (heap : Heap) (items : List Datum) : Heap × Datum :=
  heap.allocate (.array items)

-- A new object; of a repeated key the last value counts, at the first place.
def object (heap : Heap) (pairs : List (String × Datum)) : Heap × Datum :=
  heap.allocate (.object (Entries.ofPairs pairs))

def write (heap : Heap) (target : Datum) (cell : Cell) : Heap :=
  match target with
  | .container id => ⟨heap.cells.set id cell⟩
  | .scalar _ => heap

def insert (heap : Heap) (target : Datum) (key : String) (value : Datum) : Heap × Bool :=
  match heap.cell? target with
  | some (.object entries) => (heap.write target (.object (Entries.insert key value entries)), true)
  | _ => (heap, false)

def push (heap : Heap) (target value : Datum) : Heap × Bool :=
  match heap.cell? target with
  | some (.array items) => (heap.write target (.array (items ++ [value])), true)
  | _ => (heap, false)

def get? (heap : Heap) (target : Datum) (key : String) : Option Datum :=
  match heap.cell? target with
  | some (.object entries) => Entries.get? key entries
  | _ => none

mutual
def load (heap : Heap) : Json → Heap × Datum
  | .scalar value => (heap, .scalar value)
  | .array items =>
      let (grown, loaded) := loadItems heap items
      grown.array loaded
  | .object entries =>
      let (grown, loaded) := loadEntries heap entries
      grown.object loaded
def loadItems (heap : Heap) : List Json → Heap × List Datum
  | [] => (heap, [])
  | item :: rest =>
      let (grown, first) := load heap item
      let (last, others) := loadItems grown rest
      (last, first :: others)
def loadEntries (heap : Heap) : List (String × Json) → Heap × List (String × Datum)
  | [] => (heap, [])
  | (key, value) :: rest =>
      let (grown, first) := load heap value
      let (last, others) := loadEntries grown rest
      (last, (key, first) :: others)
end

-- A handle of no cell looks like null; no operation makes one.
def view (heap : Heap) : Datum → Layer Datum
  | .scalar value => .scalar value
  | .container id =>
      match heap.cells[id]? with
      | some (.array items) => .array id items
      | some (.object entries) => .object id entries
      | none => .scalar .null

def preview (heap : Heap) (value : Datum) : String :=
  match heap.view value with
  | .scalar scalar => shortened (Json.scalarChars scalar)
  | .array _ items => "[array of " ++ toString items.length ++ "]"
  | .object _ entries => "\x7bobject with " ++ toString entries.length ++ " keys\x7d"

def describe (heap : Heap) (value : Datum) : String :=
  match heap.view value with
  | .scalar .null => "Null"
  | .scalar (.boolean flag) => "Bool(" ++ (if flag then "true" else "false") ++ ")"
  | .scalar (.number number) => "Number(" ++ String.ofList number.render ++ ")"
  | .scalar (.string text) => "String(" ++ Text.quoted text ++ ")"
  | .array _ items => "Array(len=" ++ toString items.length ++ ")"
  | .object _ entries =>
      "Object([" ++ String.intercalate ", " ((Entries.keys entries).map Text.quoted) ++ "])"

theorem identity_lt_size (heap : Heap) (value : Datum) (id : Nat)
    (found : (heap.view value).identity? = some id) : id < heap.cells.length := by
  cases value with
  | scalar value => simp [view, Layer.identity?] at found
  | container number =>
      cases cell : heap.cells[number]? with
      | none => simp [view, cell, Layer.identity?] at found
      | some content =>
          have inside : number < heap.cells.length := (List.getElem?_eq_some_iff.mp cell).1
          cases content <;> simp [view, cell, Layer.identity?] at found <;> omega

def data (heap : Heap) : Instance Datum where
  view := heap.view
  preview := heap.preview
  bound := heap.cells.length
  bounded := heap.identity_lt_size

end Heap

end ShapeCheck
