import ShapeCheck.Instance.Basic
import ShapeCheck.Json.Writer

set_option autoImplicit false

/- JSON trees as data. The nodes of a tree are numbered from the root on, each before its
   children, and the number is the identity. -/
namespace ShapeCheck.Tree

structure Node (total : Nat) where
  number : Nat
  value : Json
  fits : number + value.size ≤ total

def root (value : Json) : Node value.size := ⟨0, value, by omega⟩

def itemNodes {total : Nat} (number : Nat) :
    (items : List Json) → number + Json.sizeItems items ≤ total → List (Node total)
  | [], _ => []
  | item :: rest, fits =>
      ⟨number, item, by simp only [Json.sizeItems] at fits; omega⟩ ::
        itemNodes (number + item.size) rest (by simp only [Json.sizeItems] at fits; omega)

def entryNodes {total : Nat} (number : Nat) :
    (entries : List (String × Json)) → number + Json.sizeEntries entries ≤ total →
      List (String × Node total)
  | [], _ => []
  | (key, value) :: rest, fits =>
      (key, ⟨number, value, by simp only [Json.sizeEntries] at fits; omega⟩) ::
        entryNodes (number + value.size) rest (by simp only [Json.sizeEntries] at fits; omega)

def view {total : Nat} : Node total → Layer (Node total)
  | ⟨_, .scalar value, _⟩ => .scalar value
  | ⟨number, .array items, fits⟩ =>
      .array number (itemNodes (number + 1) items (by simp only [Json.size] at fits; omega))
  | ⟨number, .object entries, fits⟩ =>
      .object number (entryNodes (number + 1) entries (by simp only [Json.size] at fits; omega))

def preview {total : Nat} (node : Node total) : String := shortened node.value.chars

theorem identity_lt_total {total : Nat} (node : Node total) (id : Nat)
    (found : (view node).identity? = some id) : id < total := by
  rcases node with ⟨number, value, fits⟩
  cases value with
  | scalar value => simp [view, Layer.identity?] at found
  | array items =>
      simp only [view, Layer.identity?, Option.some.injEq] at found
      simp only [Json.size] at fits
      omega
  | object entries =>
      simp only [view, Layer.identity?, Option.some.injEq] at found
      simp only [Json.size] at fits
      omega

def data (total : Nat) : Instance (Node total) where
  view := view
  preview := preview
  bound := total
  bounded := identity_lt_total

end ShapeCheck.Tree
