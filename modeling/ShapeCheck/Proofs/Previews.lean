import ShapeCheck.Proofs.Agreement
import ShapeCheck.Proofs.HeapData
import ShapeCheck.Proofs.JsonText
import ShapeCheck.Proofs.TreeData

set_option autoImplicit false

namespace ShapeCheck

-- Containers on a heap are shown by their size, as "[array of …" or "{object with …", and
-- trees by their text. The second character tells the two apart.

namespace Json

theorem array_second (items : List Json) : (Json.array items).chars[1]? ≠ some 'a' := by
  rw [chars]
  cases items with
  | nil => decide
  | cons item rest =>
      obtain ⟨first, others, same, apart⟩ := chars_first item
      simpa [itemChars, same] using apart

theorem object_second (members : List (String × Json)) : (Json.object members).chars[1]? ≠ some 'o' := by
  rw [chars]
  cases members with
  | nil => decide
  | cons member rest => simp [entryChars, stringChars]

end Json

theorem shortened_second (text : List Char) : (shortened text).toList[1]? = text[1]? := by
  rw [shortened]
  split
  · rw [String.toList_ofList]
  · rename_i long
    have inside : 1 < (text.take previewLimit).length := by
      simp only [previewLimit] at long ⊢
      rw [List.length_take]
      omega
    rw [String.toList_ofList, List.getElem?_append_left inside, List.getElem?_take_of_lt (by decide)]

theorem array_preview_second (heap : Heap) (value : Datum) (id : Nat) (items : List Datum)
    (seen : heap.view value = .array id items) : (heap.preview value).toList[1]? = some 'a' := by
  rw [Heap.preview, seen]
  simp

theorem object_preview_second (heap : Heap) (value : Datum) (id : Nat) (entries : List (String × Datum))
    (seen : heap.view value = .object id entries) : (heap.preview value).toList[1]? = some 'o' := by
  rw [Heap.preview, seen]
  simp

theorem node_tree (total : Nat) (node : Tree.Node total) (tree : Json)
    (unfolds : (Tree.data total).Unfolds node tree) : node.value = tree := by
  have own := Tree.node_unfolds node.number node.value node.fits
  exact (Tree.data total).unfolds_unique node _ _ own unfolds

theorem previews_agree (heap : Heap) (total : Nat) : heap.data.PreviewsAgree (Tree.data total) where
  scalar value twin content seen twinSeen := by
    have same := node_tree total twin (.scalar content) (.scalar twin content twinSeen)
    change heap.view value = .scalar content at seen
    change heap.preview value = shortened twin.value.chars
    rw [Heap.preview, seen, same, Json.chars]
  container value twin tree unfolds twinUnfolds container previews := by
    have same := node_tree total twin tree twinUnfolds
    change heap.preview value = shortened twin.value.chars at previews
    have second := congrArg (fun text => text.toList[1]?) previews
    simp only [same, shortened_second] at second
    cases tree with
    | scalar content => simp at container
    | array trees =>
        obtain ⟨id, items, seen, _⟩ := heap.data.unfolds_array value trees unfolds
        rw [array_preview_second heap value id items seen] at second
        exact Json.array_second trees second.symm
    | object members =>
        obtain ⟨id, entries, seen, _⟩ := heap.data.unfolds_object value members unfolds
        rw [object_preview_second heap value id entries seen] at second
        exact Json.object_second members second.symm

end ShapeCheck
