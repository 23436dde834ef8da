set_option autoImplicit false

/- Sets of characters, as ranges of code points in ascending order. -/
namespace ShapeCheck.Text

abbrev CodeRange := Nat × Nat

def inRanges (ranges : List CodeRange) (code : Nat) : Bool :=
  ranges.any fun range => range.1 ≤ code && code ≤ range.2

end ShapeCheck.Text
