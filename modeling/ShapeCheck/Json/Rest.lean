set_option autoImplicit false

/- What a reading step leaves of the text, with the proof that nothing was put back. A
   reader that goes on from a rest works on a shorter text, so it ends. -/
namespace ShapeCheck.Json

inductive Defect where
  | ended
  | malformed
deriving DecidableEq, Repr

abbrev Rest (text : List Char) := { rest : List Char // rest.length < text.length }

abbrev Remainder (text : List Char) := { rest : List Char // rest.length ≤ text.length }

abbrev Parsed (α : Type) (text : List Char) := Except Defect (α × Rest text)

theorem length_dropWhile_le (test : Char → Bool) (text : List Char) :
    (text.dropWhile test).length ≤ text.length :=
  (List.dropWhile_suffix test).length_le

namespace Remainder

def whole (text : List Char) : Remainder text := ⟨text, Nat.le_refl _⟩

def dropWhile (test : Char → Bool) (text : List Char) : Remainder text :=
  ⟨text.dropWhile test, length_dropWhile_le test text⟩

def skip {first : Char} {text : List Char} (rest : Remainder text) : Rest (first :: text) :=
  ⟨rest.1, Nat.lt_succ_of_le rest.2⟩

def after {text : List Char} (rest : Remainder text) (later : Rest rest.1) : Rest text :=
  ⟨later.1, Nat.lt_of_lt_of_le later.2 rest.2⟩

def afterMaybe {text : List Char} (rest : Remainder text) (later : Remainder rest.1) :
    Remainder text :=
  ⟨later.1, Nat.le_trans later.2 rest.2⟩

end Remainder

namespace Rest

def remainder {text : List Char} (rest : Rest text) : Remainder text :=
  ⟨rest.1, Nat.le_of_lt rest.2⟩

def skip {first : Char} {text : List Char} (rest : Rest text) : Rest (first :: text) :=
  rest.remainder.skip

def after {text : List Char} (rest : Rest text) (later : Rest rest.1) : Rest text :=
  rest.remainder.after later

def afterMaybe {text : List Char} (rest : Rest text) (later : Remainder rest.1) : Rest text :=
  ⟨later.1, Nat.lt_of_le_of_lt later.2 rest.2⟩

end Rest

end ShapeCheck.Json
