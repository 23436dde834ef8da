import ShapeCheck.Json.Numeral

set_option autoImplicit false

/- Reading JSON text. The answer is the value, or the kind of the first defect from the
   left. Every step returns what it leaves of the text with the proof that it is shorter,
   and the nesting still allowed is the structural argument, so no step can loop. -/
namespace ShapeCheck.Json

def many {α : Type} (step : (text : List Char) → Parsed (Option α) text) (text : List Char) :
    Parsed (List α) text :=
  match step text with
  | .error defect => .error defect
  | .ok (none, rest) => .ok ([], rest)
  | .ok (some first, rest) =>
      match many step rest.1 with
      | .error defect => .error defect
      | .ok (others, last) => .ok (first :: others, rest.after last)
termination_by text.length
decreasing_by exact rest.2

def isBlank (char : Char) : Bool :=
  char == ' ' || char == '\t' || char == '\n' || char == '\r'

def skipBlanks (text : List Char) : Remainder text :=
  .dropWhile isBlank text

def word (expected : List Char) (text : List Char) : Except Defect (Remainder text) :=
  match expected, text with
  | [], text => .ok (.whole text)
  | _ :: _, [] => .error .ended
  | char :: others, first :: after =>
      if first = char then do
        let rest ← word others after
        return rest.skip.remainder
      else .error .malformed

def hexDigit? (char : Char) : Option Nat :=
  if '0' ≤ char ∧ char ≤ '9' then some (char.toNat - '0'.toNat)
  else if 'a' ≤ char ∧ char ≤ 'f' then some (char.toNat - 'a'.toNat + 10)
  else if 'A' ≤ char ∧ char ≤ 'F' then some (char.toNat - 'A'.toNat + 10)
  else none

-- Four hexadecimal digits. The text has ended if fewer than four bytes are left.
def codeUnit (text : List Char) : Parsed Nat text :=
  match text with
  | a :: b :: c :: d :: after =>
      match hexDigit? a, hexDigit? b, hexDigit? c, hexDigit? d with
      | some a, some b, some c, some d =>
          .ok (((a * 16 + b) * 16 + c) * 16 + d, ⟨after, by simp only [List.length_cons]; omega⟩)
      | _, _, _, _ => .error .malformed
  | short => if (String.ofList short).utf8ByteSize < 4 then .error .ended else .error .malformed

def isHighSurrogate (unit : Nat) : Bool := 0xD800 ≤ unit && unit < 0xDC00

def isLowSurrogate (unit : Nat) : Bool := 0xDC00 ≤ unit && unit < 0xE000

def numericEscape (text : List Char) : Parsed Char text := do
  let (unit, rest) ← codeUnit text
  if isLowSurrogate unit then .error .malformed
  else if isHighSurrogate unit then
    let next ← word ['\\', 'u'] rest.1
    let (low, last) ← codeUnit next.1
    if isLowSurrogate low then
      return (Char.ofNat (0x10000 + (unit - 0xD800) * 0x400 + (low - 0xDC00)),
        rest.after (next.after last))
    else .error .malformed
  else return (Char.ofNat unit, rest)

def namedEscape? : Char → Option Char
  | '"' => some '"'
  | '\\' => some '\\'
  | '/' => some '/'
  | 'b' => some '\x08'
  | 'f' => some '\x0c'
  | 'n' => some '\n'
  | 'r' => some '\r'
  | 't' => some '\t'
  | _ => none

def escape : (text : List Char) → Parsed Char text
  | [] => .error .ended
  | 'u' :: after => do
      let (char, rest) ← numericEscape after
      return (char, rest.skip)
  | name :: after =>
      match namedEscape? name with
      | some char => .ok (char, (Remainder.whole after).skip)
      | none => .error .malformed

def stringStep : (text : List Char) → Parsed (Option Char) text
  | [] => .error .ended
  | '"' :: after => .ok (none, (Remainder.whole after).skip)
  | '\\' :: after => do
      let (char, rest) ← escape after
      return (some char, rest.skip)
  | char :: after =>
      if char.toNat < 0x20 then .error .malformed
      else .ok (some char, (Remainder.whole after).skip)

def stringBody (text : List Char) : Parsed String text := do
  let (chars, rest) ← many stringStep text
  return (String.ofList chars, rest)

abbrev ValueReader := (text : List Char) → Parsed Json text

def itemStep (value : ValueReader) (text : List Char) : Parsed (Option Json) text :=
  let start := skipBlanks text
  match given : start.1 with
  | [] => .error .ended
  | first :: after =>
      have bound : after.length < text.length :=
        Nat.lt_of_lt_of_le (by rw [given]; exact Nat.lt_succ_self _) start.2
      if first = ']' then .ok (none, ⟨after, bound⟩)
      else if first = ',' then do
        let (item, rest) ← value after
        return (some item, ⟨rest.1, Nat.lt_trans rest.2 bound⟩)
      else .error .malformed

def arrayBody (value : ValueReader) (text : List Char) : Parsed (List Json) text :=
  let start := skipBlanks text
  match given : start.1 with
  | [] => .error .ended
  | first :: after =>
      if first = ']' then
        .ok ([], start.after ⟨after, by rw [given]; exact Nat.lt_succ_self _⟩)
      else do
        let (item, rest) ← value start.1
        let (others, last) ← many (itemStep value) rest.1
        return (item :: others, start.after (rest.after last))

def entryBody (value : ValueReader) (text : List Char) : Parsed (String × Json) text :=
  match text with
  | [] => .error .ended
  | first :: after =>
      if first = '"' then do
        let (key, rest) ← stringBody after
        let start := skipBlanks rest.1
        let colon ← word [':'] start.1
        let (item, last) ← value colon.1
        return ((key, item), (rest.after (start.after (colon.after last))).skip)
      else .error .malformed

def entryStep (value : ValueReader) (text : List Char) : Parsed (Option (String × Json)) text :=
  let start := skipBlanks text
  match given : start.1 with
  | [] => .error .ended
  | first :: after =>
      have bound : after.length < text.length :=
        Nat.lt_of_lt_of_le (by rw [given]; exact Nat.lt_succ_self _) start.2
      if first = '\x7d' then .ok (none, ⟨after, bound⟩)
      else if first = ',' then do
        let next := skipBlanks after
        let (entry, rest) ← entryBody value next.1
        return (some entry, ⟨rest.1, Nat.lt_trans (next.after rest).2 bound⟩)
      else .error .malformed

def objectBody (value : ValueReader) (text : List Char) : Parsed (List (String × Json)) text :=
  let start := skipBlanks text
  match given : start.1 with
  | [] => .error .ended
  | first :: after =>
      if first = '\x7d' then
        .ok ([], start.after ⟨after, by rw [given]; exact Nat.lt_succ_self _⟩)
      else do
        let (entry, rest) ← entryBody value start.1
        let (others, last) ← many (entryStep value) rest.1
        return (entry :: others, start.after (rest.after last))

def scalarBody (text : List Char) : Parsed Scalar text :=
  match text with
  | [] => .error .ended
  | '"' :: after => do
      let (chars, rest) ← stringBody after
      return (.string chars, rest.skip)
  | 'n' :: after => do
      let rest ← word ['u', 'l', 'l'] after
      return (.null, rest.skip)
  | 't' :: after => do
      let rest ← word ['r', 'u', 'e'] after
      return (.boolean true, rest.skip)
  | 'f' :: after => do
      let rest ← word ['a', 'l', 's', 'e'] after
      return (.boolean false, rest.skip)
  | '-' :: after => do
      let (found, rest) ← unsignedNumber true after
      return (.number found, rest.skip)
  | text => do
      let (found, rest) ← unsignedNumber false text
      return (.number found, rest)

def valueWithin : (depth : Nat) → ValueReader
  | depth, text =>
      let start := skipBlanks text
      match given : start.1 with
      | '[' :: after =>
          match depth with
          | 0 => .error .malformed
          | depth + 1 => do
              let (items, rest) ← arrayBody (valueWithin depth) after
              return (.array items,
                start.after ⟨rest.1, by rw [given]; exact Nat.lt_succ_of_lt rest.2⟩)
      | '\x7b' :: after =>
          match depth with
          | 0 => .error .malformed
          | depth + 1 => do
              let (pairs, rest) ← objectBody (valueWithin depth) after
              return (.object (Entries.ofPairs pairs),
                start.after ⟨rest.1, by rw [given]; exact Nat.lt_succ_of_lt rest.2⟩)
      | _ => do
          let (found, rest) ← scalarBody start.1
          return (.scalar found, start.after rest)

def maxDepth : Nat := 127

def parse (text : String) : Except Defect Json := do
  let (value, rest) ← valueWithin maxDepth text.toList
  match (skipBlanks rest.1).1 with
  | [] => return value
  | _ :: _ => .error .malformed

end ShapeCheck.Json
