import Mathlib.Algebra.Ring.Parity
import Mathlib.Data.List.Induction
import ShapeCheck.Proofs.Names

set_option autoImplicit false

namespace ShapeCheck.Script

def closingSlashes (text : List Char) : Nat := (text.reverse.takeWhile (· == '\\')).length

-- Whether the next character is marked by a backslash, one that is not marked itself.
def marks (text : List Char) : Bool := text.foldl (fun marked char => !marked && char == '\\') false

def standsFor? (mark : Char) : Option Char :=
  if mark = '\\' then some '\\'
  else if mark = '"' then some '"'
  else if mark = 'n' then some '\n'
  else if mark = 'r' then some '\r'
  else none

def isBare (char : Char) : Bool := char != '\\' && char != '"' && char != '\n' && char != '\r'

-- Undoes the escapes and takes nothing else: no other mark, and nothing bare that has an escape.
def unescape (marked : Bool) : List Char → Option (List Char)
  | [] => if marked then none else some []
  | char :: rest =>
      if marked then (standsFor? char).bind fun plain => (unescape false rest).map (plain :: ·)
      else if char = '\\' then unescape true rest
      else if isBare char then (unescape false rest).map (char :: ·)
      else none

theorem marks_append (text : List Char) (char : Char) : marks (text ++ [char]) = (!marks text && char == '\\') := by
  rw [marks, List.foldl_append, ← marks]
  rfl

theorem closing_slashes_append (text : List Char) (char : Char) :
    closingSlashes (text ++ [char]) = if char = '\\' then closingSlashes text + 1 else 0 := by
  rw [closingSlashes, List.reverse_append, List.reverse_singleton, List.singleton_append, List.takeWhile_cons]
  by_cases slash : char = '\\' <;> simp [slash, closingSlashes]

-- Backslashes mark each other in pairs, so what comes after them is marked if their number is odd.
theorem marks_odd (text : List Char) : marks text = true ↔ Odd (closingSlashes text) := by
  induction text using List.reverseRecOn with
  | nil => decide
  | append_singleton front char ih =>
      rw [marks_append, closing_slashes_append]
      by_cases slash : char = '\\'
      · simp [slash, Nat.odd_add_one, ← ih]
      · simp [slash]

theorem escape_char_cases (char : Char) :
    (isBare char = true ∧ escapeChar char = [char]) ∨
      ∃ mark, isBare char = false ∧ escapeChar char = ['\\', mark] ∧ standsFor? mark = some char := by
  unfold escapeChar
  split_ifs with slash quote line carriage
  · exact .inr ⟨'\\', by simp [slash, isBare], rfl, by simp [slash, standsFor?]⟩
  · exact .inr ⟨'"', by simp [quote, isBare], rfl, by simp [quote, standsFor?]⟩
  · exact .inr ⟨'n', by simp [line, isBare], rfl, by simp [line, standsFor?]⟩
  · exact .inr ⟨'r', by simp [carriage, isBare], rfl, by simp [carriage, standsFor?]⟩
  · exact .inl ⟨by simp [isBare, slash, quote, line, carriage], rfl⟩

theorem stands_for_escape (mark char : Char) (stands : standsFor? mark = some char) :
    escapeChar char = ['\\', mark] := by
  unfold standsFor? at stands
  split_ifs at stands with slash quote line carriage
  · cases stands
    rw [slash]
    rfl
  · cases stands
    rw [quote]
    rfl
  · cases stands
    rw [line]
    rfl
  · cases stands
    rw [carriage]
    rfl

theorem bare_escape (char : Char) (bare : isBare char = true) : escapeChar char = [char] := by
  rcases escape_char_cases char with ⟨_, written⟩ | ⟨mark, marked, _⟩
  · exact written
  · rw [bare] at marked
    contradiction

theorem stands_for_other (mark char : Char) (stands : standsFor? mark = some char) : mark ≠ '\n' ∧ mark ≠ '\r' := by
  constructor <;> rintro rfl <;> exact absurd stands (by simp [standsFor?])

@[simp] theorem escape_cons (char : Char) (rest : List Char) : escape (char :: rest) = escapeChar char ++ escape rest := rfl

theorem escape_one_line (text : List Char) : '\n' ∉ escape text ∧ '\r' ∉ escape text := by
  have single : ∀ char, '\n' ∉ escapeChar char ∧ '\r' ∉ escapeChar char := by
    intro char
    rcases escape_char_cases char with ⟨bare, written⟩ | ⟨mark, _, written, stands⟩
    · simp only [isBare, Bool.and_eq_true, bne_iff_ne] at bare
      simp [written, Ne.symm bare.1.2, Ne.symm bare.2]
    · obtain ⟨line, carriage⟩ := stands_for_other mark char stands
      simp [written, Ne.symm line, Ne.symm carriage]
  simp only [escape, List.mem_flatMap, not_exists, not_and]
  exact ⟨fun char _ => (single char).1, fun char _ => (single char).2⟩

theorem marks_escape_char (char : Char) (rest : List Char) : marks (escapeChar char ++ rest) = marks rest := by
  rcases escape_char_cases char with ⟨bare, written⟩ | ⟨mark, _, written, _⟩
  · have slash : (char == '\\') = false := by
      simp only [isBare, Bool.and_eq_true, bne_iff_ne] at bare
      exact beq_false_of_ne bare.1.1.1
    rw [written, List.singleton_append, marks, List.foldl_cons, slash]
    rfl
  · rw [written]
    rfl

theorem escape_unmarked (text : List Char) : marks (escape text) = false := by
  induction text with
  | nil => rfl
  | cons char rest ih => rw [escape_cons, marks_escape_char, ih]

-- A quote is only met as the mark of a backslash, and every character leaves the next one unmarked.
theorem escaped_quote_marked (text before after : List Char) (same : escape text = before ++ '"' :: after) :
    marks before = true := by
  induction text generalizing before with
  | nil => simp [escape] at same
  | cons char rest ih =>
      rw [escape_cons] at same
      rcases escape_char_cases char with ⟨bare, written⟩ | ⟨mark, _, written, _⟩
      · rw [written, List.singleton_append] at same
        cases before with
        | nil =>
            obtain ⟨rfl, _⟩ := List.cons.inj same
            exact absurd bare (by decide)
        | cons first others =>
            obtain ⟨rfl, left⟩ := List.cons.inj same
            have inner := ih others left
            have skipped := marks_escape_char char others
            rw [written, List.singleton_append] at skipped
            rw [skipped, inner]
      · rw [written] at same
        rcases before with _ | ⟨first, _ | ⟨second, others⟩⟩
        · obtain ⟨slash, _⟩ := List.cons.inj same
          exact absurd slash (by decide)
        · obtain ⟨rfl, _⟩ := List.cons.inj same
          rfl
        · obtain ⟨rfl, marked⟩ := List.cons.inj same
          obtain ⟨rfl, left⟩ := List.cons.inj marked
          have inner := ih others left
          rw [← inner]
          rfl

theorem unescape_char (char : Char) (rest : List Char) :
    unescape false (escapeChar char ++ rest) = (unescape false rest).map (char :: ·) := by
  rcases escape_char_cases char with ⟨bare, written⟩ | ⟨mark, _, written, stands⟩
  · have slash : char ≠ '\\' := by
      rintro rfl
      contradiction
    rw [written]
    simp [unescape, slash, bare]
  · rw [written]
    simp [unescape, stands]

theorem unescape_escape (text : List Char) : unescape false (escape text) = some text := by
  induction text with
  | nil => rfl
  | cons char rest ih =>
      rw [escape_cons, unescape_char, ih]
      rfl

theorem unescape_written (written : List Char) :
    (∀ text, unescape false written = some text → written = escape text) ∧
      ∀ text, unescape true written = some text → '\\' :: written = escape text := by
  induction written with
  | nil =>
      refine ⟨fun text read => ?_, fun text read => ?_⟩
      · cases read
        rfl
      · contradiction
  | cons char rest ih =>
      obtain ⟨plainly, marked⟩ := ih
      refine ⟨fun text read => ?_, fun text read => ?_⟩
      · by_cases slash : char = '\\'
        · subst slash
          exact marked text read
        · rw [unescape, if_neg Bool.false_ne_true, if_neg slash] at read
          split_ifs at read with bare
          obtain ⟨others, inner, rfl⟩ := Option.map_eq_some_iff.mp read
          rw [escape_cons, bare_escape char bare, plainly others inner]
          rfl
      · rw [unescape, if_pos rfl] at read
        obtain ⟨plain, stands, read⟩ := Option.bind_eq_some_iff.mp read
        obtain ⟨others, inner, rfl⟩ := Option.map_eq_some_iff.mp read
        rw [escape_cons, stands_for_escape char plain stands, plainly others inner]
        rfl

-- A text between quotes that is complete there and says one thing: it stays on its line, the quotes in it
-- are marked and the one after it is not, and it is read back as the text it is written for.
structure Quotable (written text : List Char) : Prop where
  line : '\n' ∉ written ∧ '\r' ∉ written
  quotes : ∀ before after, written = before ++ '"' :: after → Odd (closingSlashes before)
  closed : Even (closingSlashes written)
  complete : ∀ rest, readQuoted false (written ++ '"' :: rest) = some (text, rest)
  decoded : unescape false written = some text

theorem escape_quotable (text : List Char) : Quotable (escape text) text := by
  constructor
  case line => exact escape_one_line text
  case quotes => exact fun before after same => (marks_odd before).mp (escaped_quote_marked text before after same)
  case closed =>
    rw [← Nat.not_odd_iff_even, ← marks_odd, escape_unmarked]
    exact Bool.false_ne_true
  case complete => exact read_escaped text
  case decoded => exact unescape_escape text

theorem object_key_injective (one other : List Char) : objectKey one = objectKey other ↔ one = other := by
  constructor
  · intro same
    have ended : ∀ name, objectKey name = objectKey name ++ [] := fun name => (List.append_nil _).symm
    rw [ended one, ended other] at same
    have stops : Stops continuesIdentifier [] := fun first head => absurd head (by simp)
    exact (object_key_unique one other [] [] stops stops same).1
  · exact congrArg objectKey

theorem member_injective (base one other : List Char) : member base one = member base other ↔ one = other := by
  constructor
  · intro same
    have ended : ∀ name, member base name = member base name ++ [] := fun name => (List.append_nil _).symm
    rw [ended one, ended other] at same
    have stops : Stops continuesIdentifier [] := fun first head => absurd head (by simp)
    exact (member_unique base one other [] [] stops stops same).1
  · exact congrArg (member base)

-- No name leaves the quotes it is put in, none is written as another one is, and none that stands bare looks
-- like a quoted one. The escaped texts are those that can be read back.
theorem escaping_lossless (one other written : List Char) :
    Quotable (escape one) one ∧
    (unescape false written = some one ↔ written = escape one) ∧
    (objectKey one = objectKey other ↔ one = other) ∧
    (∀ base, member base one = member base other ↔ one = other) ∧
    (isIdentifier one = true →
      objectKey one = one ∧ one ≠ '"' :: escape other ++ ['"'] ∧
      ∀ base, member base one = base ++ '.' :: one ∧
        base ++ '.' :: one ≠ base ++ '[' :: '"' :: escape other ++ ['"', ']']) := by
  refine ⟨escape_quotable one, ⟨(unescape_written written).1 one, ?_⟩, object_key_injective one other,
    fun base => member_injective base one other, fun bare => ⟨if_pos bare, fun same => ?_, fun base => ⟨if_pos bare, ?_⟩⟩⟩
  · rintro rfl
    exact unescape_escape one
  · rw [← List.append_nil one] at same
    exact bare_not_quoted one [] _ bare same
  · simp

def hostileName : List Char := "\\\";\\\\\n\"]\r\\".toList

theorem hostile_name_kept :
    isIdentifier "$ref".toList = true ∧
      objectKey "$ref".toList = "$ref".toList ∧ "$ref".toList ≠ '"' :: escape hostileName ++ ['"'] ∧
      escape hostileName = "\\\\\\\";\\\\\\\\\\n\\\"]\\r\\\\".toList ∧
      unescape false (escape hostileName) = some hostileName := by
  obtain ⟨_, _, _, _, bare⟩ := escaping_lossless "$ref".toList hostileName []
  obtain ⟨same, apart, _⟩ := bare (by decide)
  exact ⟨by decide, same, apart, by decide, (escaping_lossless hostileName [] _).2.1.mpr rfl⟩

end ShapeCheck.Script
