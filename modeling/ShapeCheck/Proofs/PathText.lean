import Mathlib.Data.List.Nodup
import ShapeCheck.Json.Reader
import ShapeCheck.Proofs.Names
import ShapeCheck.Validation.Path

set_option autoImplicit false

namespace ShapeCheck

namespace Text

def digitsValue (base : Nat) (digits : List Char) : Nat :=
  digits.foldl (fun value digit => value * base + (Json.hexDigit? digit).getD 0) 0

def isHexDigit (char : Char) : Bool := (Json.hexDigit? char).isSome

theorem digit_char_hex : ∀ digit < 16, Json.hexDigit? (Nat.digitChar digit) = some digit := by decide

section

variable (base : Nat) (several : 1 < base) (few : base ≤ 16)
include several

theorem digits_induction {motive : Nat → List Char → Prop}
    (single : ∀ digit < base, motive digit [Nat.digitChar digit])
    (append : ∀ number digits, motive number digits → ∀ digit < base,
      motive (number * base + digit) (digits ++ [Nat.digitChar digit])) (number : Nat) :
    motive number (Nat.toDigits base number) := by
  induction number using Nat.strongRecOn with
  | ind number ih =>
      rw [Nat.toDigits_eq_if several]
      by_cases small : number < base
      · rw [if_pos small]
        exact single number small
      · have upper : number / base < number := Nat.div_lt_self (by omega) several
        have lower : number % base < base := Nat.mod_lt number (by omega)
        have joined := append (number / base) _ (ih _ upper) (number % base) lower
        rw [Nat.div_add_mod'] at joined
        rwa [if_neg small]

include few

theorem digits_value (number : Nat) : digitsValue base (Nat.toDigits base number) = number := by
  induction number using digits_induction base several with
  | single digit bound => simp [digitsValue, digit_char_hex digit (by omega)]
  | append number digits ih digit bound =>
      rw [digitsValue] at ih
      rw [digitsValue, List.foldl_append, ih, List.foldl_cons, List.foldl_nil, digit_char_hex digit (by omega)]
      rfl

theorem digits_hex (number : Nat) : (Nat.toDigits base number).all isHexDigit = true := by
  induction number using digits_induction base several with
  | single digit bound => simp [isHexDigit, digit_char_hex digit (by omega)]
  | append number digits ih digit bound =>
      have last : isHexDigit (Nat.digitChar digit) = true := by simp [isHexDigit, digit_char_hex digit (by omega)]
      simp [ih, last]

end

def markedChars : List (Char × Char) :=
  [('\x00', '0'), ('\t', 't'), ('\r', 'r'), ('\n', 'n'), ('\\', '\\'), ('"', '"')]

def readEscape : List Char → Option (Char × List Char)
  | 'u' :: _ :: rest =>
      let digits := rest.takeWhile isHexDigit
      some (Char.ofNat (digitsValue 16 digits), rest.drop (digits.length + 1))
  | mark :: rest => (markedChars.find? (·.2 == mark)).map fun marked => (marked.1, rest)
  | [] => none

def readShown : List Char → Option (Char × List Char)
  | [] => none
  | first :: rest => if first = '\\' then readEscape rest else some (first, rest)

theorem read_code (char : Char) (rest : List Char) : readShown (codeEscape char ++ rest) = some (char, rest) := by
  have digits := digits_hex 16 (by decide) (by decide) char.toNat
  have taken := Script.run_taken isHexDigit _ ('\x7d' :: rest) digits (Script.stops_cons _ _ _ (by decide))
  have value := digits_value 16 (by decide) (by decide) char.toNat
  simp [codeEscape, readShown, readEscape, taken, value]

theorem read_quoted_char (char : Char) (rest : List Char) :
    readShown (quotedChar char ++ rest) = some (char, rest) := by
  unfold quotedChar
  split_ifs with null tab carriage line slash quote hidden
  · rw [null]
    rfl
  · rw [tab]
    rfl
  · rw [carriage]
    rfl
  · rw [line]
    rfl
  · rw [slash]
    rfl
  · rw [quote]
    rfl
  · exact read_code char rest
  · simp [readShown, slash]

theorem quoted_char_inside (char : Char) (rest more : List Char) : quotedChar char ++ rest ≠ '"' :: more := by
  intro same
  have read := congrArg readShown same
  rw [read_quoted_char] at read
  obtain ⟨rfl, rfl⟩ := Prod.mk.inj (Option.some.inj read)
  simp [quotedChar] at same

-- Quoted text ends at the first quote that is not part of a shown character.
theorem quoted_text_unique (one other rest more : List Char)
    (same : one.flatMap quotedChar ++ '"' :: rest = other.flatMap quotedChar ++ '"' :: more) :
    one = other ∧ rest = more := by
  induction one generalizing other with
  | nil =>
      cases other with
      | nil => exact ⟨rfl, (List.cons.inj same).2⟩
      | cons char others =>
          rw [List.flatMap_cons, List.append_assoc] at same
          exact absurd same.symm (quoted_char_inside char _ _)
  | cons first chars ih =>
      cases other with
      | nil =>
          rw [List.flatMap_cons, List.append_assoc] at same
          exact absurd same (quoted_char_inside first _ _)
      | cons char others =>
          rw [List.flatMap_cons, List.flatMap_cons, List.append_assoc, List.append_assoc] at same
          have read := congrArg readShown same
          rw [read_quoted_char, read_quoted_char, Option.some.injEq, Prod.mk.injEq] at read
          obtain ⟨texts, left⟩ := ih others read.2
          exact ⟨congrArg₂ List.cons read.1 texts, left⟩

end Text

namespace Segment

theorem starts_continues (char : Char) (starts : startsWord char = true) : continuesWord char = true := by
  simp only [startsWord, continuesWord, Bool.or_eq_true] at starts ⊢
  grind

theorem plain_run (name : List Char) (plain : isPlain name = true) : name.all continuesWord = true := by
  cases name with
  | nil => contradiction
  | cons first rest =>
      rw [isPlain, Bool.and_eq_true] at plain
      rw [List.all_cons, starts_continues first plain.1, plain.2]
      rfl

theorem plain_first (name rest more : List Char) (first : Char) (plain : isPlain name = true)
    (same : name ++ rest = first :: more) : startsWord first = true := by
  cases name with
  | nil => contradiction
  | cons char others =>
      rw [isPlain, Bool.and_eq_true] at plain
      rw [List.cons_append, List.cons.injEq] at same
      exact same.1 ▸ plain.1

inductive Written (first : Bool) : Segment → List Char → Prop where
  | word (name : String) (plain : isPlain name.toList = true) :
      Written first (.key name) (if first then name.toList else '.' :: name.toList)
  | number (position : Nat) : Written first (.index position) ('[' :: Nat.toDigits 10 position ++ [']'])
  | quoted (name : String) : Written first (.key name) ('[' :: Text.quotedChars name.toList ++ [']'])

theorem chars_written (first : Bool) (segment : Segment) : Written first segment (segment.chars first) := by
  cases segment with
  | index position => exact .number position
  | key name =>
      rw [chars]
      by_cases plain : isPlain name.toList = true
      · rw [if_pos plain]
        exact .word name plain
      · rw [if_neg plain]
        exact .quoted name

theorem word_not_bracket (first : Bool) (name rest more : List Char) (plain : isPlain name = true) :
    (if first then name else '.' :: name) ++ rest ≠ '[' :: more := by
  cases first with
  | false => exact fun same => absurd (List.cons.inj same).1 (by decide)
  | true => exact fun same => absurd (plain_first name rest more '[' plain same) (by decide)

theorem word_unique (first : Bool) (one other rest more : List Char) (plain : isPlain one = true)
    (plainToo : isPlain other = true) (stops : Script.Stops continuesWord rest)
    (stopsToo : Script.Stops continuesWord more)
    (same : (if first then one else '.' :: one) ++ rest = (if first then other else '.' :: other) ++ more) :
    one = other ∧ rest = more := by
  have bare : one ++ rest = other ++ more := by
    cases first with
    | false => exact (List.cons.inj same).2
    | true => exact same
  exact Script.run_unique continuesWord one other rest more (plain_run one plain) (plain_run other plainToo)
    stops stopsToo bare

theorem number_unique (one other : Nat) (rest more : List Char)
    (same : Nat.toDigits 10 one ++ ']' :: rest = Nat.toDigits 10 other ++ ']' :: more) : one = other ∧ rest = more := by
  have digits := Text.digits_hex 10 (by decide) (by decide)
  have values := Text.digits_value 10 (by decide) (by decide)
  have stops : ∀ text, Script.Stops Text.isHexDigit (']' :: text) := fun text => Script.stops_cons _ _ text (by decide)
  obtain ⟨runs, left⟩ := Script.run_unique _ _ _ _ _ (digits one) (digits other) (stops rest) (stops more) same
  refine ⟨?_, (List.cons.inj left).2⟩
  rw [← values one, ← values other, runs]

theorem number_not_quoted (position : Nat) (rest more : List Char) :
    Nat.toDigits 10 position ++ rest ≠ '"' :: more := by
  intro same
  obtain ⟨digit, others, text⟩ := List.exists_cons_of_ne_nil (Nat.toDigits_ne_nil (n := position) (b := 10))
  have hex := Text.digits_hex 10 (by decide) (by decide) position
  rw [text, List.all_cons, Bool.and_eq_true] at hex
  rw [text, List.cons_append, List.cons.injEq] at same
  exact absurd (same.1 ▸ hex.1) (by decide)

theorem chars_unique (first : Bool) (one other : Segment) (rest more : List Char)
    (stops : Script.Stops continuesWord rest) (stopsToo : Script.Stops continuesWord more)
    (same : one.chars first ++ rest = other.chars first ++ more) : one = other ∧ rest = more := by
  have written := chars_written first one
  have writtenToo := chars_written first other
  generalize one.chars first = text at written same
  generalize other.chars first = textToo at writtenToo same
  cases written with
  | word name plain =>
      cases writtenToo with
      | word nameToo plainToo =>
          obtain ⟨names, left⟩ := word_unique first _ _ rest more plain plainToo stops stopsToo same
          exact ⟨congrArg key (String.toList_inj.mp names), left⟩
      | number position => exact absurd same (word_not_bracket first _ rest _ plain)
      | quoted nameToo => exact absurd same (word_not_bracket first _ rest _ plain)
  | number position =>
      cases writtenToo with
      | word name plain => exact absurd same.symm (word_not_bracket first _ more _ plain)
      | number positionToo =>
          simp only [List.cons_append, List.append_assoc, List.cons.injEq, true_and, List.nil_append] at same
          obtain ⟨positions, left⟩ := number_unique _ _ rest more same
          exact ⟨congrArg index positions, left⟩
      | quoted name =>
          simp only [Text.quotedChars, List.cons_append, List.append_assoc, List.cons.injEq, true_and] at same
          exact absurd same (number_not_quoted position _ _)
  | quoted name =>
      cases writtenToo with
      | word nameToo plain => exact absurd same.symm (word_not_bracket first _ more _ plain)
      | number position =>
          simp only [Text.quotedChars, List.cons_append, List.append_assoc, List.cons.injEq, true_and] at same
          exact absurd same.symm (number_not_quoted position _ _)
      | quoted nameToo =>
          simp only [Text.quotedChars, List.cons_append, List.append_assoc, List.cons.injEq, true_and,
            List.nil_append] at same
          obtain ⟨names, left⟩ := Text.quoted_text_unique _ _ _ _ same
          exact ⟨congrArg key (String.toList_inj.mp names), (List.cons.inj left).2⟩

theorem chars_first (first : Bool) (segment : Segment) (rest : List Char) :
    ∃ char others, segment.chars first ++ rest = char :: others ∧
      (char = '[' ∨ if first then startsWord char = true else char = '.') := by
  have written := chars_written first segment
  generalize segment.chars first = text at written
  cases written with
  | number position => exact ⟨_, _, rfl, .inl rfl⟩
  | quoted name => exact ⟨_, _, rfl, .inl rfl⟩
  | word name plain =>
      cases first with
      | false => exact ⟨_, _, rfl, .inr rfl⟩
      | true =>
          rw [if_pos rfl]
          generalize name.toList = chars at plain
          cases chars with
          | nil => contradiction
          | cons char others =>
              have starts := plain_first _ [] _ char plain (List.append_nil _)
              exact ⟨char, others ++ rest, rfl, .inr starts⟩

end Segment

namespace Path

theorem rest_stops (segments : List Segment) :
    Script.Stops Segment.continuesWord (segments.flatMap (Segment.chars false)) := by
  cases segments with
  | nil => exact fun first listed => by cases listed
  | cons segment rest =>
      obtain ⟨char, others, text, mark⟩ := segment.chars_first false (rest.flatMap (Segment.chars false))
      rw [List.flatMap_cons, text]
      apply Script.stops_cons
      rcases mark with rfl | rfl <;> decide

theorem rest_unique (one other : List Segment)
    (same : one.flatMap (Segment.chars false) = other.flatMap (Segment.chars false)) : one = other := by
  induction one generalizing other with
  | nil =>
      cases other with
      | nil => rfl
      | cons segment rest =>
          obtain ⟨char, others, text, _⟩ := segment.chars_first false (rest.flatMap (Segment.chars false))
          rw [List.flatMap_cons, text] at same
          contradiction
  | cons segment rest ih =>
      cases other with
      | nil =>
          obtain ⟨char, others, text, _⟩ := segment.chars_first false (rest.flatMap (Segment.chars false))
          rw [List.flatMap_cons, text] at same
          contradiction
      | cons segmentToo restToo =>
          obtain ⟨segments, left⟩ := Segment.chars_unique false _ _ _ _ (rest_stops rest) (rest_stops restToo) same
          rw [segments, ih restToo left]

theorem root_apart (segment : Segment) (rest : List Segment) : chars (segment :: rest) ≠ chars [] := by
  intro same
  obtain ⟨char, others, text, mark⟩ := segment.chars_first true (rest.flatMap (Segment.chars false))
  obtain ⟨rfl, _⟩ := List.cons.inj (text.symm.trans same)
  exact absurd mark (by decide)

theorem chars_injective (one other : Path) (same : chars one = chars other) : one = other := by
  cases one with
  | nil =>
      cases other with
      | nil => rfl
      | cons segment rest => exact absurd same.symm (root_apart segment rest)
  | cons segment rest =>
      cases other with
      | nil => exact absurd same (root_apart segment rest)
      | cons segmentToo restToo =>
          obtain ⟨segments, left⟩ := Segment.chars_unique true _ _ _ _ (rest_stops rest) (rest_stops restToo) same
          rw [segments, rest_unique rest restToo left]

end Path

theorem path_text_unique :
    (∀ one other : Path, Path.render one = Path.render other ↔ one = other) ∧
    ∀ path : Path, Path.render path = "(root)" ↔ path = [] := by
  have injective : ∀ one other : Path, Path.render one = Path.render other ↔ one = other := by
    intro one other
    rw [Path.render, Path.render, String.ofList_inj]
    exact ⟨Path.chars_injective one other, congrArg Path.chars⟩
  exact ⟨injective, fun path => injective path []⟩

-- Keys that look like an index, like several keys, like a quoted key or like the root.
def lookalikes : List Path :=
  [[], [.key "(root)"], [.index 0], [.key "0"], [.key "[0]"], [.key "a", .key "b"], [.key "a.b"], [.key ".b"],
    [.key "a", .index 0], [.key "a[0]"], [.key "a"], [.key "[\"a\"]"], [.key "\"a\""], [.key ""], [.key "", .key "a"],
    [.key "\u0007"], [.key "\\u\x7b7\x7d"]]

theorem lookalikes_told_apart : (lookalikes.map Path.render).Nodup := by
  have injective : Function.Injective Path.render := fun one other => (path_text_unique.1 one other).mp
  exact List.Nodup.map injective (by decide)

end ShapeCheck
