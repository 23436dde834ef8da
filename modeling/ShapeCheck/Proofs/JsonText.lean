import Mathlib.Data.List.Basic
import ShapeCheck.Json.Writer

set_option autoImplicit false

namespace ShapeCheck

def numberChar (char : Char) : Bool := char.isDigit || ['+', '-', '.', 'e'].contains char

def NumberText (text : List Char) : Prop := text ≠ [] ∧ text.all numberChar = true

theorem digits_number_text (number : Nat) : NumberText (Nat.toDigits 10 number) := by
  refine ⟨Nat.toDigits_ne_nil, List.all_eq_true.mpr fun char listed => ?_⟩
  have digit := Nat.isDigit_of_mem_toDigits (by decide) (by decide) listed
  rw [numberChar, digit, Bool.true_or]

theorem signed_number_text (text : List Char) (unsigned : NumberText text) : NumberText ('-' :: text) :=
  ⟨List.cons_ne_nil _ _, unsigned.2⟩

namespace Decimal

theorem zeros_number (count : Int) : (zeros count).all numberChar = true := by
  refine List.all_eq_true.mpr fun char listed => ?_
  rw [List.eq_of_mem_replicate listed]
  decide

theorem in_place_number_text (decimal : Decimal) : NumberText decimal.inPlace := by
  have digits : NumberText decimal.digitChars := digits_number_text _
  have point : numberChar '.' = true := by decide
  have zero : numberChar '0' = true := by decide
  rw [inPlace]
  simp only
  split
  · simp [NumberText, digits.2, zeros_number, point, zero]
  · split
    · have whole := digits.2
      rw [← List.take_append_drop (decimal.leading + 1).toNat decimal.digitChars, List.all_append,
        Bool.and_eq_true] at whole
      simp [NumberText, whole, point]
    · simp [NumberText, digits.2, zeros_number, point, zero]

theorem with_exponent_number_text (decimal : Decimal) : NumberText decimal.withExponent := by
  have digits : NumberText decimal.digitChars := digits_number_text _
  have power : NumberText (Nat.toDigits 10 decimal.leading.natAbs) := digits_number_text _
  have sign : numberChar (if decimal.leading < 0 then '-' else '+') = true := by
    split <;> decide
  have point : numberChar '.' = true := by decide
  have mark : numberChar 'e' = true := by decide
  rw [withExponent]
  generalize decimal.digitChars = text at digits
  rcases text with _ | ⟨first, _ | ⟨second, rest⟩⟩
  · exact absurd rfl digits.1
  · have single := List.all_eq_true.mp digits.2 first List.mem_cons_self
    simp [NumberText, power.2, sign, mark, single]
  · simpa [NumberText, power.2, sign, mark, point] using digits.2

theorem render_number_text (layout : DoubleLayout) (decimal : Decimal) : NumberText (decimal.render layout) := by
  rw [render]
  split
  · exact decimal.in_place_number_text
  · exact decimal.with_exponent_number_text

end Decimal

theorem number_text (number : Number) : NumberText number.render := by
  cases number with
  | integer value =>
      have magnitude := digits_number_text value.natAbs
      rw [Number.render]
      split
      · exact signed_number_text _ magnitude
      · exact magnitude
  | double value =>
      have magnitude := (Double.shortest value.rank).render_number_text Json.doubleLayout
      rw [Number.render, Double.render]
      split
      · exact signed_number_text _ magnitude
      · exact magnitude

namespace Json

-- Where a reader of a text stands in it: in how many containers, and there between strings, in a
-- string, or in one right after a backslash.
inductive Position where
  | outside (depth : Nat)
  | quoted (depth : Nat)
  | escaped (depth : Nat)
deriving DecidableEq

-- A comma or a closing bracket outside of all containers is not part of the text.
def Position.next : Position → Char → Option Position
  | .outside depth, char =>
      if char = '"' then some (.quoted depth)
      else if char = '[' ∨ char = '\x7b' then some (.outside (depth + 1))
      else if char = ']' ∨ char = '\x7d' then
        match depth with
        | 0 => none
        | outer + 1 => some (.outside outer)
      else if char = ',' ∧ depth = 0 then none
      else some (.outside depth)
  | .quoted depth, char =>
      if char = '"' then some (.outside depth)
      else if char = '\\' then some (.escaped depth)
      else some (.quoted depth)
  | .escaped depth, _ => some (.quoted depth)

def Position.after (position : Position) (text : List Char) : Option Position :=
  text.foldlM Position.next position

@[simp] theorem after_cons (position : Position) (char : Char) (rest : List Char) :
    position.after (char :: rest) = (position.next char).bind fun next => next.after rest :=
  List.foldlM_cons

theorem after_append (position : Position) (front back : List Char) :
    position.after (front ++ back) = (position.after front).bind fun middle => middle.after back :=
  List.foldlM_append

def Balanced (depth : Nat) (text : List Char) : Prop :=
  (Position.outside depth).after text = some (.outside depth)

@[simp] theorem balanced_nil (depth : Nat) : Balanced depth [] := rfl

theorem balanced_append (depth : Nat) (front back : List Char) (first : Balanced depth front)
    (second : Balanced depth back) : Balanced depth (front ++ back) := by
  rw [Balanced, after_append, first]
  exact second

theorem balanced_cons (depth : Nat) (char : Char) (rest : List Char)
    (plain : (Position.outside depth).next char = some (.outside depth)) (others : Balanced depth rest) :
    Balanced depth (char :: rest) := by
  rw [Balanced, after_cons, plain]
  exact others

theorem number_char_outside (depth : Nat) (char : Char) (number : numberChar char = true) :
    (Position.outside depth).next char = some (.outside depth) := by
  have marks : ['"', '[', '\x7b', ']', '\x7d', ','].all (! numberChar ·) = true := by decide
  have apart : ∀ mark ∈ ['"', '[', '\x7b', ']', '\x7d', ','], char ≠ mark := by
    intro mark listed same
    have none := List.all_eq_true.mp marks mark listed
    rw [← same, number] at none
    contradiction
  simp [Position.next, apart]

theorem number_balanced (depth : Nat) (text : List Char) (number : text.all numberChar = true) : Balanced depth text := by
  induction text with
  | nil => exact balanced_nil depth
  | cons char rest ih =>
      rw [List.all_cons, Bool.and_eq_true] at number
      exact balanced_cons depth char rest (number_char_outside depth char number.1) (ih number.2)

theorem hex_char_quoted (depth digit : Nat) (small : digit < 16) :
    (Position.quoted depth).next (Nat.digitChar digit) = some (.quoted depth) := by
  have apart : ∀ digit < 16, Nat.digitChar digit ≠ '"' ∧ Nat.digitChar digit ≠ '\\' := by decide
  simp [Position.next, apart digit small]

theorem escape_after (depth : Nat) (char : Char) :
    (Position.quoted depth).after (escapeChar char) = some (.quoted depth) := by
  unfold escapeChar
  split_ifs with quote slash line carriage tab backspace feed control
  -- A backslash and the one character it marks, for all but control characters and plain ones.
  any_goals rfl
  · have high := hex_char_quoted depth (char.toNat / 16) (by omega)
    have low := hex_char_quoted depth (char.toNat % 16) (by omega)
    change (Position.quoted depth).after [_, _] = _
    rw [after_cons, high]
    change (Position.quoted depth).after [_] = _
    rw [after_cons, low]
    rfl
  · rw [after_cons, Position.next, if_neg quote, if_neg slash]
    rfl

theorem escaped_after (depth : Nat) (text : List Char) :
    (Position.quoted depth).after (text.flatMap escapeChar) = some (.quoted depth) := by
  induction text with
  | nil => rfl
  | cons char rest ih =>
      rw [List.flatMap_cons, after_append, escape_after]
      exact ih

theorem string_balanced (depth : Nat) (text : String) : Balanced depth (stringChars text) := by
  rw [Balanced, stringChars, List.cons_append, after_cons]
  change (Position.quoted depth).after _ = _
  rw [after_append, escaped_after]
  rfl

theorem scalar_balanced (depth : Nat) (content : Scalar) : Balanced depth (scalarChars content) := by
  cases content with
  | null => rfl
  | boolean flag => cases flag <;> rfl
  | number number => exact number_balanced depth number.render (number_text number).2
  | string text => exact string_balanced depth text

theorem enclosed_balanced (depth : Nat) (opening closing : Char) (inner : List Char)
    (enters : (Position.outside depth).next opening = some (.outside (depth + 1)))
    (leaves : (Position.outside (depth + 1)).next closing = some (.outside depth)) (inside : Balanced (depth + 1) inner) :
    Balanced depth (opening :: inner ++ [closing]) := by
  rw [Balanced, List.cons_append, after_cons, enters, Option.bind_some, after_append, inside, Option.bind_some,
    after_cons, leaves]
  rfl

theorem entry_balanced (depth : Nat) (key : String) (text : List Char) (inside : Balanced depth text) :
    Balanced depth (stringChars key ++ ':' :: text) := by
  have colon := balanced_cons depth ':' text rfl inside
  exact balanced_append depth _ _ (string_balanced depth key) colon

mutual
theorem chars_balanced (depth : Nat) (value : Json) : Balanced depth value.chars := by
  cases value with
  | scalar content =>
      rw [chars]
      exact scalar_balanced depth content
  | array items =>
      rw [chars]
      exact enclosed_balanced depth '[' ']' _ rfl rfl (item_chars_balanced depth items)
  | object entries =>
      rw [chars]
      exact enclosed_balanced depth '\x7b' '\x7d' _ rfl rfl (entry_chars_balanced depth entries)
theorem item_chars_balanced (depth : Nat) (items : List Json) : Balanced (depth + 1) (itemChars items) := by
  cases items with
  | nil =>
      rw [itemChars]
      exact balanced_nil _
  | cons item rest =>
      rw [itemChars]
      exact balanced_append _ _ _ (chars_balanced _ item) (more_item_chars_balanced depth rest)
theorem more_item_chars_balanced (depth : Nat) (items : List Json) : Balanced (depth + 1) (moreItemChars items) := by
  cases items with
  | nil =>
      rw [moreItemChars]
      exact balanced_nil _
  | cons item rest =>
      have comma := balanced_cons (depth + 1) ',' item.chars rfl (chars_balanced _ item)
      rw [moreItemChars]
      exact balanced_append _ _ _ comma (more_item_chars_balanced depth rest)
theorem entry_chars_balanced (depth : Nat) (entries : List (String × Json)) :
    Balanced (depth + 1) (entryChars entries) := by
  cases entries with
  | nil =>
      rw [entryChars]
      exact balanced_nil _
  | cons entry rest =>
      rcases entry with ⟨key, value⟩
      have first := entry_balanced (depth + 1) key value.chars (chars_balanced _ value)
      rw [entryChars]
      exact balanced_append _ _ _ first (more_entry_chars_balanced depth rest)
theorem more_entry_chars_balanced (depth : Nat) (entries : List (String × Json)) :
    Balanced (depth + 1) (moreEntryChars entries) := by
  cases entries with
  | nil =>
      rw [moreEntryChars]
      exact balanced_nil _
  | cons entry rest =>
      rcases entry with ⟨key, value⟩
      have first := entry_balanced (depth + 1) key value.chars (chars_balanced _ value)
      have comma := balanced_cons (depth + 1) ',' _ rfl first
      rw [moreEntryChars]
      exact balanced_append _ _ _ comma (more_entry_chars_balanced depth rest)
end

def Follows (text : List Char) : Prop :=
  ∀ first ∈ text.head?, (Position.outside 0).next first = none

theorem balanced_longest (front extra back : List Char) (first : Balanced 0 front) (longer : Balanced 0 (front ++ extra))
    (follows : Follows (extra ++ back)) : extra = [] := by
  cases extra with
  | nil => rfl
  | cons char rest =>
      have stuck := follows char (Option.mem_def.mpr rfl)
      rw [Balanced, after_append, first, Option.bind_some, after_cons, stuck] at longer
      contradiction

theorem balanced_unique (one other rest more : List Char) (first : Balanced 0 one) (second : Balanced 0 other)
    (follows : Follows rest) (followsToo : Follows more) (same : one ++ rest = other ++ more) :
    one = other ∧ rest = more := by
  rcases List.append_eq_append_iff.mp same with ⟨extra, longer, left⟩ | ⟨extra, longer, left⟩
  · have none := balanced_longest one extra more first (longer ▸ second) (left ▸ follows)
    subst none
    exact ⟨(longer.trans (List.append_nil one)).symm, left⟩
  · have none := balanced_longest other extra rest second (longer ▸ first) (left ▸ followsToo)
    subst none
    exact ⟨longer.trans (List.append_nil other), left.symm⟩

theorem chars_first (value : Json) : ∃ first rest, value.chars = first :: rest ∧ first ≠ 'a' := by
  cases value with
  | scalar content =>
      rw [chars]
      cases content with
      | null => exact ⟨_, _, rfl, by decide⟩
      | boolean flag => cases flag <;> exact ⟨_, _, rfl, by decide⟩
      | number number =>
          obtain ⟨filled, digits⟩ := number_text number
          obtain ⟨first, rest, same⟩ := List.exists_cons_of_ne_nil filled
          rw [same, List.all_cons, Bool.and_eq_true] at digits
          have apart : first ≠ 'a' := fun letter => absurd (letter ▸ digits.1) (by decide)
          exact ⟨first, rest, same, apart⟩
      | string text => exact ⟨_, _, rfl, by decide⟩
  | array items => exact ⟨_, _, by rw [chars]; rfl, by decide⟩
  | object members => exact ⟨_, _, by rw [chars]; rfl, by decide⟩

end Json

end ShapeCheck
