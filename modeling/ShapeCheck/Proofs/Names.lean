import ShapeCheck.Script.Name

set_option autoImplicit false

namespace ShapeCheck.Script

-- A name is written so that it can be read back from in front of any text that may follow it: a
-- bare name ends where its characters do, and a quoted one at the first quote not marked by a backslash.

def Stops (sort : Char → Bool) (text : List Char) : Prop := ∀ first ∈ text.head?, sort first = false

theorem stops_cons (sort : Char → Bool) (first : Char) (rest : List Char) (apart : sort first = false) :
    Stops sort (first :: rest) := by
  intro char head
  rw [List.head?_cons, Option.mem_some_iff] at head
  exact head ▸ apart

theorem run_taken (sort : Char → Bool) (run rest : List Char) (inside : run.all sort = true) (stops : Stops sort rest) :
    (run ++ rest).takeWhile sort = run := by
  have stopped : rest.takeWhile sort = [] := by
    cases rest with
    | nil => rfl
    | cons first others => exact List.takeWhile_cons_of_neg (by rw [stops first rfl]; decide)
  rw [List.takeWhile_append_of_pos (List.all_eq_true.mp inside), stopped, List.append_nil]

theorem run_unique (sort : Char → Bool) (one other rest more : List Char) (inside : one.all sort = true)
    (insideToo : other.all sort = true) (stops : Stops sort rest) (stopsToo : Stops sort more)
    (same : one ++ rest = other ++ more) : one = other ∧ rest = more := by
  have taken := congrArg (List.takeWhile sort) same
  rw [run_taken sort one rest inside stops, run_taken sort other more insideToo stopsToo] at taken
  rw [taken] at same
  exact ⟨taken, List.append_cancel_left same⟩

def unescapeChar (mark : Char) : Char :=
  if mark = 'n' then '\n' else if mark = 'r' then '\r' else mark

-- The text up to the closing quote, and what is left after it. A character may be marked by a
-- backslash before it.
def readQuoted (marked : Bool) : List Char → Option (List Char × List Char)
  | [] => none
  | char :: rest =>
      if marked then (readQuoted false rest).map fun read => (unescapeChar char :: read.1, read.2)
      else if char = '\\' then readQuoted true rest
      else if char = '"' then some ([], rest)
      else (readQuoted false rest).map fun read => (char :: read.1, read.2)

theorem read_escaped_char (char : Char) (rest : List Char) :
    readQuoted false (escapeChar char ++ rest) = (readQuoted false rest).map fun read => (char :: read.1, read.2) := by
  by_cases slash : char = '\\'
  · subst slash
    simp [escapeChar, readQuoted, unescapeChar]
  by_cases quote : char = '"'
  · subst quote
    simp [escapeChar, readQuoted, unescapeChar]
  by_cases line : char = '\n'
  · subst line
    simp [escapeChar, readQuoted, unescapeChar]
  by_cases carriage : char = '\r'
  · subst carriage
    simp [escapeChar, readQuoted, unescapeChar]
  simp [escapeChar, readQuoted, slash, quote, line, carriage]

theorem read_escaped (text rest : List Char) : readQuoted false (escape text ++ '"' :: rest) = some (text, rest) := by
  induction text with
  | nil => rfl
  | cons char others ih =>
      rw [escape, List.flatMap_cons, List.append_assoc, read_escaped_char]
      change (readQuoted false (escape others ++ '"' :: rest)).map _ = _
      rw [ih]
      rfl

theorem quoted_unique (one other rest more : List Char) (same : escape one ++ '"' :: rest = escape other ++ '"' :: more) :
    one = other ∧ rest = more := by
  have read := congrArg (readQuoted false) same
  rw [read_escaped, read_escaped, Option.some.injEq, Prod.mk.injEq] at read
  exact read

theorem starts_continues (char : Char) (starts : startsIdentifier char = true) : continuesIdentifier char = true := by
  simp only [startsIdentifier, continuesIdentifier, Char.isAlphanum, Bool.or_eq_true] at starts ⊢
  grind

theorem identifier_run (name : List Char) (identifier : isIdentifier name = true) :
    name.all continuesIdentifier = true := by
  cases name with
  | nil => contradiction
  | cons first rest =>
      rw [isIdentifier, Bool.and_eq_true] at identifier
      rw [List.all_cons, starts_continues first identifier.1, identifier.2]
      rfl

theorem bare_unique (one other rest more : List Char) (bare : isIdentifier one = true)
    (bareToo : isIdentifier other = true) (stops : Stops continuesIdentifier rest)
    (stopsToo : Stops continuesIdentifier more) (same : one ++ rest = other ++ more) : one = other ∧ rest = more :=
  run_unique continuesIdentifier one other rest more (identifier_run one bare) (identifier_run other bareToo)
    stops stopsToo same

theorem bare_not_quoted (name rest more : List Char) (identifier : isIdentifier name = true) :
    name ++ rest ≠ '"' :: more := by
  intro same
  cases name with
  | nil => contradiction
  | cons first others =>
      rw [isIdentifier, Bool.and_eq_true] at identifier
      rw [List.cons_append, List.cons.injEq] at same
      rw [same.1] at identifier
      exact absurd identifier.1 (by decide)

theorem object_key_unique (one other rest more : List Char) (stops : Stops continuesIdentifier rest)
    (stopsToo : Stops continuesIdentifier more) (same : objectKey one ++ rest = objectKey other ++ more) :
    one = other ∧ rest = more := by
  cases bare : isIdentifier one with
  | true =>
      cases bareToo : isIdentifier other with
      | true =>
          rw [objectKey, objectKey, if_pos bare, if_pos bareToo] at same
          exact bare_unique one other rest more bare bareToo stops stopsToo same
      | false =>
          rw [objectKey, objectKey, if_pos bare, bareToo] at same
          exact absurd same (bare_not_quoted one rest _ bare)
  | false =>
      cases bareToo : isIdentifier other with
      | true =>
          rw [objectKey, objectKey, if_pos bareToo, bare] at same
          exact absurd same.symm (bare_not_quoted other more _ bareToo)
      | false =>
          simp only [objectKey, bare, bareToo, Bool.false_eq_true, if_false, List.cons_append, List.append_assoc,
            List.cons.injEq, true_and, List.nil_append] at same
          exact quoted_unique one other rest more same

theorem member_unique (base one other rest more : List Char) (stops : Stops continuesIdentifier rest)
    (stopsToo : Stops continuesIdentifier more) (same : member base one ++ rest = member base other ++ more) :
    one = other ∧ rest = more := by
  cases bare : isIdentifier one with
  | true =>
      cases bareToo : isIdentifier other with
      | true =>
          simp only [member, bare, bareToo, if_true, List.append_assoc, List.append_cancel_left_eq, List.cons_append,
            List.cons.injEq, true_and] at same
          exact bare_unique one other rest more bare bareToo stops stopsToo same
      | false => simp [member, bare, bareToo] at same
  | false =>
      cases bareToo : isIdentifier other with
      | true => simp [member, bare, bareToo] at same
      | false =>
          simp only [member, bare, bareToo, Bool.false_eq_true, if_false, List.cons_append, List.append_assoc,
            List.append_cancel_left_eq, List.cons.injEq, true_and, List.nil_append] at same
          obtain ⟨names, left⟩ := quoted_unique one other _ _ same
          exact ⟨names, (List.cons.inj left).2⟩

end ShapeCheck.Script
