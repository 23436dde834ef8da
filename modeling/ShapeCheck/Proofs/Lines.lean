import Mathlib.Data.List.Basic
import ShapeCheck.Proofs.Escaping
import ShapeCheck.Proofs.JsonText
import ShapeCheck.Proofs.Layout
import ShapeCheck.Proofs.Survey

set_option autoImplicit false

namespace ShapeCheck

-- JSON text has no line feed, whatever its strings are: they show theirs as escapes.
namespace Json

theorem escape_char_one_line (char : Char) : '\n' ∉ escapeChar char := by
  have digit : ∀ value < 16, '\n' ≠ Nat.digitChar value := by decide
  unfold escapeChar
  split_ifs with quote slash line carriage tab backspace feed control
  any_goals decide
  · have small : char.toNat / 16 < 16 ∧ char.toNat % 16 < 16 := by omega
    simp [digit _ small.1, digit _ small.2]
  · simpa using Ne.symm line

theorem string_one_line (text : String) : '\n' ∉ stringChars text := by
  simp [stringChars, escape_char_one_line]

theorem scalar_one_line (content : Scalar) : '\n' ∉ scalarChars content := by
  cases content with
  | null => decide
  | boolean flag => cases flag <;> decide
  | number number =>
      intro listed
      have digits := List.all_eq_true.mp (number_text number).2 '\n' listed
      exact absurd digits (by decide)
  | string text => exact string_one_line text

mutual
theorem chars_one_line (value : Json) : '\n' ∉ value.chars := by
  cases value with
  | scalar content => simpa [chars] using scalar_one_line content
  | array items => simpa [chars] using item_chars_one_line items
  | object entries => simpa [chars] using entry_chars_one_line entries
theorem item_chars_one_line (items : List Json) : '\n' ∉ itemChars items := by
  cases items with
  | nil => simp [itemChars]
  | cons item rest => simp [itemChars, chars_one_line item, more_item_chars_one_line rest]
theorem more_item_chars_one_line (items : List Json) : '\n' ∉ moreItemChars items := by
  cases items with
  | nil => simp [moreItemChars]
  | cons item rest => simp [moreItemChars, chars_one_line item, more_item_chars_one_line rest]
theorem entry_chars_one_line (entries : List (String × Json)) : '\n' ∉ entryChars entries := by
  cases entries with
  | nil => simp [entryChars]
  | cons entry rest =>
      simp [entryChars, string_one_line entry.1, chars_one_line entry.2, more_entry_chars_one_line rest]
theorem more_entry_chars_one_line (entries : List (String × Json)) : '\n' ∉ moreEntryChars entries := by
  cases entries with
  | nil => simp [moreEntryChars]
  | cons entry rest =>
      simp [moreEntryChars, string_one_line entry.1, chars_one_line entry.2, more_entry_chars_one_line rest]
end

end Json

namespace Spec

mutual
def lineCount : Spec → Nat
  | .primitive _ => 1
  | .enum _ => 1
  | .array item => item.lineCount
  | .shape fields _ => 2 + fieldLineCount fields
  | .map values => values.lineCount
  | .reference _ => 1
def fieldLineCount : List Field → Nat
  | [] => 0
  | ⟨_, spec, _⟩ :: rest => spec.lineCount + fieldLineCount rest
end

theorem field_line_count_cons (field : Field) (rest : List Field) :
    fieldLineCount (field :: rest) = field.spec.lineCount + fieldLineCount rest := by
  cases field
  rw [fieldLineCount]

structure Group where
  opening : Nat
  closing : Nat
  depth : Nat
  exact : Bool
deriving DecidableEq, Repr

mutual
def groups (first depth : Nat) : Spec → List Group
  | .primitive _ => []
  | .enum _ => []
  | .array item => item.groups first depth
  | .shape fields exact =>
      ⟨first, first + 1 + fieldLineCount fields, depth, exact⟩ :: fieldGroups (first + 1) (depth + 1) fields
  | .map values => values.groups first depth
  | .reference _ => []
def fieldGroups (first depth : Nat) : List Field → List Group
  | [] => []
  | ⟨_, spec, _⟩ :: rest => spec.groups first depth ++ fieldGroups (first + spec.lineCount) depth rest
end

end Spec

namespace Script

-- The lines of a text, each ended by a line feed. What comes after the last line feed is no line.
def textLines (text : List Char) : List (List Char) := (text.splitOn '\n').dropLast

def lineChars (lines : List (List Char)) : List Char := lines.flatMap (· ++ ['\n'])

def indented (depth : Nat) (text : List Char) : List Char := lineChars ((textLines text).map (indentation depth ++ ·))

theorem script_chars (script : Script) : script.chars = lineChars script.lines := rfl

theorem line_chars_cons (line : List Char) (rest : List (List Char)) :
    lineChars (line :: rest) = line ++ '\n' :: lineChars rest := by
  simp [lineChars]

theorem line_chars_append (front back : List (List Char)) :
    lineChars (front ++ back) = lineChars front ++ lineChars back :=
  List.flatMap_append

theorem text_lines_read (lines : List (List Char)) (single : ∀ line ∈ lines, '\n' ∉ line) :
    textLines (lineChars lines) = lines := by
  induction lines with
  | nil => rfl
  | cons line rest ih =>
      have inside : ∀ char ∈ line, (char == '\n') = false := by
        intro char listed
        have apart : char ≠ '\n' := fun same => single line List.mem_cons_self (same ▸ listed)
        exact beq_false_of_ne apart
      have others := ih fun other listed => single other (List.mem_cons_of_mem _ listed)
      have left : List.splitOn '\n' (lineChars rest) ≠ [] := List.splitOnP_ne_nil _ _
      rw [textLines] at others
      rw [textLines, line_chars_cons, List.splitOn, List.splitOnP_append_cons_of_forall_mem inside _ (by decide),
        ← List.splitOn, List.dropLast_cons_of_ne_nil left, others]

theorem line_feed_count (lines : List (List Char)) (single : ∀ line ∈ lines, '\n' ∉ line) :
    (lineChars lines).count '\n' = lines.length := by
  induction lines with
  | nil => rfl
  | cons line rest ih =>
      have own : line.count '\n' = 0 := List.count_eq_zero.mpr (single line List.mem_cons_self)
      have others := ih fun other listed => single other (List.mem_cons_of_mem _ listed)
      rw [line_chars_cons, List.count_append, List.count_cons_self, own, others, List.length_cons, Nat.zero_add]

theorem indentation_add (depth more : Nat) : indentation (depth + more) = indentation depth ++ indentation more := by
  rw [indentation, Nat.mul_add, List.replicate_add]
  rfl

theorem indentation_one_line (depth : Nat) : '\n' ∉ indentation depth := by
  intro listed
  exact absurd (List.eq_of_mem_replicate listed) (by decide)

mutual
def exprLines (binding before : List Char) (spec : Spec) (after : List Char) : List (List Char) :=
  match spec with
  | .primitive kind => [before ++ primitiveChecker binding kind ++ after]
  | .enum allowed => [before ++ enumChecker binding allowed ++ after]
  | .reference name => [before ++ referenceChecker binding name.toList ++ after]
  | .array item => exprLines binding (before ++ arrayCombinator binding) item (')' :: after)
  | .map values => exprLines binding (before ++ mapCombinator binding) values (')' :: after)
  | .shape declared exact =>
      (before ++ shapeCombinator binding exact) ::
        ((fieldLines binding declared).map (indentation 1 ++ ·) ++ ['\x7d' :: ')' :: after])
def fieldLines (binding : List Char) : List Field → List (List Char)
  | [] => []
  | ⟨name, spec, required⟩ :: rest =>
      exprLines binding (objectKey name.toList ++ [':', ' ']) spec (fieldEnd required) ++ fieldLines binding rest
end

theorem field_lines_cons (binding : List Char) (field : Field) (rest : List Field) :
    fieldLines binding (field :: rest) =
      exprLines binding (objectKey field.name.toList ++ [':', ' ']) field.spec (fieldEnd field.required) ++
        fieldLines binding rest := by
  cases field
  rw [fieldLines]

mutual
theorem expression_lines (script : Script) (binding before : List Char) (spec : Spec) (after : List Char) :
    (expression script binding before spec after).lines =
      script.lines ++ (exprLines binding before spec after).map (indentation script.depth ++ ·) := by
  cases spec with
  | primitive kind => simp [expression, exprLines, line]
  | enum allowed => simp [expression, exprLines, line]
  | reference name => simp [expression, exprLines, line]
  | array item => rw [expression, expression_lines, exprLines]
  | map values => rw [expression, expression_lines, exprLines]
  | shape declared exact =>
      simp [expression, closeGroup, line, fields_lines, fields_depth, openGroup, exprLines, indentation_add]
theorem fields_lines (script : Script) (binding : List Char) (declared : List Field) :
    (fields script binding declared).lines =
      script.lines ++ (fieldLines binding declared).map (indentation script.depth ++ ·) := by
  cases declared with
  | nil => simp [fields, fieldLines]
  | cons field rest =>
      rcases field with ⟨name, spec, required⟩
      rw [fields, fields_lines, expression_lines, expression_depth, fieldLines]
      simp
end

theorem object_key_one_line (name : List Char) : '\n' ∉ objectKey name := by
  rw [objectKey]
  split
  · rename_i bare
    intro listed
    have inside := List.all_eq_true.mp (identifier_run name bare) '\n' listed
    exact absurd inside (by decide)
  · simp [(escape_one_line name).1]

theorem member_one_line (base name : List Char) (plain : '\n' ∉ base) : '\n' ∉ member base name := by
  rw [member]
  split
  · rename_i bare
    have key := object_key_one_line name
    rw [objectKey, if_pos bare] at key
    simp [plain, key]
  · simp [plain, (escape_one_line name).1]

theorem literal_list_one_line (allowed : List Json) : '\n' ∉ literalList allowed := by
  fun_induction literalList allowed with
  | case1 => simp
  | case2 literal => exact literal.chars_one_line
  | case3 literal rest more ih => simp [literal.chars_one_line, ih]

theorem field_end_one_line (required : Bool) : '\n' ∉ fieldEnd required := by
  cases required <;> decide

section

variable (binding : List Char) (plain : '\n' ∉ binding)
include plain

theorem primitive_one_line (kind : PrimitiveKind) : '\n' ∉ primitiveChecker binding kind := by
  have word : '\n' ∉ primitiveName kind := by cases kind <;> decide
  simp [primitiveChecker, plain, word]

theorem enum_one_line (allowed : List Json) : '\n' ∉ enumChecker binding allowed := by
  simp [enumChecker, plain, literal_list_one_line]

theorem reference_one_line (name : List Char) : '\n' ∉ referenceChecker binding name := by
  have target := member_one_line checkers name (by decide)
  simp [referenceChecker, plain, target]

omit plain in
theorem field_lines_single (declared : List Field)
    (each : ∀ field ∈ declared, ∀ before after, '\n' ∉ before → '\n' ∉ after →
      ∀ line ∈ exprLines binding before field.spec after, '\n' ∉ line) :
    ∀ line ∈ fieldLines binding declared, '\n' ∉ line := by
  induction declared with
  | nil => simp [fieldLines]
  | cons field rest ih =>
      have key : '\n' ∉ objectKey field.name.toList ++ [':', ' '] := by simp [object_key_one_line]
      have own := each field List.mem_cons_self _ _ key (field_end_one_line field.required)
      have others := ih fun other listed => each other (List.mem_cons_of_mem _ listed)
      rw [field_lines_cons, List.forall_mem_append]
      exact ⟨own, others⟩

theorem expr_lines_single (before : List Char) (spec : Spec) (after : List Char) (begun : '\n' ∉ before)
    (ended : '\n' ∉ after) : ∀ line ∈ exprLines binding before spec after, '\n' ∉ line := by
  induction spec using spec_induction generalizing before after with
  | primitive kind => simp [exprLines, begun, ended, primitive_one_line binding plain]
  | enum allowed => simp [exprLines, begun, ended, enum_one_line binding plain]
  | reference name => simp [exprLines, begun, ended, reference_one_line binding plain]
  | array item ih =>
      rw [exprLines]
      exact ih _ _ (by simp [arrayCombinator, begun, plain]) (by simp [ended])
  | map values ih =>
      rw [exprLines]
      exact ih _ _ (by simp [mapCombinator, begun, plain]) (by simp [ended])
  | shape declared exact ih =>
      have inner := field_lines_single binding declared ih
      have opening : '\n' ∉ shapeCombinator binding exact := by cases exact <;> simp [shapeCombinator, plain]
      intro line listed
      simp only [exprLines, List.mem_cons, List.mem_append, List.mem_map, List.not_mem_nil, or_false] at listed
      rcases listed with rfl | ⟨text, written, rfl⟩ | rfl
      · simp [begun, opening]
      · simp [indentation_one_line, inner text written]
      · simp [ended]

end

theorem field_lines_count (binding : List Char) (declared : List Field)
    (each : ∀ field ∈ declared, ∀ before after, (exprLines binding before field.spec after).length = field.spec.lineCount) :
    (fieldLines binding declared).length = Spec.fieldLineCount declared := by
  induction declared with
  | nil => rw [fieldLines, Spec.fieldLineCount, List.length_nil]
  | cons field rest ih =>
      have own := each field List.mem_cons_self (objectKey field.name.toList ++ [':', ' ']) (fieldEnd field.required)
      have others := ih fun other listed => each other (List.mem_cons_of_mem _ listed)
      rw [field_lines_cons, List.length_append, own, others, Spec.field_line_count_cons]

theorem expr_lines_count (binding before : List Char) (spec : Spec) (after : List Char) :
    (exprLines binding before spec after).length = spec.lineCount := by
  induction spec using spec_induction generalizing before after with
  | primitive kind => rw [exprLines, Spec.lineCount, List.length_singleton]
  | enum allowed => rw [exprLines, Spec.lineCount, List.length_singleton]
  | reference name => rw [exprLines, Spec.lineCount, List.length_singleton]
  | array item ih => rw [exprLines, Spec.lineCount, ih]
  | map values ih => rw [exprLines, Spec.lineCount, ih]
  | shape declared exact ih =>
      have inner := field_lines_count binding declared ih
      rw [exprLines, Spec.lineCount, List.length_cons, List.length_append, List.length_map, inner, List.length_singleton]
      omega

theorem expr_lines_first (binding before : List Char) (spec : Spec) (after : List Char) :
    ∃ more rest, exprLines binding before spec after = (before ++ more) :: rest := by
  induction spec using spec_induction generalizing before after with
  | primitive kind => exact ⟨_, _, by rw [exprLines, List.append_assoc]⟩
  | enum allowed => exact ⟨_, _, by rw [exprLines, List.append_assoc]⟩
  | reference name => exact ⟨_, _, by rw [exprLines, List.append_assoc]⟩
  | array item ih =>
      obtain ⟨more, rest, same⟩ := ih (before ++ arrayCombinator binding) (')' :: after)
      exact ⟨_, rest, by rw [exprLines, same, List.append_assoc]⟩
  | map values ih =>
      obtain ⟨more, rest, same⟩ := ih (before ++ mapCombinator binding) (')' :: after)
      exact ⟨_, rest, by rw [exprLines, same, List.append_assoc]⟩
  | shape declared exact ih => exact ⟨_, _, by rw [exprLines]⟩

theorem expr_lines_last (binding before : List Char) (spec : Spec) (after : List Char) :
    ∃ earlier more, exprLines binding before spec after = earlier ++ [more ++ after] := by
  induction spec using spec_induction generalizing before after with
  | primitive kind => exact ⟨[], _, by rw [exprLines, List.nil_append]⟩
  | enum allowed => exact ⟨[], _, by rw [exprLines, List.nil_append]⟩
  | reference name => exact ⟨[], _, by rw [exprLines, List.nil_append]⟩
  | array item ih =>
      obtain ⟨earlier, more, same⟩ := ih (before ++ arrayCombinator binding) (')' :: after)
      exact ⟨earlier, more ++ [')'], by rw [exprLines, same, List.append_assoc, List.singleton_append]⟩
  | map values ih =>
      obtain ⟨earlier, more, same⟩ := ih (before ++ mapCombinator binding) (')' :: after)
      exact ⟨earlier, more ++ [')'], by rw [exprLines, same, List.append_assoc, List.singleton_append]⟩
  | shape declared exact ih => exact ⟨_ :: _, ['\x7d', ')'], by rw [exprLines]; rfl⟩

theorem part_split (front back lines : List (List Char)) (first : Nat) (part : front ++ back <+: lines.drop first) :
    front <+: lines.drop first ∧ back <+: lines.drop (first + front.length) := by
  refine ⟨(List.prefix_append front back).trans part, ?_⟩
  obtain ⟨more, same⟩ := part
  rw [← List.drop_drop, ← same, List.append_assoc, List.drop_left]
  exact List.prefix_append back more

theorem part_line (part lines : List (List Char)) (first line : Nat) (here : part <+: lines.drop first)
    (bound : line < part.length) : lines[first + line]? = part[line]? := by
  obtain ⟨more, same⟩ := here
  rw [← List.getElem?_drop, ← same, List.getElem?_append_left bound]

def Solid (text : List Char) : Prop := ∃ first rest, text = first :: rest ∧ first ≠ ' '

theorem object_key_solid (name more : List Char) : Solid (objectKey name ++ more) := by
  rw [objectKey]
  split
  · rename_i bare
    cases name with
    | nil => contradiction
    | cons first rest =>
        refine ⟨first, rest ++ more, rfl, ?_⟩
        rintro rfl
        rw [isIdentifier, Bool.and_eq_true] at bare
        exact absurd bare.1 (by decide)
  · exact ⟨'"', _, rfl, by decide⟩

theorem solid_extends (front text : List Char) (solid : Solid front) (starts : front <+: text) : Solid text := by
  obtain ⟨first, rest, rfl, apart⟩ := solid
  obtain ⟨more, rfl⟩ := starts
  exact ⟨first, rest ++ more, rfl, apart⟩

structure Encloses (binding : List Char) (lines : List (List Char)) (group : Spec.Group) (head : List Char) : Prop where
  opens : lines[group.opening]? = some (indentation group.depth ++ (head ++ shapeCombinator binding group.exact))
  closes : ∃ tail, lines[group.closing]? = some (indentation group.depth ++ '\x7d' :: ')' :: tail)
  inside : ∀ line, group.opening < line → line < group.closing →
    ∃ text, lines[line]? = some (indentation (group.depth + 1) ++ text)

-- The shapes in an expression that starts at a line: one on that line comes after the text before the
-- expression, and the others after the key of a field.
def Nested (binding before : List Char) (spec : Spec) (first depth : Nat) (lines : List (List Char)) : Prop :=
  ∀ group ∈ spec.groups first depth, ∃ head, Encloses binding lines group head ∧
    (group.opening = first ∧ before <+: head ∨ Solid head)

section

variable (binding : List Char)

theorem fields_nested (declared : List Field)
    (each : ∀ field ∈ declared, ∀ before after first depth lines,
      (exprLines binding before field.spec after).map (indentation depth ++ ·) <+: lines.drop first →
        Nested binding before field.spec first depth lines)
    (first depth : Nat) (lines : List (List Char))
    (here : (fieldLines binding declared).map (indentation depth ++ ·) <+: lines.drop first) :
    ∀ group ∈ Spec.fieldGroups first depth declared, ∃ head, Encloses binding lines group head ∧ Solid head := by
  induction declared generalizing first with
  | nil => simp [Spec.fieldGroups]
  | cons field rest ih =>
      rw [field_lines_cons, List.map_append] at here
      obtain ⟨own, others⟩ := part_split _ _ _ _ here
      rw [List.length_map, expr_lines_count] at others
      have inner := each field List.mem_cons_self _ _ first depth lines own
      have later := ih (fun other listed => each other (List.mem_cons_of_mem _ listed)) _ others
      have key := object_key_solid field.name.toList [':', ' ']
      rcases field with ⟨name, spec, required⟩
      intro group listed
      rw [Spec.fieldGroups, List.mem_append] at listed
      rcases listed with mine | rest
      · obtain ⟨head, encloses, ⟨_, starts⟩ | solid⟩ := inner group mine
        · exact ⟨head, encloses, solid_extends _ _ key starts⟩
        · exact ⟨head, encloses, solid⟩
      · exact later group rest

theorem shape_encloses (before after : List Char) (declared : List Field) (exact : Bool) (first depth : Nat)
    (lines : List (List Char))
    (here : (exprLines binding before (.shape declared exact) after).map (indentation depth ++ ·) <+: lines.drop first) :
    Encloses binding lines ⟨first, first + 1 + Spec.fieldLineCount declared, depth, exact⟩ before ∧
      (fieldLines binding declared).map (indentation (depth + 1) ++ ·) <+: lines.drop (first + 1) := by
  have count : (fieldLines binding declared).length = Spec.fieldLineCount declared :=
    field_lines_count binding declared fun field _ before after => expr_lines_count binding before field.spec after
  have deeper : ((fieldLines binding declared).map (indentation 1 ++ ·)).map (indentation depth ++ ·) =
      (fieldLines binding declared).map (indentation (depth + 1) ++ ·) := by
    simp [indentation_add]
  rw [exprLines, List.map_cons, List.map_append, deeper, ← List.singleton_append] at here
  obtain ⟨opening, here⟩ := part_split _ _ _ _ here
  obtain ⟨inner, closing⟩ := part_split _ _ _ _ here
  rw [List.length_singleton] at inner closing
  rw [List.length_map, count] at closing
  refine ⟨⟨?_, ⟨after, ?_⟩, ?_⟩, inner⟩
  · exact part_line _ _ _ 0 opening (by simp)
  · exact part_line _ _ _ 0 closing (by simp)
  · intro line above below
    obtain ⟨place, rfl⟩ := Nat.exists_eq_add_of_lt above
    have bound : place < (fieldLines binding declared).length := by
      simp only at below
      omega
    have same := part_line _ _ _ place inner (by rwa [List.length_map])
    rw [List.getElem?_map, List.getElem?_eq_getElem bound, Option.map_some] at same
    refine ⟨(fieldLines binding declared)[place], ?_⟩
    rw [← same, Nat.add_right_comm]

theorem expr_nested (before : List Char) (spec : Spec) (after : List Char) (first depth : Nat) (lines : List (List Char))
    (here : (exprLines binding before spec after).map (indentation depth ++ ·) <+: lines.drop first) :
    Nested binding before spec first depth lines := by
  induction spec using spec_induction generalizing before after first depth lines with
  | primitive kind => exact fun group listed => absurd listed (by simp [Spec.groups])
  | enum allowed => exact fun group listed => absurd listed (by simp [Spec.groups])
  | reference name => exact fun group listed => absurd listed (by simp [Spec.groups])
  | array item ih =>
      rw [exprLines] at here
      intro group listed
      rw [Spec.groups] at listed
      obtain ⟨head, encloses, ⟨outermost, starts⟩ | solid⟩ := ih _ _ first depth lines here group listed
      · exact ⟨head, encloses, .inl ⟨outermost, (List.prefix_append _ _).trans starts⟩⟩
      · exact ⟨head, encloses, .inr solid⟩
  | map values ih =>
      rw [exprLines] at here
      intro group listed
      rw [Spec.groups] at listed
      obtain ⟨head, encloses, ⟨outermost, starts⟩ | solid⟩ := ih _ _ first depth lines here group listed
      · exact ⟨head, encloses, .inl ⟨outermost, (List.prefix_append _ _).trans starts⟩⟩
      · exact ⟨head, encloses, .inr solid⟩
  | shape declared exact ih =>
      obtain ⟨own, inner⟩ := shape_encloses binding before after declared exact first depth lines here
      intro group listed
      rw [Spec.groups] at listed
      rcases List.mem_cons.mp listed with rfl | inside
      · exact ⟨before, own, .inl ⟨rfl, List.prefix_rfl⟩⟩
      · obtain ⟨head, encloses, solid⟩ := fields_nested binding declared ih _ _ lines inner group inside
        exact ⟨head, encloses, .inr solid⟩

end

structure Laid (binding before : List Char) (spec : Spec) (after : List Char) (depth : Nat) (alone added : List Char) :
    Prop where
  moved : added = indented depth alone
  ended : lineChars (textLines added) = added ∧ lineChars (textLines alone) = alone
  count : (textLines added).length = spec.lineCount ∧ (textLines alone).length = spec.lineCount
  feeds : added.count '\n' = spec.lineCount
  first : ∃ more rest, textLines added = (indentation depth ++ (before ++ more)) :: rest
  last : ∃ earlier more, textLines added = earlier ++ [more ++ after]
  nested : Nested binding before spec 0 depth (textLines added)

theorem lines_laid (binding before : List Char) (spec : Spec) (after : List Char) (depth : Nat)
    (single : ∀ line ∈ exprLines binding before spec after, '\n' ∉ line) :
    Laid binding before spec after depth (lineChars (exprLines binding before spec after))
      (lineChars ((exprLines binding before spec after).map (indentation depth ++ ·))) := by
  have moved : ∀ line ∈ (exprLines binding before spec after).map (indentation depth ++ ·), '\n' ∉ line := by
    intro line listed
    obtain ⟨text, written, rfl⟩ := List.mem_map.mp listed
    simp [indentation_one_line, single text written]
  have count := expr_lines_count binding before spec after
  have read := text_lines_read _ single
  have readMoved := text_lines_read _ moved
  constructor
  case moved => rw [indented, read]
  case ended => rw [read, readMoved]; exact ⟨rfl, rfl⟩
  case count => rw [read, readMoved, List.length_map]; exact ⟨count, count⟩
  case feeds => rw [line_feed_count _ moved, List.length_map, count]
  case first =>
    obtain ⟨more, rest, same⟩ := expr_lines_first binding before spec after
    exact ⟨more, rest.map (indentation depth ++ ·), by rw [readMoved, same, List.map_cons]⟩
  case last =>
    obtain ⟨earlier, more, same⟩ := expr_lines_last binding before spec after
    refine ⟨earlier.map (indentation depth ++ ·), indentation depth ++ more, ?_⟩
    rw [readMoved, same, List.map_append, List.map_singleton, List.append_assoc]
  case nested =>
    rw [readMoved]
    exact expr_nested binding before spec after 0 depth _ List.prefix_rfl

end Script

-- An expression leaves the depth of a script as it is, and adds the same lines to it everywhere, each indented by
-- the depth. No name and no literal ends a line.
theorem expression_laid (script : Script) (binding before : List Char) (spec : Spec) (after : List Char)
    (plain : '\n' ∉ binding) (begun : '\n' ∉ before) (ended : '\n' ∉ after) :
    (Script.expression script binding before spec after).depth = script.depth ∧
    ∃ added, (Script.expression script binding before spec after).chars = script.chars ++ added ∧
      Script.Laid binding before spec after script.depth (Script.expression .empty binding before spec after).chars added := by
  have single := Script.expr_lines_single binding plain before spec after begun ended
  have written : (Script.expression .empty binding before spec after).chars =
      Script.lineChars (Script.exprLines binding before spec after) := by
    rw [Script.script_chars, Script.expression_lines]
    simp [Script.empty, Script.indentation]
  have added : (Script.expression script binding before spec after).chars =
      script.chars ++ Script.lineChars ((Script.exprLines binding before spec after).map
        (Script.indentation script.depth ++ ·)) := by
    rw [Script.script_chars, Script.expression_lines, Script.line_chars_append, Script.script_chars]
  rw [written]
  exact ⟨Script.expression_depth script binding before spec after, _, added,
    Script.lines_laid binding before spec after script.depth single⟩

def crowdedSpec : Spec :=
  .map (.array (.shape
    [⟨"a\nb", .shape [⟨"\x7d)", .reference "\n", true⟩] true, true⟩, ⟨"c", .enum [.scalar (.string "(\x7b\n")], false⟩] false))

def crowdedText : List Char :=
  "  x = P.objectOf(P.arrayOf(P.shape(\x7b\n".toList ++
  "    \"a\\nb\": P.exact(\x7b\n".toList ++
  "      \"\x7d)\": P.oneOfType([(...args) => props[\"\\n\"](...args)]).isRequired,\n".toList ++
  "    \x7d).isRequired,\n".toList ++
  "    c: P.oneOf([\"(\x7b\\n\"]),\n".toList ++
  "  \x7d)));\n".toList

theorem crowded_laid :
    '\n' ∉ "P".toList ∧ '\n' ∉ "x = ".toList ∧ '\n' ∉ ";".toList ∧
      crowdedSpec.groups 0 1 = [⟨0, 5, 1, false⟩, ⟨1, 3, 2, true⟩] ∧
      Script.Laid "P".toList "x = ".toList crowdedSpec ";".toList 1
        (Script.expression .empty "P".toList "x = ".toList crowdedSpec ";".toList).chars crowdedText := by
  have laid := expression_laid (Script.empty.openGroup "(".toList) "P".toList "x = ".toList crowdedSpec ";".toList
    (by decide) (by decide) (by decide)
  obtain ⟨_, added, same, laid⟩ := laid
  have text : (Script.expression (Script.empty.openGroup "(".toList) "P".toList "x = ".toList crowdedSpec ";".toList).chars =
      (Script.empty.openGroup "(".toList).chars ++ crowdedText := by decide +kernel
  rw [text, List.append_cancel_left_eq] at same
  subst same
  exact ⟨by decide, by decide, by decide, by decide, laid⟩

end ShapeCheck
