import ShapeCheck.Script.Module

set_option autoImplicit false

namespace ShapeCheck.Script

-- A script is read as one text. `expression` writes lines with a text before and one after them;
-- what it writes is put together here from the inside out, without either.
mutual
def exprChars (depth : Nat) (binding : List Char) : Spec → List Char
  | .primitive kind => primitiveChecker binding kind
  | .enum allowed => enumChecker binding allowed
  | .reference name => referenceChecker binding name.toList
  | .array item => arrayCombinator binding ++ exprChars depth binding item ++ [')']
  | .map values => mapCombinator binding ++ exprChars depth binding values ++ [')']
  | .shape declared exact =>
      shapeCombinator binding exact ++ '\n' :: fieldsChars (depth + 1) binding declared ++
        indentation depth ++ ['\x7d', ')']
def fieldsChars (depth : Nat) (binding : List Char) : List Field → List Char
  | [] => []
  | ⟨name, spec, required⟩ :: rest =>
      indentation depth ++ objectKey name.toList ++ ':' :: ' ' :: exprChars depth binding spec ++
        fieldEnd required ++ '\n' :: fieldsChars depth binding rest
end

@[simp] theorem fields_chars_cons (depth : Nat) (binding : List Char) (field : Field) (rest : List Field) :
    fieldsChars depth binding (field :: rest) =
      indentation depth ++ objectKey field.name.toList ++ ':' :: ' ' :: exprChars depth binding field.spec ++
        fieldEnd field.required ++ '\n' :: fieldsChars depth binding rest := by
  cases field
  rw [fieldsChars]

@[simp] theorem line_chars (script : Script) (text : List Char) :
    (script.line text).chars = script.chars ++ indentation script.depth ++ text ++ ['\n'] := by
  simp [line, chars]

@[simp] theorem blank_chars (script : Script) : script.blank.chars = script.chars ++ ['\n'] := by
  simp [blank, chars]

theorem open_group_chars (script : Script) (text : List Char) :
    (script.openGroup text).chars = script.chars ++ indentation script.depth ++ text ++ ['\n'] :=
  line_chars script text

theorem close_group_chars (script : Script) (text : List Char) :
    (script.closeGroup text).chars = script.chars ++ indentation (script.depth - 1) ++ text ++ ['\n'] :=
  line_chars _ text

mutual
@[simp] theorem expression_depth (script : Script) (binding before : List Char) (spec : Spec) (after : List Char) :
    (expression script binding before spec after).depth = script.depth := by
  cases spec with
  | primitive kind => rw [expression, line]
  | enum allowed => rw [expression, line]
  | reference name => rw [expression, line]
  | array item => rw [expression, expression_depth]
  | map values => rw [expression, expression_depth]
  | shape declared exact =>
      rw [expression]
      change (fields _ binding declared).depth - 1 = script.depth
      rw [fields_depth]
      exact Nat.add_sub_cancel script.depth 1
theorem fields_depth (script : Script) (binding : List Char) (declared : List Field) :
    (fields script binding declared).depth = script.depth := by
  cases declared with
  | nil => rw [fields]
  | cons field rest =>
      rcases field with ⟨name, spec, required⟩
      rw [fields, fields_depth, expression_depth]
end

mutual
theorem expression_chars (script : Script) (binding before : List Char) (spec : Spec) (after : List Char) :
    (expression script binding before spec after).chars = script.chars ++ indentation script.depth ++ before ++
      exprChars script.depth binding spec ++ after ++ ['\n'] := by
  cases spec with
  | primitive kind => simp [expression, exprChars]
  | enum allowed => simp [expression, exprChars]
  | reference name => simp [expression, exprChars]
  | array item =>
      rw [expression, expression_chars, exprChars]
      simp
  | map values =>
      rw [expression, expression_chars, exprChars]
      simp
  | shape declared exact =>
      rw [expression, close_group_chars, fields_depth, fields_chars, open_group_chars, exprChars]
      simp [openGroup, line]
theorem fields_chars (script : Script) (binding : List Char) (declared : List Field) :
    (fields script binding declared).chars = script.chars ++ fieldsChars script.depth binding declared := by
  cases declared with
  | nil => simp [fields, fieldsChars]
  | cons field rest =>
      rcases field with ⟨name, spec, required⟩
      rw [fields, fields_chars, expression_chars, expression_depth, fieldsChars]
      simp
end

def blockChars (binding : List Char) (entry : String × Spec) : List Char :=
  member checkers entry.1.toList ++ ' ' :: '=' :: ' ' :: exprChars 0 binding entry.2 ++ [';', '\n', '\n']

def footerChars : List Char := "export default ".toList ++ checkers ++ [';', '\n']

theorem definition_chars (script : Script) (binding : List Char) (entry : String × Spec) (outermost : script.depth = 0) :
    (definition script binding entry).chars = script.chars ++ blockChars binding entry := by
  rw [definition, blank_chars, expression_chars, outermost, blockChars]
  simp [indentation]

theorem definitions_chars (script : Script) (binding : List Char) (entries : List (String × Spec))
    (outermost : script.depth = 0) :
    (entries.foldl (definition · binding) script).chars = script.chars ++ entries.flatMap (blockChars binding) ∧
      (entries.foldl (definition · binding) script).depth = 0 := by
  induction entries generalizing script with
  | nil => simp [outermost]
  | cons entry rest ih =>
      have still : (definition script binding entry).depth = 0 := by
        rw [definition, blank, expression_depth, outermost]
      obtain ⟨written, depth⟩ := ih _ still
      rw [List.foldl_cons, written, definition_chars script binding entry outermost]
      simp [depth]

theorem footer_chars (script : Script) (outermost : script.depth = 0) :
    (footer script).chars = script.chars ++ footerChars := by
  unfold footer footerChars
  -- Reducing the literal's text is slow, and nothing here depends on it.
  generalize "export default ".toList = opening
  rw [line_chars, outermost]
  simp [indentation]

theorem header_depth (options : ModuleOptions) : (header options).depth = 0 := by
  simp only [header, line, blank, empty]

theorem of_table_chars (options : ModuleOptions) (table : Table) :
    (ofTable options table).chars =
      (header options).chars ++ table.entries.flatMap (blockChars options.binding.toList) ++ footerChars := by
  have outermost := header_depth options
  rw [ofTable]
  generalize header options = start at outermost
  have body := definitions_chars start options.binding.toList table.entries outermost
  rw [footer_chars _ body.2, body.1]

end ShapeCheck.Script
