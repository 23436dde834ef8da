import Mathlib.Data.List.Forall2
import Mathlib.Data.List.Nodup
import ShapeCheck.Proofs.JsonText
import ShapeCheck.Proofs.Layout
import ShapeCheck.Proofs.Names
import ShapeCheck.Proofs.Survey

set_option autoImplicit false

namespace ShapeCheck

mutual
def Spec.Alike : Spec → Spec → Prop
  | .primitive kind, .primitive other => kind = other
  | .enum allowed, .enum others => allowed.map Json.chars = others.map Json.chars
  | .array item, .array other => item.Alike other
  | .shape fields exact, .shape others other => exact = other ∧ Spec.FieldsAlike fields others
  | .map values, .map others => values.Alike others
  | .reference name, .reference other => name = other
  | _, _ => False
def Spec.FieldsAlike : List Field → List Field → Prop
  | [], [] => True
  | ⟨name, spec, required⟩ :: rest, other :: others =>
      name = other.name ∧ spec.Alike other.spec ∧ required = other.required ∧ Spec.FieldsAlike rest others
  | _, _ => False
end

theorem fields_alike_cons (field other : Field) (rest others : List Field) :
    Spec.FieldsAlike (field :: rest) (other :: others) ↔
      field.name = other.name ∧ field.spec.Alike other.spec ∧ field.required = other.required ∧
        Spec.FieldsAlike rest others := by
  cases field
  rfl

namespace Script

inductive Checker where
  | primitive (kind : PrimitiveKind)
  | oneOf
  | oneOfType
  | arrayOf
  | objectOf
  | shape (exact : Bool)
deriving DecidableEq

def Checker.all : List Checker :=
  [.primitive .string, .primitive .number, .primitive .boolean, .primitive .object, .oneOf, .oneOfType, .arrayOf,
    .objectOf, .shape true, .shape false]

def Checker.of : Spec → Checker
  | .primitive kind => .primitive kind
  | .enum _ => .oneOf
  | .array _ => .arrayOf
  | .shape _ exact => .shape exact
  | .map _ => .objectOf
  | .reference _ => .oneOfType

def Checker.word : Checker → List Char
  | .primitive kind => primitiveName kind
  | .oneOf => "oneOf".toList
  | .oneOfType => "oneOfType".toList
  | .arrayOf => "arrayOf".toList
  | .objectOf => "objectOf".toList
  | .shape exact => (if exact then "exact" else "shape").toList

def argumentChars (depth : Nat) (binding : List Char) : Spec → List Char
  | .primitive _ => []
  | .enum allowed => '(' :: '[' :: literalList allowed ++ [']', ')']
  | .array item => '(' :: exprChars depth binding item ++ [')']
  | .shape declared _ =>
      '(' :: '\x7b' :: '\n' :: fieldsChars (depth + 1) binding declared ++ indentation depth ++ ['\x7d', ')']
  | .map values => '(' :: exprChars depth binding values ++ [')']
  | .reference name => '(' :: ("[(...args) => ".toList ++ member checkers name.toList ++ "(...args)])".toList)

theorem expr_chars_parts (depth : Nat) (binding : List Char) (spec : Spec) :
    exprChars depth binding spec = binding ++ '.' :: (Checker.of spec).word ++ argumentChars depth binding spec := by
  cases spec with
  | primitive kind =>
      rw [argumentChars, List.append_nil, exprChars]
      rfl
  | enum allowed =>
      have opening : ".oneOf([".toList = '.' :: Checker.oneOf.word ++ ['(', '['] := by decide
      have closing : "])".toList = [']', ')'] := by decide
      rw [exprChars, enumChecker, argumentChars, opening, closing]
      simp only [Checker.of, List.append_assoc, List.cons_append, List.nil_append]
  | array item =>
      have opening : ".arrayOf(".toList = '.' :: Checker.arrayOf.word ++ ['('] := by decide
      rw [exprChars, arrayCombinator, argumentChars, opening]
      simp only [Checker.of, List.append_assoc, List.cons_append, List.nil_append]
  | shape declared exact =>
      have opening : (if exact then ".exact(\x7b" else ".shape(\x7b").toList =
          '.' :: (Checker.shape exact).word ++ ['(', '\x7b'] := by
        cases exact <;> decide
      rw [exprChars, shapeCombinator, argumentChars, opening]
      simp only [Checker.of, List.append_assoc, List.cons_append, List.nil_append]
  | map values =>
      have opening : ".objectOf(".toList = '.' :: Checker.objectOf.word ++ ['('] := by decide
      rw [exprChars, mapCombinator, argumentChars, opening]
      simp only [Checker.of, List.append_assoc, List.cons_append, List.nil_append]
  | reference name =>
      have opening : ".oneOfType([(...args) => ".toList =
          '.' :: Checker.oneOfType.word ++ '(' :: "[(...args) => ".toList := by decide
      rw [exprChars, referenceChecker, argumentChars, opening]
      simp only [Checker.of, List.append_assoc, List.cons_append]

theorem word_letters (checker : Checker) : checker.word.all Char.isAlpha = true := by
  cases checker with
  | primitive kind => cases kind <;> decide
  | shape exact => cases exact <;> decide
  | oneOf => decide
  | oneOfType => decide
  | arrayOf => decide
  | objectOf => decide

theorem checker_listed (checker : Checker) : checker ∈ Checker.all := by
  cases checker with
  | primitive kind => cases kind <;> decide
  | shape exact => cases exact <;> decide
  | oneOf => decide
  | oneOfType => decide
  | arrayOf => decide
  | objectOf => decide

theorem words_distinct : (Checker.all.map Checker.word).Nodup := by decide

theorem word_unique (one other : Checker) (rest more : List Char) (stops : Stops Char.isAlpha rest)
    (stopsToo : Stops Char.isAlpha more) (same : one.word ++ rest = other.word ++ more) : one = other ∧ rest = more := by
  obtain ⟨words, left⟩ :=
    run_unique Char.isAlpha one.word other.word rest more (word_letters one) (word_letters other) stops stopsToo same
  exact ⟨List.inj_on_of_nodup_map words_distinct (checker_listed one) (checker_listed other) words, left⟩

theorem argument_stops (depth : Nat) (binding : List Char) (spec : Spec) (rest : List Char)
    (stops : Stops Char.isAlpha rest) : Stops Char.isAlpha (argumentChars depth binding spec ++ rest) := by
  have opens := fun inner => stops_cons Char.isAlpha '(' inner (by decide)
  cases spec with
  | primitive kind => exact stops
  | enum allowed => exact opens _
  | array item => exact opens _
  | shape declared exact => exact opens _
  | map values => exact opens _
  | reference name => exact opens _

theorem checker_unique (depth : Nat) (binding : List Char) (one other : Spec) (rest more : List Char)
    (stops : Stops Char.isAlpha rest) (stopsToo : Stops Char.isAlpha more)
    (same : exprChars depth binding one ++ rest = exprChars depth binding other ++ more) :
    Checker.of one = Checker.of other ∧
      argumentChars depth binding one ++ rest = argumentChars depth binding other ++ more := by
  have ends := argument_stops depth binding one rest stops
  have endsToo := argument_stops depth binding other more stopsToo
  rw [expr_chars_parts, expr_chars_parts] at same
  simp only [List.append_assoc, List.append_cancel_left_eq, List.cons_append, List.cons.injEq, true_and] at same
  exact word_unique _ _ _ _ ends endsToo same

def moreLiterals (literals : List Json) : List Char :=
  literals.flatMap fun literal => ',' :: ' ' :: literal.chars

theorem literal_list_cons (literal : Json) (rest : List Json) :
    literalList (literal :: rest) = literal.chars ++ moreLiterals rest := by
  induction rest generalizing literal with
  | nil => rw [literalList, moreLiterals, List.flatMap_nil, List.append_nil]
  | cons second others ih =>
      rw [literalList, ih second]
      · rfl
      · exact List.cons_ne_nil _ _

theorem more_literals_follow (literals : List Json) (rest : List Char) :
    Json.Follows (moreLiterals literals ++ ']' :: rest) := by
  intro first head
  cases literals with
  | nil =>
      cases head
      rfl
  | cons literal others =>
      cases head
      rfl

theorem literal_unique (literal second : Json) (others seconds : List Json) (rest more : List Char)
    (same : literal.chars ++ (moreLiterals others ++ ']' :: rest) =
      second.chars ++ (moreLiterals seconds ++ ']' :: more)) :
    literal.chars = second.chars ∧ moreLiterals others ++ ']' :: rest = moreLiterals seconds ++ ']' :: more :=
  Json.balanced_unique _ _ _ _ (literal.chars_balanced 0) (second.chars_balanced 0) (more_literals_follow others rest)
    (more_literals_follow seconds more) same

theorem more_literals_unique (one other : List Json) (rest more : List Char)
    (same : moreLiterals one ++ ']' :: rest = moreLiterals other ++ ']' :: more) :
    one.map Json.chars = other.map Json.chars ∧ rest = more := by
  induction one generalizing other with
  | nil =>
      cases other with
      | nil => exact ⟨rfl, (List.cons.inj same).2⟩
      | cons second seconds => cases same
  | cons literal others ih =>
      cases other with
      | nil => cases same
      | cons second seconds =>
          simp only [moreLiterals, List.flatMap_cons, List.cons_append, List.append_assoc, List.cons.injEq,
            true_and] at same
          obtain ⟨texts, left⟩ := literal_unique literal second others seconds rest more same
          obtain ⟨later, last⟩ := ih seconds left
          exact ⟨congrArg₂ List.cons texts later, last⟩

theorem literal_not_closed (literal : Json) (others : List Json) (rest more : List Char) :
    ']' :: rest ≠ literalList (literal :: others) ++ ']' :: more := by
  intro same
  rw [literal_list_cons, List.append_assoc] at same
  obtain ⟨first, inside, text, _⟩ := literal.chars_first
  have closed : Json.Follows (']' :: rest) := more_literals_follow [] rest
  have split := Json.balanced_unique [] literal.chars _ _ (Json.balanced_nil 0) (literal.chars_balanced 0) closed
    (more_literals_follow others more) same
  rw [text] at split
  exact List.cons_ne_nil _ _ split.1.symm

theorem literal_list_unique (one other : List Json) (rest more : List Char)
    (same : literalList one ++ ']' :: rest = literalList other ++ ']' :: more) :
    one.map Json.chars = other.map Json.chars ∧ rest = more := by
  cases one with
  | nil =>
      cases other with
      | nil => exact ⟨rfl, (List.cons.inj same).2⟩
      | cons second seconds => exact absurd same (literal_not_closed second seconds rest more)
  | cons literal others =>
      cases other with
      | nil => exact absurd same.symm (literal_not_closed literal others more rest)
      | cons second seconds =>
          rw [literal_list_cons, literal_list_cons, List.append_assoc, List.append_assoc] at same
          obtain ⟨texts, left⟩ := literal_unique literal second others seconds rest more same
          obtain ⟨later, last⟩ := more_literals_unique others seconds rest more left
          exact ⟨congrArg₂ List.cons texts later, last⟩

theorem field_end_stops (required : Bool) (rest : List Char) : Stops Char.isAlpha (fieldEnd required ++ rest) := by
  cases required with
  | true => exact stops_cons Char.isAlpha '.' _ (by decide)
  | false => exact stops_cons Char.isAlpha ',' _ (by decide)

theorem field_end_unique (one other : Bool) (rest more : List Char)
    (same : fieldEnd one ++ '\n' :: rest = fieldEnd other ++ '\n' :: more) : one = other ∧ rest = more := by
  have marked : fieldEnd true = '.' :: "isRequired,".toList := by decide
  have plain : fieldEnd false = [','] := by decide
  cases one with
  | true =>
      cases other with
      | true => exact ⟨rfl, (List.cons.inj (List.append_cancel_left same)).2⟩
      | false =>
          rw [marked, plain] at same
          cases same
  | false =>
      cases other with
      | true =>
          rw [marked, plain] at same
          cases same
      | false => exact ⟨rfl, (List.cons.inj (List.append_cancel_left same)).2⟩

theorem indentation_succ (depth : Nat) : indentation (depth + 1) = indentation depth ++ [' ', ' '] := by
  rw [indentation, indentation, Nat.mul_succ, List.replicate_add]
  rfl

theorem closing_not_field (depth : Nat) (rest more : List Char) :
    indentation depth ++ '\x7d' :: rest ≠ indentation (depth + 1) ++ more := by
  intro same
  rw [indentation_succ, List.append_assoc] at same
  cases List.append_cancel_left same

-- A spec that can be read back from its expression, in front of any text that may follow.
def Legible (binding : List Char) (spec : Spec) : Prop :=
  ∀ (depth : Nat) (other : Spec) (rest more : List Char), Stops Char.isAlpha rest → Stops Char.isAlpha more →
    exprChars depth binding spec ++ rest = exprChars depth binding other ++ more → spec.Alike other ∧ rest = more

section
variable (binding : List Char)

theorem enclosed_unique (depth : Nat) (spec other : Spec) (rest more : List Char) (inner : Legible binding spec)
    (same : '(' :: exprChars depth binding spec ++ [')'] ++ rest =
      '(' :: exprChars depth binding other ++ [')'] ++ more) :
    spec.Alike other ∧ rest = more := by
  simp only [List.cons_append, List.append_assoc, List.nil_append, List.cons.injEq, true_and] at same
  have closes := fun text => stops_cons Char.isAlpha ')' text (by decide)
  obtain ⟨alike, left⟩ := inner depth other _ _ (closes rest) (closes more) same
  exact ⟨alike, (List.cons.inj left).2⟩

theorem thunk_unique (one other : String) (rest more : List Char)
    (same : '(' :: ("[(...args) => ".toList ++ member checkers one.toList ++ "(...args)])".toList) ++ rest =
      '(' :: ("[(...args) => ".toList ++ member checkers other.toList ++ "(...args)])".toList) ++ more) :
    one = other ∧ rest = more := by
  have call : "(...args)])".toList = '(' :: "...args)])".toList := by decide
  have stops := fun text => stops_cons continuesIdentifier '(' text (by decide)
  simp only [call, List.cons_append, List.append_assoc, List.cons.injEq, true_and, List.append_cancel_left_eq] at same
  obtain ⟨names, left⟩ := member_unique checkers one.toList other.toList _ _ (stops _) (stops _) same
  exact ⟨String.toList_inj.mp names, List.append_cancel_left (List.cons.inj left).2⟩

theorem fields_unique (declared others : List Field) (legible : ∀ field ∈ declared, Legible binding field.spec)
    (depth : Nat) (rest more : List Char)
    (same : fieldsChars (depth + 1) binding declared ++ (indentation depth ++ '\x7d' :: rest) =
      fieldsChars (depth + 1) binding others ++ (indentation depth ++ '\x7d' :: more)) :
    Spec.FieldsAlike declared others ∧ rest = more := by
  induction declared generalizing others with
  | nil =>
      cases others with
      | nil => exact ⟨trivial, (List.cons.inj (List.append_cancel_left same)).2⟩
      | cons second seconds =>
          simp only [fields_chars_cons, List.append_assoc] at same
          exact absurd same (closing_not_field depth _ _)
  | cons field fields ih =>
      cases others with
      | nil =>
          simp only [fields_chars_cons, List.append_assoc] at same
          exact absurd same.symm (closing_not_field depth _ _)
      | cons second seconds =>
          have colon := fun text => stops_cons continuesIdentifier ':' text (by decide)
          simp only [fields_chars_cons, List.append_assoc, List.cons_append, List.append_cancel_left_eq] at same
          obtain ⟨names, left⟩ := object_key_unique _ _ _ _ (colon _) (colon _) same
          simp only [List.cons.injEq, true_and] at left
          obtain ⟨alike, ends⟩ := legible field List.mem_cons_self (depth + 1) second.spec _ _
            (field_end_stops _ _) (field_end_stops _ _) left
          obtain ⟨required, below⟩ := field_end_unique _ _ _ _ ends
          have inner := fun other listed => legible other (List.mem_cons_of_mem field listed)
          obtain ⟨later, last⟩ := ih seconds inner below
          exact ⟨(fields_alike_cons _ _ _ _).mpr ⟨String.toList_inj.mp names, alike, required, later⟩, last⟩

theorem legible_by_arguments (spec : Spec)
    (each : ∀ (depth : Nat) (other : Spec) (rest more : List Char), Checker.of spec = Checker.of other →
      argumentChars depth binding spec ++ rest = argumentChars depth binding other ++ more →
        spec.Alike other ∧ rest = more) :
    Legible binding spec := by
  intro depth other rest more stops stopsToo same
  obtain ⟨checkers, arguments⟩ := checker_unique depth binding spec other rest more stops stopsToo same
  exact each depth other rest more checkers arguments

theorem legible (spec : Spec) : Legible binding spec := by
  induction spec using spec_induction with
  | primitive kind =>
      refine legible_by_arguments binding _ fun depth other rest more checkers arguments => ?_
      cases other with
      | primitive kindToo => exact ⟨Checker.primitive.inj checkers, arguments⟩
      | _ => contradiction
  | enum allowed =>
      refine legible_by_arguments binding _ fun depth other rest more checkers arguments => ?_
      cases other with
      | enum others =>
          simp only [argumentChars, List.cons_append, List.append_assoc, List.nil_append, List.cons.injEq,
            true_and] at arguments
          obtain ⟨literals, left⟩ := literal_list_unique allowed others _ _ arguments
          exact ⟨literals, (List.cons.inj left).2⟩
      | _ => contradiction
  | array item inner =>
      refine legible_by_arguments binding _ fun depth other rest more checkers arguments => ?_
      cases other with
      | array itemToo => exact enclosed_unique binding depth item itemToo rest more inner arguments
      | _ => contradiction
  | shape declared exact inner =>
      refine legible_by_arguments binding _ fun depth other rest more checkers arguments => ?_
      cases other with
      | shape others exactToo =>
          simp only [argumentChars, List.cons_append, List.append_assoc, List.nil_append, List.cons.injEq,
            true_and] at arguments
          obtain ⟨alike, left⟩ := fields_unique binding declared others inner depth _ _ arguments
          exact ⟨⟨Checker.shape.inj checkers, alike⟩, (List.cons.inj left).2⟩
      | _ => contradiction
  | map values inner =>
      refine legible_by_arguments binding _ fun depth other rest more checkers arguments => ?_
      cases other with
      | map valuesToo => exact enclosed_unique binding depth values valuesToo rest more inner arguments
      | _ => contradiction
  | reference name =>
      refine legible_by_arguments binding _ fun depth other rest more checkers arguments => ?_
      cases other with
      | reference nameToo => exact thunk_unique name nameToo rest more arguments
      | _ => contradiction

def EntriesAlike (one other : List (String × Spec)) : Prop :=
  List.Forall₂ (fun entry twin => entry.1 = twin.1 ∧ entry.2.Alike twin.2) one other

theorem block_unique (entry twin : String × Spec) (rest more : List Char)
    (same : blockChars binding entry ++ rest = blockChars binding twin ++ more) :
    (entry.1 = twin.1 ∧ entry.2.Alike twin.2) ∧ rest = more := by
  have space := fun text => stops_cons continuesIdentifier ' ' text (by decide)
  have semicolon := fun text => stops_cons Char.isAlpha ';' text (by decide)
  simp only [blockChars, List.append_assoc, List.cons_append, List.nil_append] at same
  obtain ⟨names, left⟩ := member_unique checkers _ _ _ _ (space _) (space _) same
  simp only [List.cons.injEq, true_and] at left
  obtain ⟨alike, last⟩ := legible binding entry.2 0 twin.2 _ _ (semicolon _) (semicolon _) left
  simp only [List.cons.injEq, true_and] at last
  exact ⟨⟨String.toList_inj.mp names, alike⟩, last⟩

theorem footer_not_block (entry : String × Spec) (rest : List Char) : footerChars ≠ blockChars binding entry ++ rest := by
  have ending : footerChars = 'e' :: "xport default props;\n".toList := by decide
  have base : checkers = 'p' :: "rops".toList := by decide
  intro same
  rw [ending, blockChars, member, base] at same
  split at same <;> cases same

theorem blocks_unique (one other : List (String × Spec))
    (same : one.flatMap (blockChars binding) ++ footerChars = other.flatMap (blockChars binding) ++ footerChars) :
    EntriesAlike one other := by
  induction one generalizing other with
  | nil =>
      cases other with
      | nil => exact .nil
      | cons twin twins =>
          rw [List.flatMap_cons, List.append_assoc] at same
          exact absurd same (footer_not_block binding twin _)
  | cons entry entries ih =>
      cases other with
      | nil =>
          rw [List.flatMap_cons, List.append_assoc] at same
          exact absurd same.symm (footer_not_block binding entry _)
      | cons twin twins =>
          rw [List.flatMap_cons, List.flatMap_cons, List.append_assoc, List.append_assoc] at same
          obtain ⟨alike, left⟩ := block_unique binding entry twin _ _ same
          exact .cons alike (ih twins left)

end

theorem more_literals_same (one other : List Json) (texts : one.map Json.chars = other.map Json.chars) :
    moreLiterals one = moreLiterals other := by
  have mapped := fun literals : List Json => List.flatMap_map Json.chars (fun text => ',' :: ' ' :: text) literals
  exact (mapped one).symm.trans ((congrArg _ texts).trans (mapped other))

theorem literal_list_same (one other : List Json) (texts : one.map Json.chars = other.map Json.chars) :
    literalList one = literalList other := by
  cases one with
  | nil =>
      cases other with
      | nil => rfl
      | cons second seconds => contradiction
  | cons literal others =>
      cases other with
      | nil => contradiction
      | cons second seconds =>
          rw [List.map_cons, List.map_cons, List.cons.injEq] at texts
          rw [literal_list_cons, literal_list_cons, texts.1, more_literals_same others seconds texts.2]

theorem fields_chars_same (binding : List Char) (declared others : List Field) (depth : Nat)
    (same : ∀ field ∈ declared, ∀ other : Spec, field.spec.Alike other →
      exprChars depth binding field.spec = exprChars depth binding other)
    (alike : Spec.FieldsAlike declared others) :
    fieldsChars depth binding declared = fieldsChars depth binding others := by
  induction declared generalizing others with
  | nil =>
      cases others with
      | nil => rfl
      | cons second seconds => contradiction
  | cons field fields ih =>
      cases others with
      | nil =>
          cases field
          contradiction
      | cons second seconds =>
          obtain ⟨names, specs, required, rest⟩ := (fields_alike_cons _ _ _ _).mp alike
          have written := same field List.mem_cons_self second.spec specs
          have later := ih seconds (fun other listed => same other (List.mem_cons_of_mem field listed)) rest
          rw [fields_chars_cons, fields_chars_cons, names, written, required, later]

theorem expr_chars_same (binding : List Char) (depth : Nat) (spec other : Spec) (alike : spec.Alike other) :
    exprChars depth binding spec = exprChars depth binding other := by
  induction spec using spec_induction generalizing depth other with
  | primitive kind =>
      cases other with
      | primitive kindToo => exact congrArg (primitiveChecker binding) alike
      | _ => contradiction
  | enum allowed =>
      cases other with
      | enum others => rw [exprChars, exprChars, enumChecker, enumChecker, literal_list_same allowed others alike]
      | _ => contradiction
  | array item ih =>
      cases other with
      | array itemToo => rw [exprChars, exprChars, ih depth itemToo alike]
      | _ => contradiction
  | shape declared exact ih =>
      cases other with
      | shape others exactToo =>
          obtain ⟨exactness, fields⟩ := alike
          have inner := fun field listed => ih field listed (depth + 1)
          have written := fields_chars_same binding declared others (depth + 1) inner fields
          rw [exprChars, exprChars, written, exactness]
      | _ => contradiction
  | map values ih =>
      cases other with
      | map valuesToo => rw [exprChars, exprChars, ih depth valuesToo alike]
      | _ => contradiction
  | reference name =>
      cases other with
      | reference nameToo => rw [exprChars, exprChars, show name = nameToo from alike]
      | _ => contradiction

theorem blocks_same (binding : List Char) (one other : List (String × Spec)) (alike : EntriesAlike one other) :
    one.flatMap (blockChars binding) = other.flatMap (blockChars binding) := by
  induction alike with
  | nil => rfl
  | cons first rest ih =>
      obtain ⟨names, specs⟩ := first
      rw [List.flatMap_cons, List.flatMap_cons, ih, blockChars, blockChars, names, expr_chars_same binding 0 _ _ specs]

end Script

-- Two modules with the same options are the same text exactly if they are of the same entries in the
-- same order, up to literals that are written the same.
theorem module_determines_entries (options : Script.ModuleOptions) (one other : Table) :
    (Script.ofTable options one).render = (Script.ofTable options other).render ↔
      Script.EntriesAlike one.entries other.entries := by
  rw [Script.render, Script.render, String.ofList_inj, Script.of_table_chars, Script.of_table_chars,
    List.append_assoc, List.append_assoc, List.append_cancel_left_eq]
  constructor
  · intro same
    exact Script.blocks_unique options.binding.toList one.entries other.entries same
  · intro alike
    rw [Script.blocks_same options.binding.toList one.entries other.entries alike]

end ShapeCheck
