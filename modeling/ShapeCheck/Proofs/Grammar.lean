import Mathlib.Data.List.Lex
import ShapeCheck.Proofs.Defects

set_option autoImplicit false

namespace ShapeCheck

def Json.isText : Json → Bool
  | .string _ => true
  | _ => false

namespace Schema

inductive Keyword where
  | type
  | reference
  | enum
  | properties
  | required
  | additional
  | items
deriving DecidableEq

namespace Keyword

def word : Keyword → String
  | .type => "type"
  | .reference => "$ref"
  | .enum => "enum"
  | .properties => "properties"
  | .required => "required"
  | .additional => "additionalProperties"
  | .items => "items"

def all : List Keyword := [.type, .reference, .enum, .properties, .required, .additional, .items]

-- What is wrong with the value of a keyword, whatever the nodes under it are like.
def misfit? : Keyword → Json → Option SchemaError
  | .type, .string _ => none
  | .type, _ => some .typeNotString
  | .reference, .string _ => none
  | .reference, _ => some .referenceNotString
  | .enum, .array _ => none
  | .enum, _ => some .invalidEnum
  | .properties, .object _ => none
  | .properties, _ => some .propertiesNotObject
  | .required, .array names => if names.all Json.isText then none else some .invalidRequired
  | .required, _ => some .invalidRequired
  | .additional, _ => none
  | .items, _ => none

def nodes : Keyword → Json → List Json
  | .properties, .object members => members.map Prod.snd
  | .additional, .boolean _ => []
  | .additional, value => [value]
  | .items, value => [value]
  | _, _ => []

end Keyword

-- What a node may say: its keywords, where it has them, are of the right form, and so are the nodes under them.
inductive WellFormed : Json → Prop where
  | node (members : List (String × Json))
      (type : ∀ value, Entries.get? "type" members = some value → ∃ text, value = .string text)
      (reference : ∀ value, Entries.get? "$ref" members = some value → ∃ text, value = .string text)
      (enum : ∀ value, Entries.get? "enum" members = some value → ∃ literals, value = .array literals)
      (properties : ∀ value, Entries.get? "properties" members = some value → ∃ declared, value = .object declared)
      (property : ∀ declared, Entries.get? "properties" members = some (.object declared) →
        ∀ member ∈ declared, WellFormed member.2)
      (required : ∀ value, Entries.get? "required" members = some value →
        ∃ names : List String, value = .array (names.map .string))
      (additional : ∀ value, Entries.get? "additionalProperties" members = some value →
        (∀ flag, value ≠ .boolean flag) → WellFormed value)
      (items : ∀ value, Entries.get? "items" members = some value → WellFormed value) : WellFormed (.object members)

structure Step where
  keyword : Keyword
  position : Nat
deriving DecidableEq

def Step.Before (one other : Step) : Prop :=
  Keyword.all.idxOf one.keyword < Keyword.all.idxOf other.keyword ∨
    one.keyword = other.keyword ∧ one.position < other.position

-- The order in which places are come by when a document is read depth first.
abbrev Before : List Step → List Step → Prop := List.Lex Step.Before

inductive Malformed : Json → List Step → SchemaError → Prop where
  | node (json : Json) (other : ∀ members, json ≠ .object members) : Malformed json [] .notAnObject
  | keyword (members : List (String × Json)) (keyword : Keyword) (value : Json) (cause : SchemaError)
      (present : Entries.get? keyword.word members = some value) (misfit : keyword.misfit? value = some cause) :
      Malformed (.object members) [⟨keyword, 0⟩] cause
  | inside (members : List (String × Json)) (keyword : Keyword) (value : Json) (position : Nat) (child : Json)
      (trail : List Step) (cause : SchemaError) (present : Entries.get? keyword.word members = some value)
      (placed : (keyword.nodes value)[position]? = some child) (inner : Malformed child trail cause) :
      Malformed (.object members) (⟨keyword, position⟩ :: trail) cause

def First (wrong : List Step → SchemaError → Prop) (cause : SchemaError) : Prop :=
  ∃ trail, wrong trail cause ∧
    ∀ other later, wrong other later → Before trail other ∨ other = trail ∧ later = cause

def Tells (wrong : List Step → SchemaError → Prop) : Option SchemaError → Prop
  | none => ∀ trail cause, ¬ wrong trail cause
  | some cause => First wrong cause

theorem tells_congr (wrong others : List Step → SchemaError → Prop)
    (same : ∀ trail cause, wrong trail cause ↔ others trail cause) (answer : Option SchemaError)
    (tells : Tells wrong answer) : Tells others answer := by
  have equal : wrong = others := funext fun trail => funext fun cause => propext (same trail cause)
  exact equal ▸ tells

-- Of several parts in order, the first that has a place with the property has the first place.
theorem tells_parts {α : Type} (wrong : α → List Step → SchemaError → Prop) (answer : α → Option SchemaError)
    (parts : List α) (each : ∀ part ∈ parts, Tells (wrong part) (answer part))
    (ordered : parts.Pairwise fun one other => ∀ trail cause later cause', wrong one trail cause →
      wrong other later cause' → Before trail later) :
    Tells (fun trail cause => ∃ part ∈ parts, wrong part trail cause) (parts.findSome? answer) := by
  induction parts with
  | nil => exact fun trail cause ⟨_, listed, _⟩ => absurd listed List.not_mem_nil
  | cons part rest ih =>
      rw [List.forall_mem_cons] at each
      rw [List.pairwise_cons] at ordered
      have here := each.1
      have later := ih each.2 ordered.2
      rw [List.findSome?_cons]
      cases told : answer part with
      | some cause =>
          rw [told] at here
          obtain ⟨trail, holds, first⟩ := here
          refine ⟨trail, ⟨part, List.mem_cons_self, holds⟩, ?_⟩
          rintro other cause' ⟨source, listed, inside⟩
          rcases List.mem_cons.mp listed with rfl | after
          · exact first other cause' inside
          · exact .inl (ordered.1 source after trail cause other cause' holds inside)
      | none =>
          rw [told] at here
          refine tells_congr _ _ (fun trail cause => ?_) _ later
          rw [List.exists_mem_cons_iff]
          exact (or_iff_right (here trail cause)).symm

theorem tells_below (step : Step) (wrong : List Step → SchemaError → Prop) (answer : Option SchemaError)
    (tells : Tells wrong answer) :
    Tells (fun trail cause => ∃ rest, trail = step :: rest ∧ wrong rest cause) answer := by
  cases answer with
  | none =>
      rintro trail cause ⟨rest, _, holds⟩
      exact tells rest cause holds
  | some cause =>
      obtain ⟨trail, holds, first⟩ := tells
      refine ⟨step :: trail, ⟨trail, rfl, holds⟩, ?_⟩
      rintro _ later ⟨rest, rfl, inside⟩
      rcases first rest later inside with before | ⟨rfl, rfl⟩
      · exact .inl (.cons before)
      · exact .inr ⟨rfl, rfl⟩

theorem Keyword.listed (keyword : Keyword) : keyword ∈ all := by
  cases keyword <;> decide

theorem type_misfit (value : Json) :
    Keyword.type.misfit? value = if value.isText then none else some .typeNotString := by
  cases value with
  | scalar content => cases content <;> rfl
  | _ => rfl

theorem reference_misfit (value : Json) :
    Keyword.reference.misfit? value = if value.isText then none else some .referenceNotString := by
  cases value with
  | scalar content => cases content <;> rfl
  | _ => rfl

theorem Keyword.misfit_alone (keyword : Keyword) (value : Json) (cause : SchemaError)
    (misfit : keyword.misfit? value = some cause) : keyword.nodes value = [] := by
  cases keyword with
  | properties =>
      cases value with
      | object members => contradiction
      | _ => rfl
  | additional => contradiction
  | items => contradiction
  | _ => rfl

def Under (members : List (String × Json)) (keyword : Keyword) (trail : List Step) (cause : SchemaError) : Prop :=
  ∃ value, Entries.get? keyword.word members = some value ∧
    (keyword.misfit? value = some cause ∧ trail = [⟨keyword, 0⟩] ∨
      ∃ child ∈ (keyword.nodes value).zipIdx,
        ∃ rest, trail = ⟨keyword, child.2⟩ :: rest ∧ Malformed child.1 rest cause)

theorem malformed_object (members : List (String × Json)) (trail : List Step) (cause : SchemaError) :
    Malformed (.object members) trail cause ↔ ∃ keyword ∈ Keyword.all, Under members keyword trail cause := by
  constructor
  · intro malformed
    cases malformed with
    | node _ other => exact absurd rfl (other members)
    | keyword _ keyword value _ present misfit => exact ⟨keyword, keyword.listed, value, present, .inl ⟨misfit, rfl⟩⟩
    | inside _ keyword value position child rest _ present placed inner =>
        have listed : (child, position) ∈ (keyword.nodes value).zipIdx := List.mem_zipIdx_iff_getElem?.mpr placed
        exact ⟨keyword, keyword.listed, value, present, .inr ⟨(child, position), listed, rest, rfl, inner⟩⟩
  · rintro ⟨keyword, _, value, present, ⟨misfit, rfl⟩ | ⟨⟨child, position⟩, listed, rest, rfl, inner⟩⟩
    · exact .keyword members keyword value cause present misfit
    · have placed := List.mem_zipIdx_iff_getElem?.mp listed
      exact .inside members keyword value position child rest cause present placed inner

theorem under_before (members : List (String × Json)) (one other : Keyword) (trail later : List Step)
    (cause cause' : SchemaError) (order : Keyword.all.idxOf one < Keyword.all.idxOf other)
    (first : Under members one trail cause) (second : Under members other later cause') : Before trail later := by
  have head : ∀ (keyword : Keyword) trail cause, Under members keyword trail cause →
      ∃ position rest, trail = ⟨keyword, position⟩ :: rest := by
    rintro keyword trail cause ⟨value, _, ⟨_, rfl⟩ | ⟨child, _, rest, rfl, _⟩⟩
    · exact ⟨0, [], rfl⟩
    · exact ⟨child.2, rest, rfl⟩
  obtain ⟨position, rest, rfl⟩ := head one trail cause first
  obtain ⟨position', rest', rfl⟩ := head other later cause' second
  exact .rel (.inl order)

def Keyword.refusal? (keyword : Keyword) (value : Json) : Option SchemaError :=
  (keyword.misfit? value).or ((keyword.nodes value).findSome? fun child => failure? (ofJson child))

theorem zip_idx_ordered {α : Type} (list : List α) : list.zipIdx.Pairwise fun one other => one.2 < other.2 := by
  rw [← List.pairwise_map (f := Prod.snd) (R := (· < ·)), List.zipIdx_map_snd]
  exact List.pairwise_lt_range'

theorem find_zip_idx {α β : Type} (find : α → Option β) (list : List α) :
    list.zipIdx.findSome? (fun entry => find entry.1) = list.findSome? find := by
  have mapped := List.findSome?_map (f := Prod.fst) (p := find) (l := list.zipIdx)
  rw [List.zipIdx_map_fst] at mapped
  exact mapped.symm

theorem nodes_tell (keyword : Keyword) (nodes : List Json)
    (each : ∀ child ∈ nodes, Tells (Malformed child) (failure? (ofJson child))) :
    Tells (fun trail cause => ∃ child ∈ nodes.zipIdx,
        ∃ rest, trail = ⟨keyword, child.2⟩ :: rest ∧ Malformed child.1 rest cause)
      (nodes.findSome? fun child => failure? (ofJson child)) := by
  rw [← find_zip_idx]
  apply tells_parts
  · intro child listed
    exact tells_below _ _ _ (each child.1 (List.fst_mem_of_mem_zipIdx listed))
  · refine (zip_idx_ordered nodes).imp fun {one other} order trail cause later cause' => ?_
    rintro ⟨rest, rfl, _⟩ ⟨rest', rfl, _⟩
    exact .rel (.inr ⟨rfl, order⟩)

theorem under_tells (members : List (String × Json)) (keyword : Keyword)
    (each : ∀ value, Entries.get? keyword.word members = some value → ∀ child ∈ keyword.nodes value,
      Tells (Malformed child) (failure? (ofJson child))) :
    Tells (Under members keyword) ((Entries.get? keyword.word members).bind keyword.refusal?) := by
  cases present : Entries.get? keyword.word members with
  | none =>
      rintro trail cause ⟨value, found, _⟩
      rw [present] at found
      contradiction
  | some value =>
      have nodes := nodes_tell keyword _ (each value present)
      rw [Option.bind_some, Keyword.refusal?]
      cases misfit : keyword.misfit? value with
      | some cause =>
          refine ⟨[⟨keyword, 0⟩], ⟨value, present, .inl ⟨misfit, rfl⟩⟩, ?_⟩
          rintro other later ⟨_, found, wrong⟩
          obtain rfl := Option.some.inj (present.symm.trans found)
          rw [misfit, keyword.misfit_alone value cause misfit] at wrong
          rcases wrong with ⟨same, rfl⟩ | ⟨child, listed, _⟩
          · exact .inr ⟨rfl, (Option.some.inj same).symm⟩
          · exact absurd listed List.not_mem_nil
      | none =>
          rw [Option.none_or]
          refine tells_congr _ _ (fun trail cause => ?_) _ nodes
          simp [Under, present, misfit]

theorem properties_failure (members : List (String × Json)) :
    failure? (readProperties members) = (members.map Prod.snd).findSome? fun child => failure? (ofJson child) := by
  induction members with
  | nil =>
      rw [readProperties]
      rfl
  | cons member rest ih =>
      rcases member with ⟨key, value⟩
      have later : ∀ schema : Schema, failure? (readProperties rest >>= fun others =>
          return (key, schema) :: others) = failure? (readProperties rest) :=
        fun schema => (failure_bind _ _ none fun _ => rfl).trans (Option.or_none)
      rw [readProperties, failure_bind _ _ _ later, ih, List.map_cons, List.findSome?_cons]
      cases failure? (ofJson value) <;> rfl

theorem names_failure (names : List Json) :
    failure? (readNames names) = if names.all Json.isText then none else some .invalidRequired := by
  induction names with
  | nil => rfl
  | cons first rest ih =>
      have text : ∀ name, failure? (readNames (.string name :: rest)) = failure? (readNames rest) :=
        fun name => (failure_bind _ _ none fun _ => rfl).trans (Option.or_none)
      cases first with
      | scalar content =>
          cases content with
          | string name => exact (text name).trans ih
          | _ => rfl
      | _ => rfl

theorem string_failure (keyword : Keyword) (defect : SchemaError)
    (misfit : ∀ value, keyword.misfit? value = if value.isText then none else some defect)
    (bare : ∀ value, keyword.nodes value = []) (found : Option Json) :
    failure? (readString defect found) = found.bind keyword.refusal? := by
  cases found with
  | none => rfl
  | some value =>
      rw [Option.bind_some, Keyword.refusal?, misfit, bare]
      cases value with
      | scalar content => cases content <;> rfl
      | _ => rfl

theorem literals_failure (found : Option Json) : failure? (readLiterals found) = found.bind Keyword.enum.refusal? := by
  cases found with
  | none => rfl
  | some value => cases value <;> rfl

theorem declared_failure (found : Option Json) :
    failure? (readDeclared found) = found.bind Keyword.properties.refusal? := by
  cases found with
  | none => rfl
  | some value =>
      cases value with
      | object members =>
          rw [readDeclared, failure_map, properties_failure]
          rfl
      | _ => rfl

theorem required_failure (found : Option Json) :
    failure? (readRequired found) = found.bind Keyword.required.refusal? := by
  cases found with
  | none => rfl
  | some value =>
      cases value with
      | array names => exact (names_failure names).trans (Option.or_none).symm
      | _ => rfl

theorem sole_failure (node : Json) :
    failure? (ofJson node) = [node].findSome? fun child => failure? (ofJson child) := by
  rw [List.findSome?_singleton]

theorem additional_failure (found : Option Json) :
    failure? (readAdditional found) = found.bind Keyword.additional.refusal? := by
  have node : ∀ value, failure? ((ofJson value).map fun schema => some (Additional.schema schema)) =
      [value].findSome? fun child => failure? (ofJson child) :=
    fun value => (failure_map _ _).trans (sole_failure value)
  cases found with
  | none => rfl
  | some value =>
      cases value with
      | scalar content =>
          cases content with
          | boolean flag => cases flag <;> rfl
          | _ => exact node _
      | _ => exact node _

theorem items_failure (found : Option Json) : failure? (readItems found) = found.bind Keyword.items.refusal? := by
  cases found with
  | none => rfl
  | some value => exact (failure_map _ _).trans (sole_failure value)

theorem find_cons {α β : Type} (find : α → Option β) (first : α) (rest : List α) :
    (first :: rest).findSome? find = (find first).or (rest.findSome? find) := by
  rw [List.findSome?_cons]
  cases find first <;> rfl

theorem object_failure (members : List (String × Json)) :
    failure? (ofJson (.object members)) =
      Keyword.all.findSome? fun keyword => (Entries.get? keyword.word members).bind keyword.refusal? := by
  have type := string_failure .type .typeNotString type_misfit (fun _ => rfl) (Entries.get? "type" members)
  have reference := string_failure .reference .referenceNotString reference_misfit (fun _ => rfl)
    (Entries.get? "$ref" members)
  rw [of_json_object]
  refine (failure_bind _ _ _ fun _ => failure_bind _ _ _ fun _ => failure_bind _ _ _ fun _ => failure_bind _ _ _
    fun _ => failure_bind _ _ _ fun _ => failure_bind _ _ _ fun _ => failure_bind _ _ none fun _ => rfl).trans ?_
  rw [type, reference, literals_failure, declared_failure, required_failure, additional_failure, items_failure]
  simp only [Keyword.all, find_cons, List.findSome?_nil]
  rfl

theorem node_size (keyword : Keyword) (value child : Json) (listed : child ∈ keyword.nodes value) :
    child.size ≤ value.size := by
  have sole : ∀ other, child ∈ [other] → child.size ≤ other.size := fun other here =>
    le_of_eq (congrArg Json.size (List.mem_singleton.mp here))
  cases keyword with
  | properties =>
      cases value with
      | object members => exact (Json.size_child (.object members) child listed).le
      | _ => exact absurd listed List.not_mem_nil
  | additional =>
      cases value with
      | scalar content =>
          cases content with
          | boolean flag => exact absurd listed List.not_mem_nil
          | _ => exact sole _ listed
      | _ => exact sole _ listed
  | items => exact sole value listed
  | _ => exact absurd listed List.not_mem_nil

theorem read_other (json : Json) (other : ∀ members, json ≠ .object members) : ofJson json = .error .notAnObject := by
  cases json with
  | object members => exact absurd rfl (other members)
  | _ => simp [ofJson]

theorem other_tells (json : Json) (other : ∀ members, json ≠ .object members) :
    Tells (Malformed json) (failure? (ofJson json)) := by
  rw [read_other json other]
  refine ⟨[], .node json other, fun trail cause malformed => ?_⟩
  cases malformed with
  | node _ _ => exact .inr ⟨rfl, rfl⟩
  | keyword members _ _ _ _ _ => exact absurd rfl (other members)
  | inside members _ _ _ _ _ _ _ _ _ => exact absurd rfl (other members)

-- The reader's answer is told from the places that are malformed, by induction on the size of the document.
theorem read_tells (json : Json) : Tells (Malformed json) (failure? (ofJson json)) := by
  cases json with
  | object members =>
      rw [object_failure]
      refine tells_congr _ _ (fun trail cause => (malformed_object members trail cause).symm) _ ?_
      apply tells_parts
      · intro keyword _
        refine under_tells members keyword fun value present child listed => ?_
        have smaller := Json.size_found members keyword.word value present
        have within := node_size keyword value child listed
        exact read_tells child
      · have order : Keyword.all.Pairwise fun one other => Keyword.all.idxOf one < Keyword.all.idxOf other := by decide
        exact order.imp fun {one other} before trail cause later cause' =>
          under_before members one other trail later cause cause' before
  | _ => exact other_tells _ nofun
termination_by json.size
decreasing_by omega

instance : Std.Asymm Step.Before where
  asymm := by
    rintro one other (first | ⟨same, first⟩) (second | ⟨again, second⟩)
    · omega
    · rw [again] at first
      omega
    · rw [same] at second
      omega
    · omega

theorem first_unique (wrong : List Step → SchemaError → Prop) (one other : SchemaError) (first : First wrong one)
    (second : First wrong other) : one = other := by
  obtain ⟨trail, holds, least⟩ := first
  obtain ⟨later, holds', least'⟩ := second
  rcases least later other holds' with before | ⟨_, same⟩
  · rcases least' trail one holds with after | ⟨_, same⟩
    · exact absurd after (asymm before)
    · exact same
  · exact same.symm

theorem read_first_malformed (json : Json) (cause : SchemaError) :
    ofJson json = .error cause ↔ First (Malformed json) cause := by
  have tells := read_tells json
  constructor
  · intro failed
    rwa [failed] at tells
  · intro first
    cases answer : ofJson json with
    | ok schema =>
        rw [answer] at tells
        obtain ⟨trail, holds, _⟩ := first
        exact absurd holds (tells trail cause)
    | error other =>
        rw [answer] at tells
        exact congrArg Except.error (first_unique _ other cause tells first)

theorem refusal_none (keyword : Keyword) (value : Json) :
    keyword.refusal? value = none ↔
      keyword.misfit? value = none ∧ ∀ child ∈ keyword.nodes value, ∃ schema, ofJson child = .ok schema := by
  rw [Keyword.refusal?, Option.or_eq_none_iff, List.findSome?_eq_none_iff]
  simp only [failure_none]

theorem object_reads (members : List (String × Json)) :
    (∃ schema, ofJson (.object members) = .ok schema) ↔
      ∀ keyword value, Entries.get? (Keyword.word keyword) members = some value →
        keyword.misfit? value = none ∧ ∀ child ∈ keyword.nodes value, ∃ schema, ofJson child = .ok schema := by
  rw [← failure_none, object_failure, List.findSome?_eq_none_iff]
  refine forall_congr' fun keyword => ?_
  rw [forall_prop_of_true keyword.listed, Option.bind_eq_none_iff]
  exact forall_congr' fun value => imp_congr_right fun _ => refusal_none keyword value

theorem text_fits (value : Json) : value.isText = true ↔ ∃ text, value = .string text := by
  cases value with
  | scalar content => cases content <;> simp [Json.isText, Json.string]
  | _ => simp [Json.isText, Json.string]

theorem names_fit (names : List Json) :
    names.all Json.isText = true ↔ ∃ texts : List String, names = texts.map .string := by
  induction names with
  | nil => exact iff_of_true rfl ⟨[], rfl⟩
  | cons first rest ih =>
      rw [List.all_cons, Bool.and_eq_true, text_fits, ih]
      constructor
      · rintro ⟨⟨text, rfl⟩, texts, rfl⟩
        exact ⟨text :: texts, rfl⟩
      · rintro ⟨_ | ⟨text, texts⟩, same⟩
        · contradiction
        · obtain ⟨rfl, rfl⟩ := List.cons.inj same
          exact ⟨⟨text, rfl⟩, texts, rfl⟩

theorem misfit_none (value : Json) :
    (Keyword.type.misfit? value = none ↔ ∃ text, value = .string text) ∧
    (Keyword.reference.misfit? value = none ↔ ∃ text, value = .string text) ∧
    (Keyword.enum.misfit? value = none ↔ ∃ literals, value = .array literals) ∧
    (Keyword.properties.misfit? value = none ↔ ∃ declared, value = .object declared) ∧
    (Keyword.required.misfit? value = none ↔ ∃ names : List String, value = .array (names.map .string)) := by
  refine ⟨?_, ?_, ?_, ?_, ?_⟩
  · simp [type_misfit, text_fits]
  · simp [reference_misfit, text_fits]
  · cases value <;> simp [Keyword.misfit?]
  · cases value <;> simp [Keyword.misfit?]
  · cases value with
    | array names => simp [Keyword.misfit?, ← names_fit]
    | _ => simp [Keyword.misfit?]

theorem additional_nodes (value child : Json) :
    child ∈ Keyword.additional.nodes value ↔ child = value ∧ ∀ flag, value ≠ .boolean flag := by
  cases value with
  | scalar content => cases content <;> simp [Keyword.nodes, Json.boolean]
  | _ => simp [Keyword.nodes, Json.boolean]

theorem well_formed_reads (json : Json) (formed : WellFormed json) : ∃ schema, ofJson json = .ok schema := by
  induction formed with
  | node members type reference enum properties _ required _ _ property additional items =>
      rw [object_reads]
      intro keyword value present
      obtain ⟨typeFits, referenceFits, enumFits, propertiesFit, requiredFits⟩ := misfit_none value
      have bare : ∀ child ∈ ([] : List Json), ∃ schema, ofJson child = .ok schema := fun child listed =>
        absurd listed List.not_mem_nil
      cases keyword with
      | type => exact ⟨typeFits.mpr (type value present), bare⟩
      | reference => exact ⟨referenceFits.mpr (reference value present), bare⟩
      | enum => exact ⟨enumFits.mpr (enum value present), bare⟩
      | required => exact ⟨requiredFits.mpr (required value present), bare⟩
      | properties =>
          obtain ⟨declared, rfl⟩ := properties value present
          refine ⟨rfl, fun child listed => ?_⟩
          obtain ⟨member, here, rfl⟩ := List.mem_map.mp listed
          exact property declared present member here
      | additional =>
          refine ⟨rfl, fun child listed => ?_⟩
          obtain ⟨rfl, other⟩ := (additional_nodes value child).mp listed
          exact additional child present other
      | items =>
          refine ⟨rfl, fun child listed => ?_⟩
          obtain rfl := List.mem_singleton.mp listed
          exact items child present

theorem reads_well_formed (json : Json) : (∃ schema, ofJson json = .ok schema) → WellFormed json := by
  cases json with
  | object members =>
      intro reads
      have each := (object_reads members).mp reads
      have below : ∀ keyword value, Entries.get? (Keyword.word keyword) members = some value →
          ∀ child ∈ keyword.nodes value, WellFormed child := by
        intro keyword value present child listed
        have smaller := Json.size_found members keyword.word value present
        have within := node_size keyword value child listed
        exact reads_well_formed child ((each keyword value present).2 child listed)
      constructor
      case type => exact fun value present => (misfit_none value).1.mp (each .type value present).1
      case reference => exact fun value present => (misfit_none value).2.1.mp (each .reference value present).1
      case enum => exact fun value present => (misfit_none value).2.2.1.mp (each .enum value present).1
      case properties => exact fun value present => (misfit_none value).2.2.2.1.mp (each .properties value present).1
      case required => exact fun value present => (misfit_none value).2.2.2.2.mp (each .required value present).1
      case property =>
        exact fun declared present member listed => below .properties _ present member.2 (List.mem_map_of_mem listed)
      case additional =>
        exact fun value present other =>
          below .additional value present value ((additional_nodes value value).mpr ⟨rfl, other⟩)
      case items => exact fun value present => below .items value present value List.mem_cons_self
  | _ =>
      rintro ⟨schema, read⟩
      obtain ⟨members, same⟩ := read_object _ schema read
      contradiction
termination_by json.size
decreasing_by omega

theorem read_well_formed (json : Json) : (∃ schema, ofJson json = .ok schema) ↔ WellFormed json :=
  ⟨reads_well_formed json, well_formed_reads json⟩

def nodeErrors : List SchemaError :=
  [.notAnObject, .typeNotString, .referenceNotString, .invalidEnum, .propertiesNotObject, .invalidRequired]

theorem misfit_errors (keyword : Keyword) (value : Json) (cause : SchemaError)
    (misfit : keyword.misfit? value = some cause) : cause ∈ nodeErrors := by
  revert misfit
  fun_cases Keyword.misfit? keyword value
  all_goals simp only [reduceCtorEq, false_implies, Option.some.injEq]
  all_goals
    rintro rfl
    decide

theorem malformed_errors (json : Json) (trail : List Step) (cause : SchemaError)
    (malformed : Malformed json trail cause) : cause ∈ nodeErrors := by
  induction malformed with
  | node json other => exact List.mem_cons_self
  | keyword members keyword value cause present misfit => exact misfit_errors keyword value cause misfit
  | inside _ _ _ _ _ _ _ _ _ _ ih => exact ih

end Schema

namespace Definitions

theorem members_failure (members : List (String × Json)) :
    failure? (readMembers members) =
      members.findSome? fun member => (failure? (Schema.ofJson member.2)).map (.inDefinition member.1) := by
  induction members with
  | nil => rfl
  | cons member rest ih =>
      rcases member with ⟨name, value⟩
      have later : ∀ schema : Schema, failure? (readMembers rest >>= fun others =>
          return (name, schema) :: others) = failure? (readMembers rest) :=
        fun schema => (failure_bind _ _ none fun _ => rfl).trans (Option.or_none)
      rw [readMembers, failure_bind _ _ _ later, failure_map_error, ih, Schema.find_cons]

def FirstMalformed (members : List (String × Json)) (failure : SchemaError) : Prop :=
  ∃ before name node after cause, members = before ++ (name, node) :: after ∧
    (∀ member ∈ before, Schema.WellFormed member.2) ∧ Schema.First (Schema.Malformed node) cause ∧
    failure = .inDefinition name cause

theorem object_fails (members : List (String × Json)) (failure : SchemaError) :
    ofJson (.object members) = .error failure ↔ FirstMalformed members failure := by
  rw [← failure_some, ofJson, failure_map, members_failure, List.findSome?_eq_some_iff]
  simp only [Option.map_eq_none_iff, failure_none, Schema.read_well_formed, Option.map_eq_some_iff, failure_some,
    Schema.read_first_malformed]
  constructor
  · rintro ⟨before, ⟨name, node⟩, after, parts, ⟨cause, first, same⟩, formed⟩
    exact ⟨before, name, node, after, cause, parts, formed, first, same.symm⟩
  · rintro ⟨before, name, node, after, cause, parts, formed, first, same⟩
    exact ⟨before, (name, node), after, parts, ⟨cause, first, same.symm⟩, formed⟩

theorem object_reads (members : List (String × Json)) :
    (∃ definitions, ofJson (.object members) = .ok definitions) ↔
      ∀ member ∈ members, Schema.WellFormed member.2 := by
  rw [← failure_none, ofJson, failure_map, members_failure, List.findSome?_eq_none_iff]
  simp only [Option.map_eq_none_iff, failure_none, Schema.read_well_formed]

theorem read_other (json : Json) (other : ∀ members, json ≠ .object members) :
    ofJson json = .error .definitionsNotObject := by
  cases json with
  | object members => exact absurd rfl (other members)
  | _ => rfl

theorem read_fails_iff (json : Json) :
    (∃ failure, ofJson json = .error failure) ↔ (∀ members, json ≠ .object members) ∨
      ∃ members, json = .object members ∧ ∃ member ∈ members, ¬ Schema.WellFormed member.2 := by
  by_cases object : ∃ members, json = .object members
  · obtain ⟨members, rfl⟩ := object
    have fails : (∃ failure, ofJson (.object members) = .error failure) ↔
        ∃ member ∈ members, ¬ Schema.WellFormed member.2 := by
      rw [failure_exists, object_reads]
      push Not
      rfl
    rw [fails]
    simp
  · have other := not_exists.mp object
    exact iff_of_true ⟨_, read_other json other⟩ (.inl other)

theorem read_error_iff (json : Json) (failure : SchemaError) :
    ofJson json = .error failure ↔
      (∀ members, json ≠ .object members) ∧ failure = .definitionsNotObject ∨
      ∃ members, json = .object members ∧ FirstMalformed members failure := by
  by_cases object : ∃ members, json = .object members
  · obtain ⟨members, rfl⟩ := object
    rw [object_fails]
    simp
  · have other := not_exists.mp object
    rw [read_other json other, Except.error.injEq]
    simp [other, eq_comm]

end Definitions

-- A node is read if it is of the right form all the way down, keywords that go unused included, and else
-- the error is the one that is come by first. A definition that is not read is named.
theorem first_malformed_reported :
    (∀ json : Json, (∃ schema, Schema.ofJson json = .ok schema) ↔ Schema.WellFormed json) ∧
    (∀ json cause, Schema.ofJson json = .error cause ↔ Schema.First (Schema.Malformed json) cause) ∧
    (∀ json cause, Schema.ofJson json = .error cause → cause ∈ Schema.nodeErrors) ∧
    (∀ json : Json, (∃ failure, Definitions.ofJson json = .error failure) ↔ (∀ members, json ≠ .object members) ∨
      ∃ members, json = .object members ∧ ∃ member ∈ members, ¬ Schema.WellFormed member.2) ∧
    ∀ json failure, Definitions.ofJson json = .error failure ↔
      (∀ members, json ≠ .object members) ∧ failure = .definitionsNotObject ∨
      ∃ members, json = .object members ∧ Definitions.FirstMalformed members failure := by
  refine ⟨Schema.read_well_formed, Schema.read_first_malformed, fun json cause failed => ?_,
    Definitions.read_fails_iff, Definitions.read_error_iff⟩
  obtain ⟨trail, malformed, _⟩ := (Schema.read_first_malformed json cause).mp failed
  exact Schema.malformed_errors json trail cause malformed

-- A reference, so the rest of it goes unused. Of what is wrong with it, the names required of its second
-- property come first.
def strayNode : Json :=
  .object [("items", .null), ("$ref", .string "#/definitions/label"),
    ("properties", .object [("type", .object [("type", .string "string")]),
      ("items", .object [("items", .object [("type", .null)]), ("required", .array [.string "a", .null])]),
      ("enum", .null)]),
    ("required", .null)]

def straySource : List (String × Json) :=
  [("label", .object [("additionalProperties", .boolean false)]), ("stray", strayNode), ("other", .null)]

theorem stray_node_reported :
    Schema.First (Schema.Malformed strayNode) .invalidRequired ∧ ¬ Schema.WellFormed strayNode ∧
      SchemaError.invalidRequired ∈ Schema.nodeErrors ∧
      Definitions.FirstMalformed straySource (.inDefinition "stray" .invalidRequired) := by
  obtain ⟨reads, fails, known, definitionsFail, definitionsError⟩ := first_malformed_reported
  have read : Schema.ofJson strayNode = .error .invalidRequired := by
    simp [strayNode, Schema.ofJson, Schema.readProperties, Schema.readString, Schema.readLiterals, Schema.readRequired,
      Schema.readNames, Entries.get?, bind, Except.bind, pure, Except.pure, Except.map]
  have label : Schema.ofJson (.object [("additionalProperties", .boolean false)]) =
      .ok ⟨none, none, none, none, [], none, none⟩ := by
    simp [Schema.ofJson, Schema.readString, Schema.readLiterals, Schema.readRequired, Entries.get?, bind, Except.bind,
      pure, Except.pure]
  have stray : Definitions.ofJson (.object straySource) = .error (.inDefinition "stray" .invalidRequired) := by
    simp [Definitions.ofJson, straySource, Definitions.readMembers, label, read, bind, Except.bind, Except.map,
      Except.mapError]
  refine ⟨(fails _ _).mp read, fun formed => ?_, known _ _ read, ?_⟩
  · obtain ⟨schema, passed⟩ := (reads strayNode).mpr formed
    rw [read] at passed
    contradiction
  · obtain ⟨other, _⟩ | ⟨members, same, first⟩ := (definitionsError _ _).mp stray
    · exact absurd rfl (other straySource)
    · exact Json.object.inj same ▸ first

end ShapeCheck
