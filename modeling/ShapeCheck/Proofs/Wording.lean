import Mathlib.Logic.Relation
import ShapeCheck.Proofs.Grammar
import ShapeCheck.Script.Module
import ShapeCheck.Validation.Check

set_option autoImplicit false

namespace ShapeCheck

namespace Entries

section

variable {α : Type} (key : String)

theorem get_append (entries others : List (String × α)) :
    get? key (entries ++ others) = (get? key entries).or (get? key others) := by
  induction entries with
  | nil => rfl
  | cons entry rest ih =>
      rw [List.cons_append, get?, get?]
      by_cases here : entry.1 = key
      · rw [if_pos here, if_pos here, Option.some_or]
      · rw [if_neg here, if_neg here]
        exact ih

theorem get_skip (before after : List (String × α)) (name : String) (value : α) (apart : name ≠ key) :
    get? key (before ++ (name, value) :: after) = get? key (before ++ after) := by
  rw [get_append, get_append, get?, if_neg apart]

theorem read_replaced {β : Type} (read : Option α → β) (before after : List (String × α)) (name : String)
    (value other : α) (same : name = key → read (some value) = read (some other)) :
    read (get? key (before ++ (name, value) :: after)) = read (get? key (before ++ (name, other) :: after)) := by
  by_cases here : name = key
  · rw [get_append, get_append, get?, get?, if_pos here, if_pos here]
    cases get? key before with
    | none => exact same here
    | some shadowing => rfl
  · rw [get_skip key before after name value here, get_skip key before after name other here]

theorem get_permuted (entries others : List (String × α)) (distinct : (keys entries).Nodup)
    (permuted : entries.Perm others) : get? key entries = get? key others := by
  have still : (keys others).Nodup := (permuted.map Prod.fst).nodup_iff.mp distinct
  cases found : get? key entries with
  | none =>
      cases held : get? key others with
      | none => rfl
      | some value =>
          have listed := permuted.mem_iff.mpr (get_mem key value others held)
          have back := get_distinct entries distinct (key, value) listed
          rw [found] at back
          contradiction
  | some value =>
      have listed := permuted.mem_iff.mp (get_mem key value entries found)
      exact (get_distinct others still (key, value) listed).symm

end

end Entries

namespace Schema

-- One change of how a node is put: a member that is no keyword more, its members in another order, or such
-- a change to a node under it. The members of `properties` are not keywords, and keep their order.
inductive Reworded : Json → Json → Prop where
  | stray (before after : List (String × Json)) (key : String) (value : Json)
      (foreign : ∀ keyword : Keyword, key ≠ keyword.word) :
      Reworded (.object (before ++ (key, value) :: after)) (.object (before ++ after))
  | order (members others : List (String × Json)) (distinct : (Entries.keys members).Nodup)
      (permuted : members.Perm others) : Reworded (.object members) (.object others)
  | property (before after earlier later : List (String × Json)) (name : String) (node other : Json)
      (inner : Reworded node other) :
      Reworded (.object (before ++ ("properties", .object (earlier ++ (name, node) :: later)) :: after))
        (.object (before ++ ("properties", .object (earlier ++ (name, other) :: later)) :: after))
  | additional (before after : List (String × Json)) (node other : Json) (inner : Reworded node other) :
      Reworded (.object (before ++ ("additionalProperties", node) :: after))
        (.object (before ++ ("additionalProperties", other) :: after))
  | items (before after : List (String × Json)) (node other : Json) (inner : Reworded node other) :
      Reworded (.object (before ++ ("items", node) :: after)) (.object (before ++ ("items", other) :: after))

theorem Keyword.foreign (key : String) (fresh : key ∉ all.map word) (keyword : Keyword) : key ≠ keyword.word :=
  fun same => fresh (same ▸ List.mem_map_of_mem keyword.listed)

abbrev SameSense : Json → Json → Prop := Relation.EqvGen Reworded

theorem reworded_objects (node other : Json) (edit : Reworded node other) :
    (∃ members, node = .object members) ∧ ∃ others, other = .object others := by
  cases edit <;> exact ⟨⟨_, rfl⟩, ⟨_, rfl⟩⟩

section

variable (members others : List (String × Json))

theorem of_json_members (type : Entries.get? "type" members = Entries.get? "type" others)
    (reference : Entries.get? "$ref" members = Entries.get? "$ref" others)
    (enum : Entries.get? "enum" members = Entries.get? "enum" others)
    (properties : readDeclared (Entries.get? "properties" members) = readDeclared (Entries.get? "properties" others))
    (required : Entries.get? "required" members = Entries.get? "required" others)
    (additional : readAdditional (Entries.get? "additionalProperties" members) =
      readAdditional (Entries.get? "additionalProperties" others))
    (items : readItems (Entries.get? "items" members) = readItems (Entries.get? "items" others)) :
    ofJson (.object members) = ofJson (.object others) := by
  rw [of_json_object, of_json_object, type, reference, enum, properties, required, additional, items]

theorem of_json_found
    (same : ∀ keyword : Keyword, Entries.get? keyword.word members = Entries.get? keyword.word others) :
    ofJson (.object members) = ofJson (.object others) :=
  of_json_members members others (same .type) (same .reference) (same .enum) (congrArg readDeclared (same .properties))
    (same .required) (congrArg readAdditional (same .additional)) (congrArg readItems (same .items))

end

theorem of_json_replaced (before after : List (String × Json)) (name : String) (node other : Json)
    (inner : name ∉ ["type", "$ref", "enum", "required"])
    (properties : name = "properties" → readDeclared (some node) = readDeclared (some other))
    (additional : name = "additionalProperties" → readAdditional (some node) = readAdditional (some other))
    (items : name = "items" → readItems (some node) = readItems (some other)) :
    ofJson (.object (before ++ (name, node) :: after)) = ofJson (.object (before ++ (name, other) :: after)) := by
  have outside : ∀ word ∈ ["type", "$ref", "enum", "required"],
      Entries.get? word (before ++ (name, node) :: after) = Entries.get? word (before ++ (name, other) :: after) :=
    fun word listed => Entries.read_replaced word id before after name node other fun same =>
      absurd (same ▸ listed) inner
  apply of_json_members
  · exact outside "type" (by decide)
  · exact outside "$ref" (by decide)
  · exact outside "enum" (by decide)
  · exact Entries.read_replaced _ readDeclared before after name node other properties
  · exact outside "required" (by decide)
  · exact Entries.read_replaced _ readAdditional before after name node other additional
  · exact Entries.read_replaced _ readItems before after name node other items

theorem read_properties_replaced (earlier later : List (String × Json)) (name : String) (node other : Json)
    (same : ofJson node = ofJson other) :
    readProperties (earlier ++ (name, node) :: later) = readProperties (earlier ++ (name, other) :: later) := by
  induction earlier with
  | nil => rw [List.nil_append, List.nil_append, readProperties, readProperties, same]
  | cons member rest ih =>
      rcases member with ⟨key, value⟩
      rw [List.cons_append, List.cons_append, readProperties, readProperties, ih]

theorem read_additional_object (members : List (String × Json)) :
    readAdditional (some (.object members)) = (ofJson (.object members)).map fun schema => some (.schema schema) :=
  rfl

theorem reworded_reads (node other : Json) (edit : Reworded node other) : ofJson node = ofJson other := by
  induction edit with
  | stray before after key value foreign =>
      exact of_json_found _ _ fun keyword => Entries.get_skip _ before after key value (foreign keyword)
  | order members others distinct permuted =>
      exact of_json_found _ _ fun keyword => Entries.get_permuted _ members others distinct permuted
  | property before after earlier later name node other inner ih =>
      refine of_json_replaced before after "properties" _ _ (by decide) (fun _ => ?_) (absurd · (by decide))
        (absurd · (by decide))
      rw [readDeclared, readDeclared, read_properties_replaced earlier later name node other ih]
  | additional before after node other inner ih =>
      refine of_json_replaced before after "additionalProperties" _ _ (by decide) (absurd · (by decide)) (fun _ => ?_)
        (absurd · (by decide))
      obtain ⟨⟨members, rfl⟩, ⟨others, rfl⟩⟩ := reworded_objects node other inner
      rw [read_additional_object, read_additional_object, ih]
  | items before after node other inner ih =>
      refine of_json_replaced before after "items" _ _ (by decide) (absurd · (by decide)) (absurd · (by decide))
        (fun _ => ?_)
      rw [readItems, readItems, ih]

theorem same_sense_reads (node other : Json) (same : SameSense node other) : ofJson node = ofJson other := by
  induction same with
  | rel node other edit => exact reworded_reads node other edit
  | refl node => rfl
  | symm node other _ ih => exact ih.symm
  | trans node middle other _ _ first second => exact first.trans second

end Schema

namespace Definitions

def SameSense (one other : Json) : Prop :=
  one = other ∨ ∃ members others, one = .object members ∧ other = .object others ∧
    List.Forall₂ (fun member entry => member.1 = entry.1 ∧ Schema.SameSense member.2 entry.2) members others

theorem same_sense_members (members others : List (String × Json))
    (each : List.Forall₂ (fun member entry => member.1 = entry.1 ∧ Schema.SameSense member.2 entry.2) members others) :
    readMembers members = readMembers others := by
  induction each with
  | nil => rfl
  | cons head tail ih => rw [readMembers, readMembers, head.1, Schema.same_sense_reads _ _ head.2, ih]

theorem same_sense_reads (one other : Json) (same : SameSense one other) : ofJson one = ofJson other := by
  obtain rfl | ⟨members, others, rfl, rfl, each⟩ := same
  · rfl
  · rw [ofJson, ofJson, same_sense_members members others each]

theorem document_reads (members others : List (String × Json))
    (same : Option.Rel SameSense (Entries.get? "definitions" members) (Entries.get? "definitions" others)) :
    ofDocument (.object members) = ofDocument (.object others) := by
  rw [ofDocument, ofDocument]
  generalize Entries.get? "definitions" members = found, Entries.get? "definitions" others = held at same ⊢
  cases same with
  | none => rfl
  | some related => exact same_sense_reads _ _ related

-- Documents of which the same is made: the same definitions and table, or the same error, the same module and
-- the same answers to every check of a value.
structure Interchangeable (one other : Json) : Prop where
  definitions : ofDocument one = ofDocument other
  compiled : compileDocument one = compileDocument other
  written : ∀ options : Script.ModuleOptions,
    (compileDocument one).map (fun table => (Script.ofTable options table).render) =
      (compileDocument other).map fun table => (Script.ofTable options table).render
  checked : ∀ (ν : Type) (data : Instance ν) (name : String) (value : ν),
    (compileDocument one).map (fun table =>
        (table.checkEntry data name value, table.checkEntryExactly data name value)) =
      (compileDocument other).map fun table =>
        (table.checkEntry data name value, table.checkEntryExactly data name value)

theorem interchangeable (one other : Json) (same : ofDocument one = ofDocument other) : Interchangeable one other := by
  have compiled : compileDocument one = compileDocument other := by
    rw [compileDocument, compileDocument, same]
  refine ⟨same, compiled, fun options => ?_, fun ν data name value => ?_⟩
  · rw [compiled]
  · rw [compiled]

end Definitions

-- Members that are no keywords and the order of the members of a node make no difference, at any depth, to what is
-- read or to the error, nor does what a document holds besides its definitions.
theorem wording_immaterial :
    (∀ node other : Json, Schema.SameSense node other → Schema.ofJson node = Schema.ofJson other) ∧
    ∀ members others : List (String × Json),
      Option.Rel Definitions.SameSense (Entries.get? "definitions" members) (Entries.get? "definitions" others) →
        Definitions.Interchangeable (.object members) (.object others) :=
  ⟨Schema.same_sense_reads, fun members others same =>
    Definitions.interchangeable _ _ (Definitions.document_reads members others same)⟩

def tersePart : Json :=
  .object [("type", .string "object"), ("properties", .object [("type", .object [("type", .string "string")]),
    ("x-note", .object [("type", .string "integer")])]), ("required", .array [.string "type"])]

def wordyPart : Json :=
  .object [("required", .array [.string "type"]), ("x-note", .null),
    ("properties", .object [("type", .object [("description", .string "kind"), ("type", .string "string")]),
      ("x-note", .object [("type", .string "integer")])]), ("type", .string "object")]

def terseList : Json :=
  .object [("type", .string "array"), ("items", .object [("enum", .null)])]

def wordyList : Json :=
  .object [("items", .object [("title", .null), ("enum", .null)]), ("type", .string "array")]

theorem part_same_sense : Schema.SameSense wordyPart tersePart := by
  have note := Schema.Keyword.foreign "x-note" (by decide)
  have description := Schema.Keyword.foreign "description" (by decide)
  refine .trans _ _ _ (.rel _ _ (.stray [("required", .array [.string "type"])] _ "x-note" .null note)) ?_
  refine .trans _ _ _ (.rel _ _ (.property [("required", .array [.string "type"])] _ [] _ "type" _ _
    (.stray [] _ "description" _ description))) ?_
  exact .rel _ _ (.order _ _ (by decide) (List.reverse_perm _).symm)

theorem list_same_sense : Schema.SameSense wordyList terseList := by
  have title := Schema.Keyword.foreign "title" (by decide)
  refine .trans _ _ _ (.rel _ _ (.items [] _ _ _ (.stray [] _ "title" .null title))) ?_
  exact .rel _ _ (.order _ _ (by decide) (List.Perm.swap _ _ _))

theorem wordy_part_read :
    Schema.SameSense wordyPart tersePart ∧ Schema.ofJson wordyPart = Schema.ofJson tersePart ∧
    Schema.SameSense wordyList terseList ∧ Schema.ofJson wordyList = .error .invalidEnum ∧
    Definitions.Interchangeable
      (.object [("swagger", .string "2.0"), ("definitions", .object [("part", wordyPart)])])
      (.object [("definitions", .object [("part", tersePart)])]) := by
  obtain ⟨nodes, documents⟩ := wording_immaterial
  have refused : Schema.ofJson terseList = .error .invalidEnum := by
    simp [terseList, Schema.ofJson, Schema.readString, Schema.readLiterals, Schema.readRequired, Entries.get?, bind,
      Except.bind, Except.map]
  refine ⟨part_same_sense, nodes _ _ part_same_sense, list_same_sense, ?_, documents _ _ ?_⟩
  · exact (nodes _ _ list_same_sense).trans refused
  · exact .some (.inr ⟨_, _, rfl, rfl, .cons ⟨rfl, part_same_sense⟩ .nil⟩)

end ShapeCheck
