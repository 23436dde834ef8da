import ShapeCheck.Proofs.Relocation
import ShapeCheck.Proofs.TreeData

set_option autoImplicit false

namespace ShapeCheck

theorem zip_idx_map_paired {α β γ : Type} (related : α → β → Prop) (first : α × Nat → γ) (second : β × Nat → γ)
    (values : List α) (others : List β) (paired : List.Forall₂ related values others)
    (same : ∀ position value other, related value other → first (value, position) = second (other, position))
    (start : Nat) : (values.zipIdx start).map first = (others.zipIdx start).map second := by
  induction paired generalizing start with
  | nil => rfl
  | cons head tail ih =>
      rw [List.zipIdx_cons, List.zipIdx_cons, List.map_cons, List.map_cons, same start _ _ head, ih (start + 1)]

theorem map_paired {α β γ : Type} (related : α → β → Prop) (first : α → γ) (second : β → γ) (values : List α)
    (others : List β) (paired : List.Forall₂ related values others)
    (same : ∀ value other, related value other → first value = second other) :
    values.map first = others.map second := by
  induction paired with
  | nil => rfl
  | cons head tail ih => rw [List.map_cons, List.map_cons, same _ _ head, ih]

namespace Tree

section

variable {total : Nat} (node : Node total)

theorem node_kind : (data total).kind node = node.value.kind :=
  (data total).unfolds_kind node node.value (node_unfolds _ _ _)

theorem node_literal : ((data total).view node).equalsLiteral = node.value.equalsLiteral :=
  (data total).unfolds_literal node node.value (node_unfolds _ _ _)

theorem node_preview : (data total).preview node = shortened node.value.chars := rfl

theorem node_scalar (content : Scalar) (scalar : node.value = .scalar content) :
    (data total).view node = .scalar content :=
  (data total).unfolds_scalar node content (scalar ▸ node_unfolds _ _ _)

theorem node_identity (container : node.value.kind.isContainer = true) :
    ((data total).view node).identity? = some node.number := by
  obtain ⟨id, seen⟩ := (data total).unfolds_container node node.value (node_unfolds _ _ _) container
  rw [seen, identity_number node id seen]

end

variable {total other : Nat}

-- One tree at two places. What is entered at either place stands before the tree or is the tree
-- itself, so that nothing below it is entered.
structure Beside (entered marks : List Nat) (node : Node total) (twin : Node other) : Prop where
  same : node.value = twin.value
  before : ∀ id ∈ entered, id ≤ node.number
  twinBefore : ∀ id ∈ marks, id ≤ twin.number

-- The tree is entered at both places or at neither, which is all that a reference looks at.
structure Twins (entered marks : List Nat) (node : Node total) (twin : Node other) : Prop
    extends Beside entered marks node twin where
  marked : node.number ∈ entered ↔ twin.number ∈ marks

theorem twins_after (entered marks : List Nat) (node : Node total) (twin : Node other) (same : node.value = twin.value)
    (before : ∀ id ∈ entered, id < node.number) (twinBefore : ∀ id ∈ marks, id < twin.number) :
    Twins entered marks node twin where
  same := same
  before id listed := Nat.le_of_lt (before id listed)
  twinBefore id listed := Nat.le_of_lt (twinBefore id listed)
  marked := iff_of_false (fun listed => Nat.lt_irrefl _ (before _ listed))
    fun listed => Nat.lt_irrefl _ (twinBefore _ listed)

theorem twins_inside (entered marks : List Nat) (node : Node total) (twin : Node other)
    (twins : Twins entered marks node twin) : Twins (node.number :: entered) (twin.number :: marks) node twin where
  same := twins.same
  before := List.forall_mem_cons.mpr ⟨Nat.le_refl _, twins.before⟩
  twinBefore := List.forall_mem_cons.mpr ⟨Nat.le_refl _, twins.twinBefore⟩
  marked := iff_of_true List.mem_cons_self List.mem_cons_self

theorem item_nodes_twins (entered marks : List Nat) (number position : Nat) (items : List Json)
    (fits : number + Json.sizeItems items ≤ total) (twinFits : position + Json.sizeItems items ≤ other)
    (before : ∀ id ∈ entered, id < number) (twinBefore : ∀ id ∈ marks, id < position) :
    List.Forall₂ (Twins entered marks) (itemNodes number items fits) (itemNodes position items twinFits) := by
  induction items generalizing number position with
  | nil => exact .nil
  | cons item rest ih =>
      have later := fun id listed => Nat.lt_add_right item.size (before id listed)
      have twinLater := fun id listed => Nat.lt_add_right item.size (twinBefore id listed)
      exact .cons (twins_after _ _ _ _ rfl before twinBefore) (ih _ _ _ _ later twinLater)

theorem entry_nodes_twins (entered marks : List Nat) (number position : Nat) (entries : List (String × Json))
    (fits : number + Json.sizeEntries entries ≤ total) (twinFits : position + Json.sizeEntries entries ≤ other)
    (before : ∀ id ∈ entered, id < number) (twinBefore : ∀ id ∈ marks, id < position) :
    List.Forall₂ (fun entry twin => entry.1 = twin.1 ∧ Twins entered marks entry.2 twin.2)
      (entryNodes number entries fits) (entryNodes position entries twinFits) := by
  induction entries generalizing number position with
  | nil => exact .nil
  | cons entry rest ih =>
      have later := fun id listed => Nat.lt_add_right entry.2.size (before id listed)
      have twinLater := fun id listed => Nat.lt_add_right entry.2.size (twinBefore id listed)
      exact .cons ⟨rfl, twins_after _ _ _ _ rfl before twinBefore⟩ (ih _ _ _ _ later twinLater)

section

variable (table : Table) (entered marks : List Nat) (last : Option Segment) (node : Node total) (twin : Node other)

theorem survey_field_twins (entries : List (String × Node total)) (twins : List (String × Node other))
    (paired : List.Forall₂ (fun entry twin => entry.1 = twin.1 ∧ Twins entered marks entry.2 twin.2) entries twins)
    (field : Field)
    (each : ∀ child twinChild, Twins entered marks child twinChild →
      survey table (data total) entered (some (.key field.name)) field.spec child =
        survey table (data other) marks (some (.key field.name)) field.spec twinChild) :
    surveyField table (data total) entered entries field = surveyField table (data other) marks twins field := by
  cases twinFound : Entries.get? field.name twins with
  | none =>
      have absent := get_paired_none _ field.name entries twins paired twinFound
      rw [survey_field_absent _ _ _ _ _ absent, survey_field_absent _ _ _ _ _ twinFound]
  | some twinChild =>
      obtain ⟨child, found, same⟩ := get_paired_some _ field.name entries twins paired twinChild twinFound
      have kinds : (data total).kind child = (data other).kind twinChild := by
        rw [node_kind, node_kind, same.same]
      by_cases null : (data total).kind child = .null
      · rw [survey_field_null _ _ _ _ _ child found null, survey_field_null _ _ _ _ _ twinChild twinFound (kinds ▸ null)]
      · rw [survey_field_filled _ _ _ _ _ child found null,
          survey_field_filled _ _ _ _ _ twinChild twinFound (kinds ▸ null), each child twinChild same]

-- Of the forms of spec, only a reference looks at whether the tree itself is entered.
section

variable (beside : Beside entered marks node twin)
include beside

theorem beside_array (sort : node.value.kind = .array) :
    ∃ items twins, (data total).view node = .array node.number items ∧ (data other).view twin = .array twin.number twins ∧
      List.Forall₂ (Twins entered marks) items twins := by
  obtain ⟨same, before, twinBefore⟩ := beside
  rcases node with ⟨number, value, fits⟩
  rcases twin with ⟨position, _, twinFits⟩
  subst same
  cases value with
  | scalar content => exact absurd sort (Json.scalar_not_array content)
  | array items =>
      have after := fun id listed => Nat.lt_succ_of_le (before id listed)
      have twinAfter := fun id listed => Nat.lt_succ_of_le (twinBefore id listed)
      exact ⟨_, _, rfl, rfl, item_nodes_twins _ _ _ _ items _ _ after twinAfter⟩
  | object entries => exact Kind.noConfusion sort

theorem beside_object (sort : node.value.kind = .object) :
    ∃ entries twins, (data total).view node = .object node.number entries ∧
      (data other).view twin = .object twin.number twins ∧
      List.Forall₂ (fun entry twin => entry.1 = twin.1 ∧ Twins entered marks entry.2 twin.2) entries twins := by
  obtain ⟨same, before, twinBefore⟩ := beside
  rcases node with ⟨number, value, fits⟩
  rcases twin with ⟨position, _, twinFits⟩
  subst same
  cases value with
  | scalar content => exact absurd sort (Json.scalar_not_object content)
  | array items => exact Kind.noConfusion sort
  | object entries =>
      have after := fun id listed => Nat.lt_succ_of_le (before id listed)
      have twinAfter := fun id listed => Nat.lt_succ_of_le (twinBefore id listed)
      exact ⟨_, _, rfl, rfl, entry_nodes_twins _ _ _ _ entries _ _ after twinAfter⟩

theorem survey_primitive_beside (kind : PrimitiveKind) :
    survey table (data total) entered last (.primitive kind) node =
      survey table (data other) marks last (.primitive kind) twin := by
  rw [survey, survey, Survey.leaf_primitive, Survey.leaf_primitive, node_kind, node_kind, beside.same]

theorem survey_enum_beside (allowed : List Json) :
    survey table (data total) entered last (.enum allowed) node =
      survey table (data other) marks last (.enum allowed) twin := by
  rw [survey, survey, Survey.leaf_enum, Survey.leaf_enum, node_literal, node_literal, node_preview, node_preview,
    beside.same]

theorem survey_array_beside (item : Spec)
    (each : ∀ position child twinChild, Twins entered marks child twinChild →
      survey table (data total) entered (some (.index position)) item child =
        survey table (data other) marks (some (.index position)) item twinChild) :
    survey table (data total) entered last (.array item) node =
      survey table (data other) marks last (.array item) twin := by
  by_cases sort : node.value.kind = .array
  · obtain ⟨items, twins, seen, twinSeen, paired⟩ := beside_array entered marks node twin beside sort
    rw [survey_array _ _ _ _ _ item _ items seen, survey_array _ _ _ _ _ item _ twins twinSeen]
    apply congrArg Survey.all
    apply zip_idx_map_paired _ _ _ items twins paired
    intro position child twinChild same
    rw [each position child twinChild same]
  · have differs : (data total).kind node ≠ .array := node_kind node ▸ sort
    have twinDiffers : (data other).kind twin ≠ .array := node_kind twin ▸ beside.same ▸ sort
    rw [survey_array_mismatch _ _ _ _ _ item differs, survey_array_mismatch _ _ _ _ _ item twinDiffers, node_kind,
      node_kind, beside.same]

theorem survey_shape_beside (fields : List Field) (exact : Bool)
    (each : ∀ field ∈ fields, ∀ child twinChild, Twins entered marks child twinChild →
      survey table (data total) entered (some (.key field.name)) field.spec child =
        survey table (data other) marks (some (.key field.name)) field.spec twinChild) :
    survey table (data total) entered last (.shape fields exact) node =
      survey table (data other) marks last (.shape fields exact) twin := by
  by_cases sort : node.value.kind = .object
  · obtain ⟨entries, twins, seen, twinSeen, paired⟩ := beside_object entered marks node twin beside sort
    have keys : Entries.keys entries = Entries.keys twins :=
      map_paired _ Prod.fst Prod.fst entries twins paired fun _ _ same => same.1
    have found : fields.map (surveyField table (data total) entered entries) =
        fields.map (surveyField table (data other) marks twins) :=
      List.map_congr_left fun field listed =>
        survey_field_twins table entered marks entries twins paired field (each field listed)
    rw [survey_shape _ _ _ _ _ fields exact _ entries seen, survey_shape _ _ _ _ _ fields exact _ twins twinSeen, found,
      keys]
  · have differs : (data total).kind node ≠ .object := node_kind node ▸ sort
    have twinDiffers : (data other).kind twin ≠ .object := node_kind twin ▸ beside.same ▸ sort
    rw [survey_shape_mismatch _ _ _ _ _ fields exact differs, survey_shape_mismatch _ _ _ _ _ fields exact twinDiffers,
      node_kind, node_kind, beside.same]

theorem survey_map_beside (values : Spec)
    (each : ∀ key child twinChild, Twins entered marks child twinChild →
      survey table (data total) entered (some (.key key)) values child =
        survey table (data other) marks (some (.key key)) values twinChild) :
    survey table (data total) entered last (.map values) node =
      survey table (data other) marks last (.map values) twin := by
  by_cases sort : node.value.kind = .object
  · obtain ⟨entries, twins, seen, twinSeen, paired⟩ := beside_object entered marks node twin beside sort
    rw [survey_map _ _ _ _ _ values _ entries seen, survey_map _ _ _ _ _ values _ twins twinSeen]
    apply congrArg Survey.all
    apply map_paired _ _ _ entries twins paired
    intro entry twinEntry same
    rw [same.1, each twinEntry.1 entry.2 twinEntry.2 same.2]
  · have differs : (data total).kind node ≠ .object := node_kind node ▸ sort
    have twinDiffers : (data other).kind twin ≠ .object := node_kind twin ▸ beside.same ▸ sort
    rw [survey_map_mismatch _ _ _ _ _ values differs, survey_map_mismatch _ _ _ _ _ values twinDiffers, node_kind,
      node_kind, beside.same]

end

theorem survey_reference_twins (twins : Twins entered marks node twin) (name : String)
    (each : ∀ target, table.get? name = some target →
      ((data total).view node).identity? = some node.number → node.number ∉ entered →
      survey table (data total) (node.number :: entered) last target node =
        survey table (data other) (twin.number :: marks) last target twin) :
    survey table (data total) entered last (.reference name) node =
      survey table (data other) marks last (.reference name) twin := by
  cases found : table.get? name with
  | none => rw [survey_reference_unknown _ _ _ _ name _ found, survey_reference_unknown _ _ _ _ name _ found]
  | some target =>
      rcases (data total).unfolds_cases node node.value (node_unfolds _ _ _) with ⟨content, scalar, seen⟩ | ⟨container, _⟩
      · have twinSeen := node_scalar twin content (twins.same ▸ scalar)
        by_cases null : content = .null
        · subst null
          rw [survey_reference_null _ _ _ _ name target _ found seen,
            survey_reference_null _ _ _ _ name target _ found twinSeen]
        · rw [survey_reference_scalar _ _ _ _ name target _ content found seen null,
            survey_reference_scalar _ _ _ _ name target _ content found twinSeen null, node_preview, node_preview,
            twins.same]
      · have seen := node_identity node container
        have twinSeen := node_identity twin (twins.same ▸ container)
        by_cases known : node.number ∈ entered
        · rw [survey_reference_again _ _ _ _ name target _ _ found seen known,
            survey_reference_again _ _ _ _ name target _ _ found twinSeen (twins.marked.mp known)]
        · have twinFresh := fun listed => known (twins.marked.mpr listed)
          rw [survey_reference_fresh _ _ _ _ name target _ _ found seen known,
            survey_reference_fresh _ _ _ _ name target _ _ found twinSeen twinFresh, each target found seen known]

-- What is found in a tree does not depend on where it stands, nor on what is entered before it.
theorem survey_twins (twins : Twins entered marks node twin) (spec : Spec) :
    survey table (data total) entered last spec node = survey table (data other) marks last spec twin := by
  induction entered, last, spec, node using survey_induction table (data total) generalizing marks twin with
  | primitive entered last kind node =>
      exact survey_primitive_beside table entered marks last node twin twins.toBeside kind
  | enum entered last allowed node =>
      exact survey_enum_beside table entered marks last node twin twins.toBeside allowed
  | array entered last item node ih =>
      exact survey_array_beside table entered marks last node twin twins.toBeside item
        fun position child twinChild inner => ih position child marks twinChild inner
  | shape entered last fields exact node ih =>
      exact survey_shape_beside table entered marks last node twin twins.toBeside fields exact
        fun field listed child twinChild inner => ih field listed child marks twinChild inner
  | map entered last values node ih =>
      exact survey_map_beside table entered marks last node twin twins.toBeside values
        fun key child twinChild inner => ih key child marks twinChild inner
  | reference entered last name node ih =>
      refine survey_reference_twins table entered marks last node twin twins name ?_
      intro target found seen fresh
      have inside := twins_inside entered marks node twin twins
      exact ih target node.number found seen fresh (twin.number :: marks) twin inside

end

theorem own_identity_number (node : Node total) (id : Nat) (listed : id ∈ (data total).ownIdentity node) :
    id = node.number := by
  rw [Instance.ownIdentity, Option.mem_toList] at listed
  exact identity_number node id listed

def soleNode (name : String) (value : Json) : Node (Json.object [(name, value)]).size :=
  ⟨1, value, by rw [Json.size, Json.sizeEntries, Json.sizeEntries, Nat.add_zero]⟩

theorem sole_node_beside (name : String) (value : Json) :
    Beside ((data _).ownIdentity (root value)) ((data _).ownIdentity (root (.object [(name, value)]))) (root value)
      (soleNode name value) where
  same := rfl
  before id listed := Nat.le_of_eq (own_identity_number _ id listed)
  twinBefore id listed := own_identity_number _ id listed ▸ Nat.zero_le 1

end Tree

theorem Json.null_of_kind (value : Json) (null : value.kind = .null) : value = .null := by
  cases value with
  | scalar content =>
      cases content with
      | null => rfl
      | _ => contradiction
  | _ => contradiction

theorem survey_sole_property {ν : Type} (table : Table) (data : Instance ν) (entered : List Nat) (last : Option Segment)
    (field : Field) (value child : ν) (id : Nat) (seen : data.view value = .object id [(field.name, child)])
    (filled : data.kind child ≠ .null) :
    survey table data entered last (.shape [field] true) value =
      (survey table data entered (some (.key field.name)) field.spec child).below (.key field.name) := by
  have found : Entries.get? field.name [(field.name, child)] = some child := if_pos rfl
  have declared : Survey.undeclared [field] (Entries.keys [(field.name, child)]) = [] := by
    simp [Survey.undeclared, Entries.keys]
  rw [survey_shape _ _ _ _ _ [field] true id _ seen, if_pos rfl, Survey.leaf_undeclared, declared, List.map_singleton,
    survey_field_filled _ _ _ _ field child found filled]
  exact (Survey.nothing_after _).trans (Survey.nothing_after _)

namespace Table

-- A check of fields enters the value before it starts, and the check of the object around the value
-- enters that object. Neither is met again: the fields are looked up in the value at once, and all
-- references below it lead to later nodes.
theorem check_fields_property (table : Table) (name : String) (fields : List Field) (required : Bool) (value : Json)
    (filled : value ≠ .null) :
    table.checkFields (Tree.data value.size) name fields (Tree.root value) =
      table.check (Tree.data (Json.object [(name, value)]).size) (.shape [⟨name, .shape fields true, required⟩] true)
        (Tree.root (.object [(name, value)])) := by
  have beside := Tree.sole_node_beside name value
  have same := Tree.survey_shape_beside table _ _ (some (.key name)) (Tree.root value) (Tree.soleNode name value) beside
    fields true fun field _ child twin twins => Tree.survey_twins table _ _ _ child twin twins field.spec
  have present : (Tree.data _).kind (Tree.soleNode name value) ≠ .null := by
    rw [Tree.node_kind]
    exact fun null => filled (Json.null_of_kind value null)
  have sole := survey_sole_property table (Tree.data _) ((Tree.data _).ownIdentity (Tree.root (.object [(name, value)])))
    none ⟨name, .shape fields true, required⟩ (Tree.root _) (Tree.soleNode name value) 0 rfl present
  rw [check_fields_survey, check_survey, same]
  exact (congrArg Survey.violations sole).symm

def linkedChain : Table := (chain.insert "link" (.reference "node")).1

def chainEnds : List Field :=
  [⟨"first", .reference "link", true⟩, ⟨"last", .reference "node", true⟩, ⟨"owner", .reference "person", false⟩]

def looseEnds : Json := .object [("first", brokenChain), ("last", .object [("next", .object [("label", .null)])])]

def ownedEnds : Json := .object [("last", .object [("label", .string "end")]), ("owner", .object [])]

def looseViolations : List Violation :=
  [⟨[.key "chain", .key "last", .key "label"], ["node (referenced as \"last\")"],
      "required property `label` is missing", .missingRequired⟩,
    ⟨[.key "chain", .key "last", .key "next", .key "label"],
      ["node (referenced as \"last\")", "node (referenced as \"next\")"],
      "`label` is required, but its value is `null`", .missingRequired⟩]

theorem loose_ends_checked :
    linkedChain.checkFields (Tree.data looseEnds.size) "chain" chainEnds (Tree.root looseEnds) =
      .ok looseViolations := by cbv

theorem owned_ends_failed :
    linkedChain.checkFields (Tree.data ownedEnds.size) "chain" chainEnds (Tree.root ownedEnds) =
      .error ⟨"person", [.key "chain", .key "owner"]⟩ := by cbv

theorem ends_as_property :
    looseEnds ≠ .null ∧
      linkedChain.check (Tree.data (Json.object [("chain", looseEnds)]).size)
          (.shape [⟨"chain", .shape chainEnds true, true⟩] true) (Tree.root (.object [("chain", looseEnds)])) =
        .ok looseViolations ∧
      ownedEnds ≠ .null ∧
      linkedChain.check (Tree.data (Json.object [("chain", ownedEnds)]).size)
          (.shape [⟨"chain", .shape chainEnds true, false⟩] true) (Tree.root (.object [("chain", ownedEnds)])) =
        .error ⟨"person", [.key "chain", .key "owner"]⟩ := by
  have looseFilled : looseEnds ≠ .null := Json.noConfusion
  have ownedFilled : ownedEnds ≠ .null := Json.noConfusion
  have loose := check_fields_property linkedChain "chain" chainEnds true looseEnds looseFilled
  have owned := check_fields_property linkedChain "chain" chainEnds false ownedEnds ownedFilled
  exact ⟨looseFilled, loose.symm.trans loose_ends_checked, ownedFilled, owned.symm.trans owned_ends_failed⟩

end Table

end ShapeCheck
