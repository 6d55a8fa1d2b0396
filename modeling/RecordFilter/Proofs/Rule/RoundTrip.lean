import RecordFilter.Proofs.Json.Equality
import RecordFilter.Proofs.Json.RoundTrip
import RecordFilter.Rule.Printer
import RecordFilter.Rule.Reader

set_option autoImplicit false

/-!
# Written rule sets

A rule set is written as a document (`RuleSet.document`), so the reader finds the tree of that
document in its text, and decoding the tree gives the rules back, whose matchers are made again from
the same operators and references (`RuleSet.ofSource_tree`). What was read can be written and read
again as far as the nesting of its references is concerned (`reference_of_parse`).
The round trip is `RuleSet.parse_written`.
-/

namespace RecordFilter

open Outcome Json

/-! ## Rules -/

namespace Rule

/-- A rule as a document. -/
def document (rule : Rule) : Json :=
  .object [("field", .string rule.field), ("type", .string rule.operator.name),
    ("value", rule.reference)]

theorem render_document (rule : Rule) : rule.document.render = rule.render := by
  rw [document, Json.render, Rule.render]

/-- A rule is made from its own parts. -/
theorem make_self (rule : Rule) : make rule.field rule.operator rule.reference = .ok rule := by
  obtain ⟨field, operator, reference, matcher, compiled⟩ := rule
  unfold make
  split
  case h_1 found same =>
    rw [compiled] at same
    cases same
    rfl
  case h_2 error same =>
    rw [compiled] at same
    cases same

/-- The rule that is made is the one with these parts, if there is one. -/
theorem make_eq_ok_iff {field : String} {operator : Operator} {reference : OrderedJson}
    {rule : Rule} :
    make field operator reference = .ok rule ↔
      rule.field = field ∧ rule.operator = operator ∧ rule.reference = reference := by
  constructor
  · intro made
    unfold make at made
    split at made
    · cases made
      exact ⟨rfl, rfl, rfl⟩
    · cases made
  · rintro ⟨rfl, rfl, rfl⟩
    exact make_self rule

end Rule

theorem Operator.ofSource_name {ε : Type} (operator : Operator) :
    Operator.ofSource (.string (some operator.name)) =
      (.ok operator : Except (DecodeError ε) Operator) := by
  cases operator <;> rfl

namespace Rule

theorem ofSource_tree {rule : Rule} (shallow : rule.reference.document.depth ≤ referenceDepth)
    (readBack : NumbersReadBack rule.reference.document.numbers) :
    ofSource rule.document.tree = .ok rule := by
  have reference : rule.reference.document.tree.toOrdered referenceDepth = .ok rule.reference :=
    Source.toOrdered_eq_ok_iff.2 (toJson_tree _ _ shallow rule.reference.ordered readBack)
  -- The members come in the order in which they are written, each of them for the first time.
  have fields : Parts.add .none (.ok (some "field"), .string (some rule.field)) =
      .ok ⟨some rule.field, none, none⟩ := rfl
  have types : Parts.add ⟨some rule.field, none, none⟩
      (.ok (some "type"), .string (some rule.operator.name)) =
      .ok ⟨some rule.field, some rule.operator, none⟩ := by
    show (do return Parts.mk _ (some (← Operator.ofSource _)) _) = _
    rw [Operator.ofSource_name]
    rfl
  have values : Parts.add ⟨some rule.field, some rule.operator, none⟩
      (.ok (some "value"), rule.reference.document.tree) =
      .ok ⟨some rule.field, some rule.operator, some rule.reference⟩ := by
    show (do
      return Parts.mk _ _ (some (← Source.orBroken (rule.reference.document.tree.toOrdered _)))) = _
    rw [reference]
    rfl
  rw [document, tree, treeMembers, treeMembers, treeMembers, treeMembers, tree, tree, ofSource,
    List.foldlM_cons, fields]
  show (do let parts ← List.foldlM Parts.add _ _; _) = _
  rw [List.foldlM_cons, types]
  show (do let parts ← List.foldlM Parts.add _ _; _) = _
  rw [List.foldlM_cons, values]
  show ofParts rule.field rule.operator (some rule.reference) = _
  rw [ofParts, Option.getD_some, make_self]
  rfl

end Rule

/-! ## Rule sets -/

namespace RuleSet

/-- A rule set as a document. -/
def document (rules : RuleSet) : Json :=
  .array (rules.groups.map fun group => .array (group.map Rule.document))

theorem commaSeparated_render (first : Json) (docs : List Json) :
    commaSeparated ((first :: docs).map Json.render) = renderItems (first :: docs) := by
  induction docs generalizing first with
  | nil => rw [renderItems, renderMoreItems, List.append_nil]; rfl
  | cons second docs ih =>
    rw [renderItems, renderMoreItems, List.cons_append, ← renderItems, ← ih second]
    rfl

theorem renderItems_eq (docs : List Json) :
    renderItems docs = commaSeparated (docs.map Json.render) := by
  cases docs with
  | nil => rfl
  | cons first docs => exact (commaSeparated_render first docs).symm

theorem render_group (group : List Rule) :
    (Json.array (group.map Rule.document)).render = renderGroup group := by
  rw [Json.render, renderItems_eq, List.map_map, renderGroup]
  simp only [Function.comp_def, Rule.render_document]

theorem render_document (rules : RuleSet) : rules.document.render = rules.render := by
  rw [document, Json.render, renderItems_eq, List.map_map, render]
  simp only [Function.comp_def, render_group]

/-- The numbers of a written rule set are those of the references. -/
theorem mem_numbers_document {n : JsonNumber} {rules : RuleSet} :
    n ∈ rules.document.numbers ↔
      ∃ rule ∈ rules.groups.flatten, n ∈ rule.reference.document.numbers := by
  have rule_numbers (rule : Rule) : rule.document.numbers = rule.reference.document.numbers := by
    simp [Rule.document, numbers, numbersMembers]
  simp only [document, numbers, mem_numbersItems, List.mem_map, List.mem_flatten]
  constructor
  · rintro ⟨doc, ⟨group, group_mem, rfl⟩, mem⟩
    rw [numbers, mem_numbersItems] at mem
    obtain ⟨doc, doc_mem, mem⟩ := mem
    obtain ⟨rule, rule_mem, rfl⟩ := List.mem_map.1 doc_mem
    exact ⟨rule, ⟨group, group_mem, rule_mem⟩, rule_numbers rule ▸ mem⟩
  · rintro ⟨rule, ⟨group, group_mem, rule_mem⟩, mem⟩
    refine ⟨_, ⟨group, group_mem, rfl⟩, ?_⟩
    rw [numbers, mem_numbersItems]
    exact ⟨_, List.mem_map_of_mem rule_mem, (rule_numbers rule).symm ▸ mem⟩

/-- The tree of a written rule set is the rule set. -/
theorem ofSource_tree {rules : RuleSet}
    (shallow : ∀ rule ∈ rules.groups.flatten, rule.reference.document.depth ≤ referenceDepth)
    (readBack : ∀ rule ∈ rules.groups.flatten, NumbersReadBack rule.reference.document.numbers) :
    ofSource rules.document.tree = .ok rules := by
  have groups : Source.decodeArray (Source.decodeArray Rule.ofSource) rules.document.tree =
      .ok rules.groups := by
    refine decodeArray_tree fun group group_mem => decodeArray_tree fun rule rule_mem => ?_
    have mem : rule ∈ rules.groups.flatten := List.mem_flatten.2 ⟨group, group_mem, rule_mem⟩
    exact Rule.ofSource_tree (shallow rule mem) (readBack rule mem)
  rw [ofSource, groups]
  rfl

/-- The text of a rule set is read as the rule set, if its references can be read back. -/
theorem parse_of_readBack {rules : RuleSet}
    (shallow : ∀ rule ∈ rules.groups.flatten, rule.reference.document.depth ≤ referenceDepth)
    (readBack : ∀ rule ∈ rules.groups.flatten, NumbersReadBack rule.reference.document.numbers) :
    parse rules.text = .ok rules := by
  have numbers_readBack : NumbersReadBack rules.document.numbers := by
    intro n mem
    obtain ⟨rule, rule_mem, mem⟩ := mem_numbers_document.1 mem
    exact readBack rule rule_mem n mem
  have found := ofText_render numbers_readBack
  rw [render_document] at found
  have decoded := ofSource_tree shallow readBack
  exact Source.decodeAll_eq_ok_iff.2 ⟨rules.document.tree, [], found, decoded, rfl⟩

end RuleSet

/-! ## Rules that were read -/

namespace Rule

/-- A reference among the parts of a rule is not nested too deep. -/
def Parts.Sound (parts : Parts) : Prop :=
  ∀ doc, parts.reference = some doc → doc.document.depth ≤ referenceDepth

theorem Parts.add_sound {before after : Parts} {member : MemberName × Source}
    (sound : before.Sound) (added : before.add member = .ok after) : after.Sound := by
  -- Only the member `value` changes the reference, and only once.
  rw [Parts.add, bind_eq_ok_iff] at added
  obtain ⟨name, -, added⟩ := added
  dsimp only at added
  split at added
  · split at added
    · cases added
    · obtain ⟨field, -, added⟩ := bind_eq_ok_iff.1 added
      cases added
      exact sound
  split at added
  · split at added
    · cases added
    · obtain ⟨operator, -, added⟩ := bind_eq_ok_iff.1 added
      cases added
      exact sound
  split at added
  · split at added
    · cases added
    · obtain ⟨reference, found, added⟩ := bind_eq_ok_iff.1 added
      cases added
      rintro doc ⟨⟩
      exact Source.depth_le_of_toOrdered (mapError_eq_ok_iff.1 found)
  · obtain ⟨-, -, added⟩ := bind_eq_ok_iff.1 added
    cases added
    exact sound

theorem sound_ofParts {field : String} {operator : Operator} {reference : Option OrderedJson}
    {rule : Rule} (sound : Parts.Sound ⟨some field, some operator, reference⟩)
    (found : ofParts field operator reference = .ok rule) :
    rule.reference.document.depth ≤ referenceDepth := by
  rw [ofParts, mapError_eq_ok_iff] at found
  rw [(make_eq_ok_iff.1 found).2.2]
  cases reference with
  | none => exact Nat.zero_le _
  | some doc => exact sound doc rfl

theorem sound_toRule {parts : Parts} {rule : Rule} (sound : parts.Sound)
    (found : parts.toRule = .ok rule) :
    rule.reference.document.depth ≤ referenceDepth := by
  obtain ⟨field, operator, reference⟩ := parts
  cases field with
  | none => cases found
  | some field =>
    cases operator with
    | none => cases found
    | some operator => exact sound_ofParts sound found

theorem tooShort_ne_ok {length : Nat} {stop : Option Fault} {rule : Rule} :
    tooShort length stop ≠ .ok rule := by
  intro found
  obtain ⟨-, -, found⟩ := bind_eq_ok_iff.1 found
  cases found

/-- The reference of a rule that was read is not nested too deep. -/
theorem sound_ofSource {tree : Source} {rule : Rule} (found : ofSource tree = .ok rule) :
    rule.reference.document.depth ≤ referenceDepth := by
  unfold ofSource at found
  split at found
  case h_1 members stop =>
    obtain ⟨parts, added, found⟩ := bind_eq_ok_iff.1 found
    obtain ⟨-, -, found⟩ := bind_eq_ok_iff.1 found
    exact sound_toRule (foldlM_eq_ok Parts.Sound Parts.add_sound (by rintro doc ⟨⟩) added) found
  case h_2 stop => exact absurd found tooShort_ne_ok
  case h_3 field items stop =>
    obtain ⟨field, -, found⟩ := bind_eq_ok_iff.1 found
    -- An array may end before its reference, which is null then.
    cases items with
    | nil => exact absurd found tooShort_ne_ok
    | cons operator items =>
      obtain ⟨operator, -, found⟩ := bind_eq_ok_iff.1 found
      cases items with
      | nil =>
        obtain ⟨-, -, found⟩ := bind_eq_ok_iff.1 found
        exact sound_ofParts (by rintro doc ⟨⟩) found
      | cons reference others =>
        obtain ⟨doc, read, found⟩ := bind_eq_ok_iff.1 found
        dsimp only at found
        split at found
        · cases found
        · obtain ⟨-, -, found⟩ := bind_eq_ok_iff.1 found
          refine sound_ofParts ?_ found
          rintro doc ⟨⟩
          exact Source.depth_le_of_toOrdered (mapError_eq_ok_iff.1 read)
  case h_4 other _ _ _ => exact absurd found Source.unexpected_ne_ok

end Rule

namespace RuleSet

/-- The references of a rule set that was read are not nested too deep. -/
theorem reference_of_parse {text : String} {rules : RuleSet} (parsed : parse text = .ok rules) :
    ∀ rule ∈ rules.groups.flatten, rule.reference.document.depth ≤ referenceDepth := by
  intro rule mem
  obtain ⟨tree, -, -, decoded, -⟩ := Source.decodeAll_eq_ok_iff.1 parsed
  obtain ⟨groups, array, rfl⟩ := map_eq_ok_iff.1 decoded
  obtain ⟨group, group_mem, rule_mem⟩ := List.mem_flatten.1 mem
  obtain ⟨items, inner⟩ := Source.mem_of_decodeArray array group_mem
  obtain ⟨item, found⟩ := Source.mem_of_decodeArray inner rule_mem
  exact Rule.sound_ofSource found

@[simp]
theorem sameRules_self (rules : List Rule) : sameRules rules rules = true := by
  induction rules with
  | nil => rfl
  | cons rule rules ih => simp [sameRules, Rule.equals, ih]

@[simp]
theorem equals_self (rules : RuleSet) : rules.equals rules = true := by
  have same (groups : List (List Rule)) : sameGroups groups groups = true := by
    induction groups with
    | nil => rfl
    | cons group groups ih => simp [sameGroups, ih]
  exact same rules.groups

/-- The text of a rule set is read as the same rules in the same groups, each with the matcher it
had, if the references are nested no deeper than those of rules may be and have only doubles that
read back. The references of a rule set that was read are never nested deeper. -/
theorem parse_written (rules : RuleSet)
    (shallow : ∀ rule ∈ rules.groups.flatten, rule.reference.document.depth ≤ 124)
    (readBack : ∀ rule ∈ rules.groups.flatten, ∀ x finite,
      .real x finite ∈ rule.reference.document.numbers → (JsonNumber.real x finite).ReadsBack) :
    parse rules.text = .ok rules ∧ rules.equals rules = true ∧
      ∀ text parsed, parse text = .ok parsed → ∀ rule ∈ parsed.groups.flatten,
        rule.reference.document.depth ≤ 124 := by
  refine ⟨parse_of_readBack shallow ?_, rules.equals_self, ?_⟩
  · intro rule mem n n_mem
    cases n with
    | integer i => exact JsonNumber.readsBack_integer i
    | real x finite => exact readBack rule mem x finite n_mem
  · intro text parsed found
    exact reference_of_parse found

/-- One half. -/
def sampleNumber : JsonNumber := .real ⟨0x3FE0000000000000⟩ rfl

/-- An integer and an object inside an array. -/
def sampleArray : OrderedJson where
  document := .array [.number (.integer ⟨-7, by decide⟩),
    .object [("b", .string "\x01"), ("c", .array [.null])]]
  ordered := by decide

/-- A group of no rules, and rules whose fields hold quotes and more than letters, or nothing. -/
def sampleRules : RuleSet :=
  ⟨[[],
    [⟨"a \"name\"\n", .isNull, .null, .isNull, rfl⟩,
      ⟨"größe", .gt, .number sampleNumber, .order .greater ⟨0x3FE0000000000000⟩, rfl⟩],
    [⟨"", .isIn, sampleArray, _, rfl⟩]]⟩

theorem parse_written_sample :
    parse sampleRules.text = .ok sampleRules ∧ sampleRules.equals sampleRules = true := by
  have references : ∀ rule ∈ sampleRules.groups.flatten, rule.reference = .null ∨
      rule.reference = .number sampleNumber ∨ rule.reference = sampleArray := by
    simp [sampleRules]
  have shallow : ∀ rule ∈ sampleRules.groups.flatten, rule.reference.document.depth ≤ 124 := by
    intro rule mem
    rcases references rule mem with same | same | same
    all_goals
      rw [same]
      decide +kernel
  have readBack : ∀ rule ∈ sampleRules.groups.flatten, ∀ x finite,
      .real x finite ∈ rule.reference.document.numbers →
        (JsonNumber.real x finite).ReadsBack := by
    intro rule mem x finite real
    rcases references rule mem with same | same | same
    · rw [same] at real
      cases real
    · rw [same] at real
      rw [List.mem_singleton.1 real]
      decide +kernel
    · rw [same] at real
      cases List.mem_singleton.1 real
  obtain ⟨parsed, same, -⟩ := parse_written sampleRules shallow readBack
  exact ⟨parsed, same⟩

end RuleSet

end RecordFilter
