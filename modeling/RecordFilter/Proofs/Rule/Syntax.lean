import Mathlib.Data.List.Forall2
import Mathlib.Data.List.Induction
import RecordFilter.Proofs.Json.Limits
import RecordFilter.Proofs.Rule.Evaluation
import RecordFilter.Proofs.Rule.RoundTrip

set_option autoImplicit false

/-!
# The syntax of rule sets

What a text has to say to be a rule set, and which rule set it is then (`RuleSet.States`), for texts
that are JSON within the limits on nesting and on numbers. A rule is an object or an array; of the
members of an object only `field`, `type` and `value` count, wherever they stand
(`Rule.Parts.Collects`). The step lemma is about one more member at the end of those that were read
(`Rule.Parts.collects_append_iff`), so the induction over the members runs from the right.

The main result is `RuleSet.parse_eq_ok_iff_states`: the reader accepts exactly such texts, and
texts whose rules have the same members that count, in whatever order, are the same rule set.
-/

namespace RecordFilter

open Outcome

variable {α β ε : Type}

/-! ## Lists of values -/

theorem Outcome.mapM_eq_ok_iff {step : α → Except ε β} {inputs : List α} {results : List β} :
    inputs.mapM step = .ok results ↔
      List.Forall₂ (fun input result => step input = .ok result) inputs results := by
  induction inputs generalizing results with
  | nil =>
    rw [List.forall₂_nil_left_iff]
    exact pure_eq_ok_iff.trans eq_comm
  | cons input inputs ih =>
    simp only [List.mapM_cons, bind_eq_ok_iff, pure_eq_ok_iff, ih, List.forall₂_cons_left_iff]
    constructor
    · rintro ⟨result, found, others, rest, rfl⟩
      exact ⟨result, others, found, rest, rfl⟩
    · rintro ⟨result, others, found, rest, rfl⟩
      exact ⟨result, found, others, rest, rfl⟩

namespace Source

/-- A tree is an array whose items stand for the values, one for one. -/
inductive ListOf (StandsFor : Source → α → Prop) : Source → List α → Prop where
  | array {items : List Source} {values : List α} : List.Forall₂ StandsFor items values →
      ListOf StandsFor (.array items none) values

/-- A tree is an array of such items. -/
inductive ArrayOf (Fits : Source → Prop) : Source → Prop where
  | array {items : List Source} : (∀ item ∈ items, Fits item) → ArrayOf Fits (.array items none)

/-- Two trees are arrays of related items, one for one. -/
inductive Itemwise (Related : Source → Source → Prop) : Source → Source → Prop where
  | arrays {items others : List Source} : List.Forall₂ Related items others →
      Itemwise Related (.array items none) (.array others none)

variable {StandsFor StandsFor' : Source → α → Prop} {tree other : Source} {values : List α}

theorem decodeArray_eq_ok_iff {decode : Source → Except (DecodeError ε) α} :
    tree.decodeArray decode = .ok values ↔
      ListOf (fun item value => decode item = .ok value) tree values := by
  unfold decodeArray
  split
  case h_1 items stop =>
    simp only [bind_eq_ok_iff, pure_eq_ok_iff, orBroken, mapError_eq_ok_iff, readStop_eq_ok_iff,
      mapM_eq_ok_iff]
    constructor
    · rintro ⟨decoded, each, -, rfl, rfl⟩
      exact .array each
    · rintro ⟨each⟩
      exact ⟨values, each, (), rfl, rfl⟩
  case h_2 no_array =>
    constructor
    · exact fun done => absurd done unexpected_ne_ok
    · rintro ⟨-⟩
      exact absurd rfl (no_array _ _)

/-- What the items of a readable array stand for is only asked of readable items. -/
theorem listOf_iff_of_readable (depth : Nat) (readable : tree.Readable (depth + 1))
    (same : ∀ item, item.Readable depth → ∀ value, StandsFor item value ↔ StandsFor' item value) :
    ListOf StandsFor tree values ↔ ListOf StandsFor' tree values := by
  have transport {P Q : Source → α → Prop}
      (implies : ∀ item, item.Readable depth → ∀ value, P item value → Q item value) :
      ListOf P tree values → ListOf Q tree values := by
    rintro ⟨each⟩
    obtain ⟨-, inner, deep, items_readable⟩ := readable_array_iff.1 readable
    cases deep
    exact .array (((List.forall₂_and_left _ _).2 ⟨items_readable, each⟩).imp
      fun item value both => implies item both.1 value both.2)
  exact ⟨transport fun item fine value => (same item fine value).1,
    transport fun item fine value => (same item fine value).2⟩

theorem exists_listOf_iff :
    (∃ values, ListOf StandsFor tree values) ↔
      ArrayOf (fun item => ∃ value, StandsFor item value) tree := by
  constructor
  · rintro ⟨values, ⟨each⟩⟩
    refine .array ?_
    induction each with
    | nil => exact List.forall_mem_nil _
    | cons first _ ih => exact List.forall_mem_cons.2 ⟨⟨_, first⟩, ih⟩
  · rintro @⟨items, each⟩
    suffices ∃ values, List.Forall₂ StandsFor items values by
      obtain ⟨values, stands⟩ := this
      exact ⟨values, .array stands⟩
    induction items with
    | nil => exact ⟨[], .nil⟩
    | cons item items ih =>
      obtain ⟨⟨value, first⟩, others⟩ := List.forall_mem_cons.1 each
      obtain ⟨values, stands⟩ := ih others
      exact ⟨value :: values, .cons first stands⟩

theorem ArrayOf.congr {Fits Fits' : Source → Prop} (same : ∀ item, Fits item ↔ Fits' item) :
    ArrayOf Fits tree ↔ ArrayOf Fits' tree := by
  rw [funext fun item => propext (same item)]

theorem ListOf.of_itemwise {Related : Source → Source → Prop}
    (keeps : ∀ item other, Related item other → ∀ value, StandsFor item value →
      StandsFor other value)
    (itemwise : Itemwise Related tree other) (stands : ListOf StandsFor tree values) :
    ListOf StandsFor other values := by
  obtain ⟨related⟩ := itemwise
  obtain ⟨each⟩ := stands
  refine .array ?_
  induction related generalizing values with
  | nil => exact each
  | cons first _ ih =>
    cases each with
    | cons stands each => exact .cons (keeps _ _ first _ stands) (ih each)

theorem Itemwise.symm {Related : Source → Source → Prop}
    (symmetric : ∀ {item other}, Related item other → Related other item)
    (itemwise : Itemwise Related tree other) : Itemwise Related other tree := by
  obtain ⟨related⟩ := itemwise
  exact .arrays (related.flip.imp fun _ _ => symmetric)

/-! ## Members -/

/-- The value of a member, if it has the given name. -/
def valueOf? (name : String) (member : MemberName × Source) : Option Source :=
  match member.1 with
  | .ok (some key) => if key = name then some member.2 else none
  | _ => none

/-- The values of the members with the given name, in the order of the text. -/
def valuesOf (name : String) (members : List (MemberName × Source)) : List Source :=
  members.filterMap (valueOf? name)

/-- There is no value, and nothing is found; or there is one, and what it stands for is found. -/
inductive AtMostOne (StandsFor : Source → α → Prop) : List Source → Option α → Prop where
  | absent : AtMostOne StandsFor [] none
  | present {value : Source} {found : α} : StandsFor value found →
      AtMostOne StandsFor [value] (some found)

theorem atMostOne_append_iff {before : List Source} {value : Source} {found : Option α} :
    AtMostOne StandsFor (before ++ [value]) found ↔
      AtMostOne StandsFor before none ∧ ∃ one, StandsFor value one ∧ found = some one := by
  constructor
  · intro one
    generalize all : before ++ [value] = values at one
    cases one with
    | absent => simp at all
    | present stands =>
      cases before with
      | nil =>
        cases all
        exact ⟨.absent, _, stands, rfl⟩
      | cons first before => simp at all
  · rintro ⟨⟨⟩, one, stands, rfl⟩
    exact .present stands

theorem AtMostOne.perm {values others : List Source} {found : Option α} (perm : values.Perm others)
    (one : AtMostOne StandsFor values found) : AtMostOne StandsFor others found := by
  cases one with
  | absent =>
    rw [List.nil_perm.1 perm]
    exact .absent
  | present stands =>
    rw [← List.singleton_perm.1 perm]
    exact .present stands

/-- One more member with the name has to be the first. -/
theorem atMostOne_valuesOf_named {name : String} {members : List (MemberName × Source)}
    {value : Source} {found : Option α} :
    AtMostOne StandsFor (valuesOf name (members ++ [(.ok (some name), value)])) found ↔
      AtMostOne StandsFor (valuesOf name members) none ∧
        ∃ one, StandsFor value one ∧ found = some one := by
  have values : valuesOf name (members ++ [(.ok (some name), value)]) =
      valuesOf name members ++ [value] := by
    simp [valuesOf, valueOf?]
  rw [values, atMostOne_append_iff]

theorem atMostOne_valuesOf_other {name key : String} (other : key ≠ name)
    {members : List (MemberName × Source)} {value : Source} {found : Option α} :
    AtMostOne StandsFor (valuesOf name (members ++ [(.ok (some key), value)])) found ↔
      AtMostOne StandsFor (valuesOf name members) found := by
  have values : valuesOf name (members ++ [(.ok (some key), value)]) = valuesOf name members := by
    simp [valuesOf, valueOf?, other]
  rw [values]

theorem decodeText_eq_ok_iff {expected : String} {s : String} :
    (tree.decodeText expected : Except (DecodeError ε) String) = .ok s ↔
      tree = .string (some s) := by
  unfold decodeText
  split
  case h_1 content =>
    rw [orBroken, mapError_eq_ok_iff, textOf_eq_ok_iff, Source.string.injEq]
  case h_2 no_string =>
    constructor
    · exact fun done => absurd done unexpected_ne_ok
    · exact fun string => absurd string (no_string _)

end Source

/-! ## Operators -/

namespace Operator

/-- The trees that name an operator: its name, and the object that maps its name to null. -/
inductive NamedBy (operator : Operator) : Source → Prop where
  | name : NamedBy operator (.string (some operator.name))
  | object : NamedBy operator (.object [(.ok (some operator.name), .null)] none)

theorem named_eq_ok_iff {name : String} {operator : Operator} :
    (named name : Except (DecodeError ε) Operator) = .ok operator ↔ name = operator.name := by
  constructor
  · intro found
    unfold named at found
    split at found
    case h_1 same listed =>
      cases found
      rw [ofName?] at listed
      have same := List.find?_some listed
      exact (beq_iff_eq.1 same).symm
    case h_2 => cases found
  · rintro rfl
    cases operator <;> rfl

theorem ofSource_eq_ok_iff {tree : Source} {operator : Operator} :
    (ofSource tree : Except (DecodeError ε) Operator) = .ok operator ↔ operator.NamedBy tree := by
  constructor
  · intro found
    unfold ofSource at found
    split at found
    case h_1 content =>
      obtain ⟨name, text, listed⟩ := bind_eq_ok_iff.1 found
      obtain rfl := Source.textOf_eq_ok_iff.1 (mapError_eq_ok_iff.1 text)
      obtain rfl := named_eq_ok_iff.1 listed
      exact .name
    case h_2 key value others stop =>
      obtain ⟨name, text, listed⟩ := bind_eq_ok_iff.1 found
      obtain ⟨same, listed, rest⟩ := bind_eq_ok_iff.1 listed
      obtain rfl := Source.nameOf_eq_ok_iff.1 (mapError_eq_ok_iff.1 text)
      obtain rfl := named_eq_ok_iff.1 listed
      dsimp only at rest
      split at rest
      case h_1 =>
        split at rest
        case isTrue => cases rest
        case isFalse no_others =>
          obtain ⟨done, closed, same⟩ := bind_eq_ok_iff.1 rest
          obtain rfl := Source.readStop_eq_ok_iff.1 (mapError_eq_ok_iff.1 closed)
          obtain rfl := pure_eq_ok_iff.1 same
          obtain rfl : others = [] := by simpa using no_others
          exact .object
      case h_2 =>
        obtain ⟨done, refused, -⟩ := bind_eq_ok_iff.1 rest
        exact absurd refused Source.unexpected_ne_ok
    all_goals cases found
  · rintro (_ | _)
    · exact ofSource_name operator
    · cases operator <;> rfl

end Operator

/-! ## Rules -/

namespace Rule

open Source

/-- The parts of a rule are what the members of an object say, none of them twice. -/
structure Parts.Collects (parts : Parts) (members : List (MemberName × Source)) : Prop where
  field : AtMostOne (fun value name => value = .string (some name)) (valuesOf "field" members)
    parts.field
  operator : AtMostOne (fun value operator => operator.NamedBy value) (valuesOf "type" members)
    parts.operator
  reference : AtMostOne Denotes (valuesOf "value" members) parts.reference

/-- The trees that say that a field is compared with a reference by an operator. The reference is
null where it is absent. -/
inductive States (field : String) (operator : Operator) (reference : OrderedJson) :
    Source → Prop where
  | object {members : List (MemberName × Source)} {given : Option OrderedJson} :
      Parts.Collects ⟨some field, some operator, given⟩ members → given.getD .null = reference →
      States field operator reference (.object members none)
  | array {kind : Source} {values : List Source} {given : Option OrderedJson} :
    operator.NamedBy kind →
      AtMostOne Denotes values given → given.getD .null = reference →
      States field operator reference (.array (.string (some field) :: kind :: values) none)

/-! ### Members of a rule -/

theorem Parts.add_field_iff {before after : Parts} {value : Source} :
    before.add (.ok (some "field"), value) = .ok after ↔
      before.field = .none ∧ ∃ name, value = .string (some name) ∧
        { before with field := some name } = after := by
  obtain ⟨field, operator, reference⟩ := before
  cases field with
  | some field =>
    constructor
    · rintro ⟨⟩
    · rintro ⟨⟨⟩, -⟩
  | none =>
    show (do return Parts.mk (some (← value.decodeText "a string")) _ _) = _ ↔ _
    simp only [bind_eq_ok_iff, pure_eq_ok_iff, decodeText_eq_ok_iff, true_and]

theorem Parts.add_type_iff {before after : Parts} {value : Source} :
    before.add (.ok (some "type"), value) = .ok after ↔
      before.operator = .none ∧ ∃ named : Operator, named.NamedBy value ∧
        { before with operator := some named } = after := by
  obtain ⟨field, operator, reference⟩ := before
  cases operator with
  | some operator =>
    constructor
    · rintro ⟨⟩
    · rintro ⟨⟨⟩, -⟩
  | none =>
    show (do return Parts.mk _ (some (← Operator.ofSource value)) _) = _ ↔ _
    simp only [bind_eq_ok_iff, pure_eq_ok_iff, Operator.ofSource_eq_ok_iff, true_and]

theorem Parts.add_value_iff {before after : Parts} {value : Source}
    (readable : value.Readable referenceDepth) :
    before.add (.ok (some "value"), value) = .ok after ↔
      before.reference = .none ∧ ∃ doc, value.Denotes doc ∧
        { before with reference := some doc } = after := by
  obtain ⟨field, operator, reference⟩ := before
  cases reference with
  | some reference =>
    constructor
    · rintro ⟨⟩
    · rintro ⟨⟨⟩, -⟩
  | none =>
    show (do return Parts.mk _ _ (some (← orBroken (value.toOrdered referenceDepth)))) = _ ↔ _
    simp only [bind_eq_ok_iff, pure_eq_ok_iff, orBroken, mapError_eq_ok_iff,
      denotes_iff_of_readable readable, true_and]

theorem Parts.add_other_iff {before after : Parts} {key : String} {value : Source}
    (readable : value.Readable referenceDepth) (no_field : key ≠ "field") (no_type : key ≠ "type")
    (no_value : key ≠ "value") :
    before.add (.ok (some key), value) = .ok after ↔ before = after := by
  show (if key = "field" then _ else if key = "type" then _ else if key = "value" then _ else _) = _
    ↔ _
  rw [if_neg no_field, if_neg no_type, if_neg no_value, skip_of_readable value readable]
  exact pure_eq_ok_iff

/-- The parts that collect one more member are those that collected the others, with what this one
says. -/
theorem Parts.collects_append_iff {after : Parts} {members : List (MemberName × Source)}
    {key : String} {value : Source} (readable : value.Readable referenceDepth) :
    after.Collects (members ++ [(.ok (some key), value)]) ↔
      ∃ before : Parts,
        before.Collects members ∧ before.add (.ok (some key), value) = .ok after := by
  -- A member that counts must be the first of its name, and leaves the other two parts as they are.
  by_cases is_field : key = "field"
  · subst is_field
    simp only [add_field_iff]
    constructor
    · rintro ⟨field, operator, reference⟩
      obtain ⟨missing, name, string, found⟩ := atMostOne_valuesOf_named.1 field
      refine ⟨{ after with field := .none }, ⟨missing, ?_, ?_⟩, rfl, name, string, by rw [← found]⟩
      · exact (atMostOne_valuesOf_other (by decide)).1 operator
      · exact (atMostOne_valuesOf_other (by decide)).1 reference
    · rintro ⟨before, ⟨field, operator, reference⟩, missing, name, string, rfl⟩
      rw [missing] at field
      refine ⟨atMostOne_valuesOf_named.2 ⟨field, name, string, rfl⟩, ?_, ?_⟩
      · exact (atMostOne_valuesOf_other (by decide)).2 operator
      · exact (atMostOne_valuesOf_other (by decide)).2 reference
  by_cases is_type : key = "type"
  · subst is_type
    simp only [add_type_iff]
    constructor
    · rintro ⟨field, operator, reference⟩
      obtain ⟨missing, named, names, found⟩ := atMostOne_valuesOf_named.1 operator
      refine ⟨{ after with operator := .none }, ⟨?_, missing, ?_⟩, rfl, named, names,
        by rw [← found]⟩
      · exact (atMostOne_valuesOf_other (by decide)).1 field
      · exact (atMostOne_valuesOf_other (by decide)).1 reference
    · rintro ⟨before, ⟨field, operator, reference⟩, missing, named, names, rfl⟩
      rw [missing] at operator
      refine ⟨?_, atMostOne_valuesOf_named.2 ⟨operator, named, names, rfl⟩, ?_⟩
      · exact (atMostOne_valuesOf_other (by decide)).2 field
      · exact (atMostOne_valuesOf_other (by decide)).2 reference
  by_cases is_value : key = "value"
  · subst is_value
    simp only [add_value_iff readable]
    constructor
    · rintro ⟨field, operator, reference⟩
      obtain ⟨missing, doc, denotes, found⟩ := atMostOne_valuesOf_named.1 reference
      refine ⟨{ after with reference := .none }, ⟨?_, ?_, missing⟩, rfl, doc, denotes,
        by rw [← found]⟩
      · exact (atMostOne_valuesOf_other (by decide)).1 field
      · exact (atMostOne_valuesOf_other (by decide)).1 operator
    · rintro ⟨before, ⟨field, operator, reference⟩, missing, doc, denotes, rfl⟩
      rw [missing] at reference
      refine ⟨?_, ?_, atMostOne_valuesOf_named.2 ⟨reference, doc, denotes, rfl⟩⟩
      · exact (atMostOne_valuesOf_other (by decide)).2 field
      · exact (atMostOne_valuesOf_other (by decide)).2 operator
  · simp only [add_other_iff readable is_field is_type is_value, exists_eq_right]
    constructor
    · rintro ⟨field, operator, reference⟩
      exact ⟨(atMostOne_valuesOf_other is_field).1 field,
        (atMostOne_valuesOf_other is_type).1 operator,
        (atMostOne_valuesOf_other is_value).1 reference⟩
    · rintro ⟨field, operator, reference⟩
      exact ⟨(atMostOne_valuesOf_other is_field).2 field,
        (atMostOne_valuesOf_other is_type).2 operator,
        (atMostOne_valuesOf_other is_value).2 reference⟩

/-- The members of a readable object are added up to the parts that they say. -/
theorem Parts.foldlM_add_eq_ok_iff {members : List (MemberName × Source)}
    (each : ∀ member ∈ members,
      (∃ key, member.1 = .ok (some key)) ∧ member.2.Readable referenceDepth) {parts : Parts} :
    members.foldlM Parts.add .none = .ok parts ↔ parts.Collects members := by
  induction members using List.reverseRecOn generalizing parts with
  | nil =>
    rw [List.foldlM_nil, pure_eq_ok_iff]
    constructor
    · rintro rfl
      exact ⟨.absent, .absent, .absent⟩
    · obtain ⟨field, operator, reference⟩ := parts
      rintro ⟨⟨⟩, ⟨⟩, ⟨⟩⟩
      rfl
  | append_singleton members member ih =>
    obtain ⟨name, value⟩ := member
    obtain ⟨others, last⟩ := List.forall_mem_append.1 each
    obtain ⟨⟨key, rfl⟩, readable⟩ := List.forall_mem_singleton.1 last
    rw [List.foldlM_append, collects_append_iff readable, bind_eq_ok_iff]
    simp only [List.foldlM_cons, List.foldlM_nil, bind_pure, ih others]

theorem Parts.toRule_eq_ok_iff {parts : Parts} {rule : Rule} :
    parts.toRule = .ok rule ↔ parts.field = some rule.field ∧
      parts.operator = some rule.operator ∧ parts.reference.getD .null = rule.reference := by
  obtain ⟨field, operator, reference⟩ := parts
  cases field with
  | none =>
    constructor
    · rintro ⟨⟩
    · rintro ⟨⟨⟩, -⟩
  | some field =>
    cases operator with
    | none =>
      constructor
      · rintro ⟨⟩
      · rintro ⟨-, ⟨⟩, -⟩
    | some operator =>
      show ofParts field operator reference = _ ↔ _
      rw [ofParts, mapError_eq_ok_iff, make_eq_ok_iff, Option.some.injEq, Option.some.injEq,
        eq_comm, @eq_comm _ rule.operator, @eq_comm _ rule.reference]

/-! ### Rules and what says them -/

theorem ofSource_object_eq_ok_iff {members : List (MemberName × Source)}
    (each : ∀ member ∈ members,
      (∃ key, member.1 = .ok (some key)) ∧ member.2.Readable referenceDepth) {rule : Rule} :
    ofSource (.object members none) = .ok rule ↔
      States rule.field rule.operator rule.reference (.object members none) := by
  simp only [ofSource, bind_eq_ok_iff, Parts.foldlM_add_eq_ok_iff each, Parts.toRule_eq_ok_iff]
  constructor
  · rintro ⟨⟨field, operator, given⟩, collects, -, -, rfl, rfl, same⟩
    exact .object collects same
  · rintro ⟨collects, same⟩
    exact ⟨_, collects, (), rfl, rfl, rfl, same⟩

theorem ofSource_array_eq_ok_iff {items : List Source}
    (each : ∀ item ∈ items, item.Readable referenceDepth) {rule : Rule} :
    ofSource (.array items none) = .ok rule ↔
      States rule.field rule.operator rule.reference (.array items none) := by
  constructor
  · intro found
    -- The array is taken apart item by item, as far as the reader goes.
    cases items with
    | nil => exact absurd found tooShort_ne_ok
    | cons field items =>
      rw [ofSource] at found
      obtain ⟨name, string, behind_field⟩ := bind_eq_ok_iff.1 found
      obtain rfl := decodeText_eq_ok_iff.1 string
      cases items with
      | nil => exact absurd behind_field tooShort_ne_ok
      | cons kind items =>
        obtain ⟨operator, names, behind_type⟩ := bind_eq_ok_iff.1 behind_field
        have named := Operator.ofSource_eq_ok_iff.1 names
        cases items with
        | nil =>
          obtain ⟨rfl, rfl, same⟩ := make_eq_ok_iff.1 (mapError_eq_ok_iff.1 behind_type)
          exact .array named .absent same.symm
        | cons reference others =>
          obtain ⟨doc, read, behind_value⟩ := bind_eq_ok_iff.1 behind_type
          have denotes : reference.Denotes doc :=
            ⟨_, mapError_eq_ok_iff.1 read⟩
          dsimp only at behind_value
          split at behind_value
          case isTrue => cases behind_value
          case isFalse no_others =>
            obtain ⟨rfl, rfl, same⟩ := make_eq_ok_iff.1 (mapError_eq_ok_iff.1 behind_value)
            obtain rfl : others = [] := by simpa using no_others
            exact .array named (.present denotes) same.symm
  · intro stated
    cases stated with | @array kind values given named one same
    have made : ofParts rule.field rule.operator given = .ok rule :=
      mapError_eq_ok_iff.2 (make_eq_ok_iff.2 ⟨rfl, rfl, same.symm⟩)
    have names : Operator.ofSource kind = (.ok rule.operator : Except RulesError Operator) :=
      Operator.ofSource_eq_ok_iff.2 named
    cases one with
    | absent =>
      show (do let operator ← Operator.ofSource kind; ofParts rule.field operator .none) = _
      rw [names]
      exact made
    | @present value doc denotes =>
      have readable : value.Readable referenceDepth := each value (by simp)
      have read := (denotes_iff_of_readable readable).1 denotes
      show (do
        let operator ← Operator.ofSource kind
        let reference ← orBroken (value.toOrdered referenceDepth)
        ofParts rule.field operator (some reference)) = _
      rw [names, read]
      exact made

/-- A readable tree is a rule if it says what the rule says. -/
theorem ofSource_eq_ok_iff {tree : Source} (readable : tree.Readable (referenceDepth + 1))
    {rule : Rule} :
    ofSource tree = .ok rule ↔ States rule.field rule.operator rule.reference tree := by
  cases tree with
  | object members stop =>
    obtain ⟨rfl, inner, deep, each⟩ := readable_object_iff.1 readable
    cases deep
    exact ofSource_object_eq_ok_iff each
  | array items stop =>
    obtain ⟨rfl, inner, deep, each⟩ := readable_array_iff.1 readable
    cases deep
    exact ofSource_array_eq_ok_iff each
  | null | bool | number | string | broken =>
    constructor
    · exact fun found => absurd found unexpected_ne_ok
    · rintro ⟨⟩

/-! ### The same members -/

/-- Whether a member counts. -/
def isPart (member : MemberName × Source) : Bool :=
  match member.1 with
  | .ok (some key) => key = "field" || key = "type" || key = "value"
  | _ => false

/-- Two trees are the same, or objects whose members that count are the same, in whatever order and
among whatever others. -/
inductive Alike : Source → Source → Prop where
  | same {tree : Source} : Alike tree tree
  | objects {members others : List (MemberName × Source)} :
      (members.filter isPart).Perm (others.filter isPart) →
      Alike (.object members none) (.object others none)

theorem Alike.symm {tree other : Source} (alike : Alike tree other) : Alike other tree := by
  cases alike with
  | same => exact .same
  | objects perm => exact .objects perm.symm

theorem valuesOf_filter {name : String} (part : name = "field" ∨ name = "type" ∨ name = "value")
    (members : List (MemberName × Source)) :
    valuesOf name (members.filter isPart) = valuesOf name members := by
  have counts (member : MemberName × Source) (value : Source)
      (has_value : valueOf? name member = some value) : isPart member = true := by
    obtain ⟨_ | _ | key, tree⟩ := member
    · cases has_value
    · cases has_value
    · have same : key = name := by
        by_contra other
        simp [valueOf?, other] at has_value
      rw [same]
      rcases part with rfl | rfl | rfl <;> rfl
  -- Leaving out members that do not count leaves out no member that has a value here.
  rw [valuesOf, List.filterMap_filter]
  congr 1
  funext member
  cases has_value : valueOf? name member with
  | none => rw [ite_self]
  | some value => rw [if_pos (counts member value has_value)]

theorem Parts.Collects.of_perm {parts : Parts} {members others : List (MemberName × Source)}
    (perm : (members.filter isPart).Perm (others.filter isPart))
    (collects : parts.Collects members) :
    parts.Collects others := by
  have same {name : String} (part : name = "field" ∨ name = "type" ∨ name = "value") :
      (valuesOf name members).Perm (valuesOf name others) := by
    rw [← valuesOf_filter part members, ← valuesOf_filter part others]
    exact perm.filterMap _
  exact ⟨collects.field.perm (same (.inl rfl)), collects.operator.perm (same (.inr (.inl rfl))),
    collects.reference.perm (same (.inr (.inr rfl)))⟩

theorem States.of_alike {field : String} {operator : Operator} {reference : OrderedJson}
    {tree other : Source} (alike : Alike tree other)
    (stated : States field operator reference tree) :
    States field operator reference other := by
  cases alike with
  | same => exact stated
  | objects perm =>
    obtain ⟨collects, same⟩ := stated
    exact .object (collects.of_perm perm) same

end Rule

/-! ## Rule sets -/

namespace RuleSet

open Source

/-- A tree says which rules a set has: it is an array of arrays of rules, in the order of the
set. -/
def States (rules : RuleSet) (tree : Source) : Prop :=
  ListOf (ListOf fun item (rule : Rule) =>
    Rule.States rule.field rule.operator rule.reference item) tree
    rules.groups

/-- A tree is a rule: it says one, and the operator takes the reference. -/
def IsRule (tree : Source) : Prop :=
  ∃ field operator reference, Rule.States field operator reference tree ∧
    ∃ rule, Rule.make field operator reference = .ok rule

theorem isRule_iff {tree : Source} :
    IsRule tree ↔ ∃ rule : Rule, Rule.States rule.field rule.operator rule.reference tree := by
  simp only [IsRule, Rule.make_eq_ok_iff]
  constructor
  · rintro ⟨_, _, _, stated, rule, rfl, rfl, rfl⟩
    exact ⟨rule, stated⟩
  · rintro ⟨rule, stated⟩
    exact ⟨_, _, _, stated, rule, rfl, rfl, rfl⟩

theorem ofSource_eq_ok_iff {tree : Source} (readable : tree.Readable nestingLimit)
    {rules : RuleSet} : ofSource tree = .ok rules ↔ rules.States tree := by
  have groups : ListOf (fun item group => item.decodeArray Rule.ofSource = .ok group) tree
      rules.groups ↔ rules.States tree := by
    -- Three brackets stand around a reference: those of the set, the group and the rule.
    refine listOf_iff_of_readable (referenceDepth + 2) readable fun item fine group => ?_
    rw [decodeArray_eq_ok_iff]
    exact listOf_iff_of_readable _ fine fun item fine rule => Rule.ofSource_eq_ok_iff fine
  rw [← groups, ← decodeArray_eq_ok_iff, ofSource, map_eq_ok_iff]
  constructor
  · rintro ⟨groups, decoded, rfl⟩
    exact decoded
  · exact fun decoded => ⟨rules.groups, decoded, rfl⟩

theorem exists_states_iff {tree : Source} :
    (∃ rules : RuleSet, rules.States tree) ↔ ArrayOf (ArrayOf IsRule) tree := by
  have sets : (∃ rules : RuleSet, rules.States tree) ↔ ∃ groups, ListOf (ListOf
      fun item (rule : Rule) =>
        Rule.States rule.field rule.operator rule.reference item) tree groups :=
    ⟨fun ⟨rules, stated⟩ => ⟨rules.groups, stated⟩, fun ⟨groups, stated⟩ => ⟨⟨groups⟩, stated⟩⟩
  rw [sets, exists_listOf_iff]
  refine ArrayOf.congr fun item => ?_
  rw [exists_listOf_iff]
  exact ArrayOf.congr fun item => isRule_iff.symm

theorem parse_eq_ok_iff_of_document {text : String} {tree : Source}
    (document : Grammar.Document tree text.toList) (shallow : tree.depth ≤ 127)
    (finite : Source.Finite tree.literals) {rules : RuleSet} :
    parse text = .ok rules ↔ rules.States tree := by
  have readable : tree.Readable nestingLimit :=
    (readable_iff_of_document document).2 ⟨shallow, finite⟩
  obtain ⟨blanks, found, blank⟩ := Grammar.ofText_document document
  rw [← ofSource_eq_ok_iff readable, parse, decodeAll_eq_ok_iff]
  constructor
  · rintro ⟨tree', blanks', same, decoded, -⟩
    rw [found] at same
    cases same
    exact decoded
  · exact fun decoded => ⟨tree, blanks, found, decoded, blank⟩

theorem States.of_alike {rules : RuleSet} {tree other : Source}
    (alike : Itemwise (Itemwise Rule.Alike) tree other) (stated : rules.States tree) :
    rules.States other :=
  ListOf.of_itemwise (fun _ _ groups _ listed => ListOf.of_itemwise
    (fun _ _ rules _ stated => stated.of_alike rules) groups listed) alike stated

/-- A text that is JSON with its surrogate escapes in pairs, nested at most 127 deep and with no
number too large for a double, is a rule set exactly if it is an array of arrays of rules. It is the
rules that it says, in groups, in the order of the text; and a text whose rules differ only in the
order of their members, and in members that do not count, is the same rule set. -/
theorem parse_eq_ok_iff_states {text : String} {tree : Source}
    (document : Grammar.Document tree text.toList) (shallow : tree.depth ≤ 127)
    (finite : Source.Finite tree.literals) :
    ((∃ rules, parse text = .ok rules) ↔ ArrayOf (ArrayOf IsRule) tree) ∧
      (∀ rules, parse text = .ok rules ↔ rules.States tree) ∧
      ∀ {other : String} {otherTree : Source}, Grammar.Document otherTree other.toList →
        otherTree.depth ≤ 127 → Source.Finite otherTree.literals →
        Itemwise (Itemwise Rule.Alike) tree otherTree →
        ∀ rules, parse text = .ok rules ↔ parse other = .ok rules := by
  refine ⟨?_, ?_, ?_⟩
  · simp only [parse_eq_ok_iff_of_document document shallow finite]
    exact exists_states_iff
  · exact fun rules => parse_eq_ok_iff_of_document document shallow finite
  · intro other otherTree other_document other_shallow other_finite alike rules
    rw [parse_eq_ok_iff_of_document document shallow finite,
      parse_eq_ok_iff_of_document other_document other_shallow other_finite]
    have alike_back := alike.symm (Itemwise.symm Rule.Alike.symm)
    exact ⟨States.of_alike alike, States.of_alike alike_back⟩

/-- An object with members in no order and one that does not count, an array without a reference,
and a group of no rules. -/
def scrambled : Json :=
  .array [
    .array [
      .object [("x", .array [.number (.integer ⟨1, by decide⟩)]), ("type", .object [("in", .null)]),
        ("value", .array [.string "b"]), ("field", .string "a")],
      .array [.string "b..c", .string "isNotNull"]],
    .array []]

/-- The same with the members in order and without the one that does not count. -/
def unscrambled : Json :=
  .array [
    .array [
      .object [("field", .string "a"), ("type", .object [("in", .null)]),
        ("value", .array [.string "b"])],
      .array [.string "b..c", .string "isNotNull"]],
    .array []]

/-- The rules that both say. -/
def scrambledRules : RuleSet :=
  ⟨[[⟨"a", .isIn, .array [.string "b"], _, Matcher.compile_eq_ok_iff.2 (.memberOf _)⟩,
      presence "b..c"], []]⟩

theorem parse_eq_ok_iff_states_scrambled :
    parse scrambled.text = .ok scrambledRules ∧ parse unscrambled.text = .ok scrambledRules := by
  have readBack : Json.NumbersReadBack scrambled.numbers := by
    intro n mem
    rw [List.mem_singleton.1 mem]
    exact JsonNumber.readsBack_integer _
  have readBack_other : Json.NumbersReadBack unscrambled.numbers := List.forall_mem_nil _
  have readable : scrambled.tree.Readable 127 := by decide +kernel
  have readable_other : unscrambled.tree.Readable 127 := by decide +kernel
  have document := Json.document_text readBack readable
  have document_other := Json.document_text readBack_other readable_other
  obtain ⟨shallow, finite⟩ := (readable_iff_of_document document).1 readable
  obtain ⟨shallow_other, finite_other⟩ := (readable_iff_of_document document_other).1 readable_other
  have states : scrambledRules.States scrambled.tree := by
    refine .array (.cons (.array (.cons ?_ (.cons ?_ .nil))) (.cons (.array .nil) .nil))
    · exact .object ⟨.present rfl, .present .object, .present ⟨1, rfl⟩⟩ rfl
    · exact .array .name .absent rfl
  have alike : Itemwise (Itemwise Rule.Alike) scrambled.tree unscrambled.tree := by
    refine .arrays (.cons (.arrays (.cons ?_ (.cons .same .nil))) (.cons (.arrays .nil) .nil))
    -- The first member, and of the others the last in front.
    exact .objects (.trans (.cons _ (.swap _ _ [])) (.swap _ _ _))
  obtain ⟨-, stated, same⟩ := parse_eq_ok_iff_states document shallow finite
  have parsed := (stated scrambledRules).2 states
  exact ⟨parsed, (same document_other shallow_other finite_other alike scrambledRules).1 parsed⟩

end RuleSet

end RecordFilter
