import RecordFilter.Proofs.Record.Walk
import RecordFilter.Proofs.Rule.Membership
import RecordFilter.Proofs.Rule.Ordering
import RecordFilter.Proofs.Rule.Texts
import RecordFilter.Proofs.Value.Equality

set_option autoImplicit false

/-!
# Rules made of a document's own values

A rule can take its reference from the document that it is asked about: the path leads to a part of
the document, which is as much in order as the document, and the rule compares the value of this
part with a reference made of the same part. The two are made in different ways, since an ordering
rounds its reference at once and the value keeps its kind, but they agree. So the document satisfies
the rules that hold of equal things, and neither the strict orderings nor the rule of difference
(`Rule.answers_own_value`).
-/

namespace RecordFilter

/-- What a path leads to in a document is in order if the document is. -/
theorem Json.Leads.ordered {doc found : Json} {keys : List String} (leads : doc.Leads keys found)
    (ordered : doc.Ordered) : found.Ordered := by
  induction leads with
  | here doc => exact ordered
  | @member members key keys child found held behind ih =>
    obtain ⟨increasing, inner⟩ := ordered
    have mem := (Entries.get?_eq_some_iff increasing).1 held
    exact ih (orderedMembers_iff.1 inner _ mem)

namespace Rule

variable {found : OrderedJson} {path : String}

/-! ## Equality with itself -/

/-- A document's value is equal to every reference that the document is equal to. -/
theorem looselyEquals_of_equals {found item : Json} (same : item.equals found = true) :
    (Value.ofJson found).looselyEquals (.ofJson item) = true := by
  rw [Value.looselyEquals_ofJson item same, Value.looselyEquals_self_iff]
  exact Value.comparable_ofJson found

theorem evaluate_equality_own {rule : Rule} (made : make path .eq found = .ok rule) :
    rule.evaluate (.ofJson found) = true := by
  rw [evaluate_of_equality made]
  exact looselyEquals_of_equals found.document.equals_self

theorem evaluate_difference_own {rule : Rule} (made : make path .ne found = .ok rule) :
    rule.evaluate (.ofJson found) = false := by
  rw [Bool.eq_false_iff, ne_eq, evaluate_of_difference made]
  rintro ⟨-, -, different⟩
  rw [looselyEquals_of_equals found.document.equals_self] at different
  cases different

/-- An array that has the document for an item has its value for a candidate. Null is no
candidate. -/
theorem evaluate_membership_own {rule : Rule} {items : List OrderedJson} {item : OrderedJson}
    (made : make path .isIn (.array items) = .ok rule) (mem : item ∈ items)
    (same : item.document.equals found = true) (nonNull : found.document ≠ .null) :
    rule.evaluate (.ofJson found) = true := by
  rw [evaluate_of_membership made]
  refine ⟨item, mem, ?_, looselyEquals_of_equals same⟩
  intro null
  rw [null] at same
  obtain ⟨found, ordered⟩ := found
  cases found with
  | null => exact nonNull rfl
  | _ => simp [Json.equals] at same

/-! ## Orderings with itself -/

/-- The value of a number has its place at the mark of the number. -/
theorem placed_own (n : JsonNumber) :
    (Value.ofJson (.number n)).Placed n.toBinary64.units fun m => m.toBinary64.units := by
  have number : ¬n.toNumber.IsNaN :=
    Value.comparable_number_iff.1 (Value.comparable_ofJson (.number n))
  have placed := Value.placed_number number
  rw [JsonNumber.toBinary64_toNumber] at placed
  exact placed

theorem evaluate_ordering_own_iff {relation : Relation} {n : JsonNumber} :
    (ordering relation path n).evaluate (.ofJson (.number n)) = true ↔
      relation.Relates n.toBinary64.units n.toBinary64.units :=
  evaluate_ordering_iff_of_placed (placed_own n)

/-! ## Answers of documents -/

/-- The document gives this answer to the rule that an operator and a reference make about the
path. -/
def Answers (doc : Json) (path : String) (operator : Operator) (reference : OrderedJson)
    (answer : Bool) : Prop :=
  ∃ rule, make path operator reference = .ok rule ∧ rule.accepts Record.lookup doc = .ok answer

/-- A document answers as the value does that the path leads to. -/
theorem answers_of_evaluate {doc found : Json} {rule : Rule} {operator : Operator}
    {reference : OrderedJson} {answer : Bool} (wellFormed : ¬Path.HasEmptySegment path)
    (reached : doc.Leads (Path.pieces path) found)
    (made : make path operator reference = .ok rule)
    (evaluated : rule.evaluate (.ofJson found) = answer) :
    Answers doc path operator reference answer := by
  refine ⟨rule, made, ?_⟩
  have field : rule.field = path := (make_eq_ok_iff.1 made).1
  have answered : Record.lookup doc path = .ok (some (.ofJson found)) :=
    Record.lookup_eq_ok_some_iff.2 ⟨wellFormed, found, reached, rfl⟩
  rw [accepts, field, answered, ← evaluated]
  rfl

/-- Where a path leads to something that is not null, rules about the path can be made of it. The
document satisfies those of equality and, for an array with an equal item, of membership, and it
does not satisfy that of difference. A text has all relations to itself. A number is at most and at
least as large as itself, and neither less nor greater. -/
theorem answers_own_value {doc : OrderedJson} {found : Json} {path : String}
    (wellFormed : ¬Path.HasEmptySegment path)
    (reached : doc.document.Leads (Path.pieces path) found) (nonNull : found ≠ .null) :
    let own : OrderedJson := ⟨found, reached.ordered doc.ordered⟩
    Answers doc path .eq own true ∧
      Answers doc path .ne own false ∧
      (∀ items : List OrderedJson, ∀ item ∈ items, item.document.equals found = true →
        Answers doc path .isIn (.array items) true) ∧
      (∀ s, found = .string s →
        Answers doc path .eqFold own true ∧ Answers doc path .startsWith own true ∧
          Answers doc path .endsWith own true ∧ Answers doc path .contains own true) ∧
      ∀ n, found = .number n →
        Answers doc path .lte own true ∧ Answers doc path .gte own true ∧
          Answers doc path .lt own false ∧ Answers doc path .gt own false := by
  intro own
  refine ⟨?equal, ?different, ?member, ?text, ?number⟩
  case equal =>
    obtain ⟨rule, made⟩ : ∃ rule, make path .eq own = .ok rule := exists_make_iff.2 nonNull
    exact answers_of_evaluate wellFormed reached made (evaluate_equality_own made)
  case different =>
    obtain ⟨rule, made⟩ : ∃ rule, make path .ne own = .ok rule := exists_make_iff.2 nonNull
    exact answers_of_evaluate wellFormed reached made (evaluate_difference_own made)
  case member =>
    intro items item mem same
    obtain ⟨rule, made⟩ : ∃ rule, make path .isIn (.array items) = .ok rule :=
      exists_make_iff.2 ⟨_, rfl⟩
    have accepted : rule.evaluate (.ofJson own) = true :=
      evaluate_membership_own made mem same nonNull
    exact answers_of_evaluate wellFormed reached made accepted
  case text =>
    rintro s rfl
    have related (relation : TextRelation) :
        Answers doc path relation.operator (.string s) true :=
      answers_of_evaluate wellFormed reached make_textual
        (evaluate_textual_iff.2 (relation.relates_self s))
    exact ⟨related .equalFold, related .startsWith, related .endsWith, related .contains⟩
  case number =>
    rintro n rfl
    have related (relation : Relation) (answer : Bool)
        (evaluated : (ordering relation path n).evaluate (.ofJson (.number n)) = answer) :
        Answers doc path relation.operator (.number n) answer :=
      answers_of_evaluate wellFormed reached make_ordering evaluated
    have strict (relation : Relation)
        (irreflexive : ¬relation.Relates n.toBinary64.units n.toBinary64.units) :
        Answers doc path relation.operator (.number n) false :=
      related relation false (Bool.eq_false_iff.2 (mt evaluate_ordering_own_iff.1 irreflexive))
    exact ⟨related .atMost true (evaluate_ordering_own_iff.2 (Int.le_refl _)),
      related .atLeast true (evaluate_ordering_own_iff.2 (Int.le_refl _)),
      strict .less (Int.lt_irrefl _), strict .greater (Int.lt_irrefl _)⟩

/-! ## An invoice -/

/-- The number of a payer, which no double has for its value. -/
def payerNumber : OrderedJson := .number (.integer ⟨9007199254740993, by decide⟩)

/-- Nothing left to pay, with a minus sign. -/
def balance : OrderedJson := .number (.real ⟨0x8000000000000000⟩ (by decide))

/-- A document with a name, a number and a balance. -/
def invoice : OrderedJson where
  document := .object [("balance", balance),
    ("payer", .object [("name", .string "Straßer"), ("number", payerNumber)])]
  ordered := by decide

/-- The name begins with itself. The number is at least as large as itself and not greater, though
it is rounded on both sides. The balance is found among a null and the other zero. -/
theorem answers_own_value_invoice :
    (∀ path ∈ ["payer.name", "payer.number", "balance"], ¬Path.HasEmptySegment path) ∧
      invoice.document.Leads (Path.pieces "payer.name") (.string "Straßer") ∧
      Answers invoice "payer.name" .startsWith (.string "Straßer") true ∧
      invoice.document.Leads (Path.pieces "payer.number") payerNumber ∧
      payerNumber.document ≠ .null ∧
      Answers invoice "payer.number" .gte payerNumber true ∧
      Answers invoice "payer.number" .gt payerNumber false ∧
      invoice.document.Leads (Path.pieces "balance") balance ∧ balance.document ≠ .null ∧
      Answers invoice "balance" .isIn (.array [.null, .number (.real .zero (by decide))]) true := by
  have wellFormed : ∀ path ∈ ["payer.name", "payer.number", "balance"],
      ¬Path.HasEmptySegment path := by
    simp only [Path.HasEmptySegment]
    decide
  have atName : invoice.document.Leads (Path.pieces "payer.name") (.string "Straßer") :=
    .member rfl (.member rfl (.here _))
  have atNumber : invoice.document.Leads (Path.pieces "payer.number") payerNumber :=
    .member rfl (.member rfl (.here _))
  have atBalance : invoice.document.Leads (Path.pieces "balance") balance := .member rfl (.here _)
  have name : Json.string "Straßer" ≠ .null := by rintro ⟨⟩
  have number : payerNumber.document ≠ .null := by rintro ⟨⟩
  have zero : balance.document ≠ .null := by rintro ⟨⟩
  obtain ⟨-, -, -, texts, -⟩ := answers_own_value (wellFormed _ (.head _)) atName name
  obtain ⟨-, -, -, -, numbers⟩ :=
    answers_own_value (wellFormed _ (.tail _ (.head _))) atNumber number
  obtain ⟨-, -, items, -, -⟩ :=
    answers_own_value (wellFormed _ (.tail _ (.tail _ (.head _)))) atBalance zero
  obtain ⟨-, atLeast, -, greater⟩ := numbers _ rfl
  refine ⟨wellFormed, atName, (texts _ rfl).2.1, atNumber, number, atLeast, greater, atBalance,
    zero, ?_⟩
  exact items _ _ (.tail _ (.head _)) (by decide +kernel)

end Rule

end RecordFilter
