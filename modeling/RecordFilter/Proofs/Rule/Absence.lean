import RecordFilter.Proofs.Rule.Compilation

set_option autoImplicit false

/-!
# Absent and incomparable fields

Null is what a field without content answers, and `unsupported` what a field answers that no
operator can compare. The null test alone accepts null, and the test for what is not null alone
accepts what cannot be compared (`Matcher.Made.evaluate_null_iff`,
`Matcher.Made.evaluate_unsupported_iff`). The references do not matter, not even those that hold
null themselves.

Rule sets are asked about records whose fields all answer alike (`AnswersOnly`). What such a rule
set answers is the formula of its groups over the answers of its rules
(`RuleSet.eq_of_answersOnly`), so it asks every group for one rule that accepts the answer
(`RuleSet.evaluate_absent`).
-/

namespace RecordFilter

open Outcome

/-! ## Matchers -/

namespace Matcher

variable {operator : Operator} {reference : Json} {matcher : Matcher}

theorem looselyEquals_unsupported (value : Value) :
    Value.unsupported.looselyEquals value = false := by
  cases value <;> rfl

namespace Made

/-- Null satisfies the null test and nothing else. -/
theorem evaluate_null_iff (made : Made operator reference matcher) :
    matcher.evaluate .null = true ↔ operator = .isNull := by
  cases made with
  | order relation n =>
    -- Null is no number and has no length, so there is nothing to compare.
    have incomparable : compareTo n.toBinary64 .null = none := rfl
    rw [evaluate, incomparable]
    cases relation <;> simp [Relation.holds, Relation.operator]
  | text relation s => cases relation <;> simp [evaluate, Value.text?, TextRelation.operator]
  | _ => simp [evaluate, Value.isNull, Value.text?]

/-- What cannot be compared satisfies the test for what is not null and nothing else. -/
theorem evaluate_unsupported_iff (made : Made operator reference matcher) :
    matcher.evaluate .unsupported = true ↔ operator = .isNotNull := by
  cases made with
  | order relation n =>
    have incomparable : compareTo n.toBinary64 .unsupported = none := rfl
    rw [evaluate, incomparable]
    cases relation <;> simp [Relation.holds, Relation.operator]
  | text relation s => cases relation <;> simp [evaluate, Value.text?, TextRelation.operator]
  | _ => simp [evaluate, Value.isNull, Value.text?, looselyEquals_unsupported]

end Made

end Matcher

/-! ## Rules -/

namespace Rule

theorem evaluate_null_iff (rule : Rule) :
    rule.evaluate .null = true ↔ rule.operator = .isNull :=
  (Matcher.made_of_compile rule.compiled).evaluate_null_iff

theorem evaluate_unsupported_iff (rule : Rule) :
    rule.evaluate .unsupported = true ↔ rule.operator = .isNotNull :=
  (Matcher.made_of_compile rule.compiled).evaluate_unsupported_iff

end Rule

/-! ## Rule sets -/

variable {α : Type}

/-- Fields of a record that can be read all answer alike; others may fail. -/
def AnswersOnly (accessor : Accessor α) (record : α) (answer : Option Value) : Prop :=
  ∀ field found, accessor record field = .ok found → found = answer

theorem Rule.accepts_of_answersOnly {accessor : Accessor α} {record : α} {answer : Option Value}
    (only : AnswersOnly accessor record answer) {rule : Rule} {holds : Bool}
    (asked : rule.accepts accessor record = .ok holds) : answer.any rule.evaluate = holds := by
  obtain ⟨found, answered, rfl⟩ := map_eq_ok_iff.1 asked
  rw [only rule.field found answered]

namespace RuleSet

variable {rules : RuleSet} {accessor : Accessor α} {record : α} {answer : Option Value}

/-- The formula that the groups make of the answers of their rules. -/
def formula (rules : RuleSet) (holds : Rule → Bool) : Bool :=
  rules.groups.all fun group => group.any holds

theorem formula_eq_true_iff {holds : Rule → Bool} :
    rules.formula holds = true ↔ ∀ group ∈ rules.groups, ∃ rule ∈ group, holds rule = true := by
  simp only [formula, List.all_eq_true, List.any_eq_true]

/-- What a rule set answers if it does not fail. Rules that were not asked do not matter: a rule
that accepts decides its group, and a group without one decides the rule set. -/
theorem eq_of_answersOnly (only : AnswersOnly accessor record answer) {holds : Bool}
    (evaluated : rules.evaluate accessor record = .ok holds) :
    holds = rules.formula fun rule => answer.any rule.evaluate := by
  symm
  cases holds with
  | true =>
    apply formula_eq_true_iff.2
    intro group mem
    have accepted := allM_eq_ok_true_iff.1 evaluated group mem
    obtain ⟨before, rule, after, rfl, -, yes⟩ := anyM_eq_ok_true_iff.1 accepted
    exact ⟨rule, List.mem_append_cons_self, Rule.accepts_of_answersOnly only yes⟩
  | false =>
    obtain ⟨before, group, after, parts, -, refused⟩ := allM_eq_ok_false_iff.1 evaluated
    have no := anyM_eq_ok_false_iff.1 refused
    apply Bool.eq_false_iff.2
    intro accepted
    obtain ⟨rule, mem, yes⟩ := formula_eq_true_iff.1 accepted group
      (by rw [parts]; exact List.mem_append_cons_self)
    rw [Rule.accepts_of_answersOnly only (no rule mem)] at yes
    cases yes

/-- A rule set does not fail if no field does. -/
theorem evaluate_of_answered (answered : ∀ field, accessor record field = .ok answer) :
    rules.evaluate accessor record = .ok (rules.formula fun rule => answer.any rule.evaluate) := by
  have accepts : Rule.accepts accessor record = fun rule => pure (answer.any rule.evaluate) := by
    funext rule
    rw [Rule.accepts, answered]
    rfl
  rw [evaluate, accepts]
  simp only [List.anyM_pure, List.allM_pure]
  rfl

/-- A record whose fields all answer alike satisfies a rule set exactly under a condition: whenever
the rule set answers, and it does if all fields answer. -/
structure Settled (rules : RuleSet) (accessor : Accessor α) (record : α) (answer : Option Value)
    (condition : Prop) : Prop where
  holds_iff : AnswersOnly accessor record answer →
    ∀ holds, rules.evaluate accessor record = .ok holds → (holds = true ↔ condition)
  answers : (∀ field, accessor record field = .ok answer) →
    ∃ holds, rules.evaluate accessor record = .ok holds

theorem settled_of_formula {condition : Prop}
    (decides : rules.formula (fun rule => answer.any rule.evaluate) = true ↔ condition) :
    rules.Settled accessor record answer condition := by
  constructor
  case holds_iff =>
    intro only holds evaluated
    rw [eq_of_answersOnly only evaluated]
    exact decides
  case answers => exact fun answered => ⟨_, evaluate_of_answered answered⟩

/-- Where the rules of one operator accept an answer and no others, every group needs one of
them. -/
theorem settled_of_operator {value : Value} {operator : Operator}
    (only : ∀ rule : Rule, rule.evaluate value = true ↔ rule.operator = operator) :
    rules.Settled accessor record (some value)
      (∀ group ∈ rules.groups, ∃ rule ∈ group, rule.operator = operator) := by
  apply settled_of_formula
  simp only [formula_eq_true_iff, Option.any_some, only]

/-- No rule accepts a record without the field, so every group is one too many. -/
theorem settled_of_missing : rules.Settled accessor record none (rules.groups = []) := by
  apply settled_of_formula
  simp [formula_eq_true_iff, List.eq_nil_iff_forall_not_mem]

/-- An operator makes a matcher of every reference that it takes. The matcher accepts null exactly
for the null test, and what cannot be compared exactly for the test for what is not null. A record
with nothing but null satisfies the rule sets with a null test in every group, one with nothing but
incomparable fields those with a test for what is not null in every group, and one without fields
the rule set without groups. -/
theorem evaluate_absent :
    (∀ operator reference,
      (∃ matcher, Matcher.compile operator reference = .ok matcher) ↔ operator.Takes reference) ∧
    (∀ operator reference matcher, Matcher.compile operator reference = .ok matcher →
      (matcher.evaluate .null = true ↔ operator = .isNull) ∧
        (matcher.evaluate .unsupported = true ↔ operator = .isNotNull)) ∧
    ∀ (α : Type) (rules : RuleSet) (accessor : Accessor α) (record : α),
      rules.Settled accessor record (some .null)
        (∀ group ∈ rules.groups, ∃ rule ∈ group, rule.operator = .isNull) ∧
      rules.Settled accessor record (some .unsupported)
        (∀ group ∈ rules.groups, ∃ rule ∈ group, rule.operator = .isNotNull) ∧
      rules.Settled accessor record none (rules.groups = []) := by
  refine ⟨?taken, ?matchers, ?ruleSets⟩
  case taken =>
    intro operator reference
    simp only [Matcher.compile_eq_ok_iff]
    exact Matcher.exists_made_iff
  case matchers =>
    intro operator reference matcher compiled
    have made := Matcher.made_of_compile compiled
    exact ⟨made.evaluate_null_iff, made.evaluate_unsupported_iff⟩
  case ruleSets =>
    intro α rules accessor record
    refine ⟨?_, ?_, settled_of_missing⟩
    · exact settled_of_operator Rule.evaluate_null_iff
    · exact settled_of_operator Rule.evaluate_unsupported_iff

/-! ## References that hold null -/

/-- The rule that a field is null, written with an array of candidates. -/
def nullCandidate : Rule :=
  ⟨"team", .isIn, .array [.null], .memberOf [.null],
    Matcher.compile_eq_ok_iff.2 (.memberOf [.null])⟩

/-- The rule that a field is null. -/
def absence (field : String) : Rule :=
  ⟨field, .isNull, .null, .isNull, Matcher.compile_eq_ok_iff.2 (.isNull .null)⟩

/-- A record with nothing but null. -/
def vacant : Accessor Unit := fun _ _ => .ok (some .null)

theorem answersOnly_vacant : AnswersOnly vacant () (some .null) := by
  rintro field found ⟨⟩
  rfl

/-- A null among the candidates is not met, beside a null test it does not matter. -/
theorem evaluate_absent_nullCandidate :
    (∃ holds, evaluate ⟨[[nullCandidate]]⟩ vacant () = .ok holds ∧ holds = false) ∧
      ∃ holds,
        evaluate ⟨[[nullCandidate, absence "name"]]⟩ vacant () = .ok holds ∧ holds = true := by
  have alone := (evaluate_absent.2.2 Unit ⟨[[nullCandidate]]⟩ vacant ()).1
  have beside := (evaluate_absent.2.2 Unit ⟨[[nullCandidate, absence "name"]]⟩ vacant ()).1
  constructor
  · obtain ⟨holds, evaluated⟩ := alone.answers fun _ => rfl
    refine ⟨holds, evaluated, Bool.eq_false_iff.2 ?_⟩
    rw [ne_eq, alone.holds_iff answersOnly_vacant holds evaluated]
    simp [nullCandidate]
  · obtain ⟨holds, evaluated⟩ := beside.answers fun _ => rfl
    refine ⟨holds, evaluated, ?_⟩
    apply (beside.holds_iff answersOnly_vacant holds evaluated).2
    simp [absence]

end RuleSet

end RecordFilter
