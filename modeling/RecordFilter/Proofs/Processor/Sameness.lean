import RecordFilter.Processor.Pass
import RecordFilter.Proofs.Json.Zeros
import RecordFilter.Proofs.Rule.Equality
import RecordFilter.Proofs.Rule.RoundTrip
import RecordFilter.Record.Document

set_option autoImplicit false

/-!
# Equal rule sets

What a rule says is its field, its operator and its reference up to the signs of zeros
(`Rule.content`), and rules are equal exactly if they say the same. Equal rules have different
matchers if their references have zeros of different signs, but they accept the same records
(`Rule.accepts_of_equals`). So equal rule sets give the same answer for every record
(`RuleSet.evaluate_of_equals`) and, as they also have as many rules, the same outcome of every pass
(`Processor.page_of_equals`).
-/

namespace RecordFilter

/-! ## Rules -/

namespace Rule

/-- What a rule says. -/
def content (rule : Rule) : String × Operator × Json :=
  (rule.field, rule.operator, rule.reference.document.plainZeros)

theorem content_eq_iff {a b : Rule} :
    a.content = b.content ↔
      a.field = b.field ∧ a.operator = b.operator ∧
        a.reference.document.plainZeros = b.reference.document.plainZeros := by
  rw [content, content, Prod.mk.injEq, Prod.mk.injEq]

/-- Rules are equal exactly if they say the same. -/
theorem equals_iff {a b : Rule} : a.equals b = true ↔ a.content = b.content := by
  rw [equals, Bool.and_eq_true, Bool.and_eq_true, beq_iff_eq, beq_iff_eq, Json.equals_iff,
    content_eq_iff, and_assoc]

end Rule

/-! ## Rule sets -/

namespace RuleSet

/-- What the rules of a set say, group by group. -/
def contents (rules : RuleSet) : List (List (String × Operator × Json)) :=
  rules.groups.map fun group => group.map Rule.content

theorem sameRules_iff {as bs : List Rule} :
    sameRules as bs = true ↔ as.map Rule.content = bs.map Rule.content := by
  induction as generalizing bs with
  | nil => cases bs <;> simp [sameRules]
  | cons a as ih =>
    cases bs with
    | nil => simp [sameRules]
    | cons b bs =>
      rw [sameRules, Bool.and_eq_true, Rule.equals_iff, ih, List.map_cons, List.map_cons,
        List.cons.injEq]

theorem sameGroups_iff {as bs : List (List Rule)} :
    sameGroups as bs = true ↔
      as.map (List.map Rule.content) = bs.map (List.map Rule.content) := by
  induction as generalizing bs with
  | nil => cases bs <;> simp [sameGroups]
  | cons a as ih =>
    cases bs with
    | nil => simp [sameGroups]
    | cons b bs =>
      rw [sameGroups, Bool.and_eq_true, sameRules_iff, ih, List.map_cons, List.map_cons,
        List.cons.injEq]

/-- Rule sets are equal exactly if their rules say the same, in the same places. -/
theorem equals_iff {a b : RuleSet} : a.equals b = true ↔ a.contents = b.contents := sameGroups_iff

theorem ruleCount_eq (rules : RuleSet) : rules.ruleCount = rules.contents.flatten.length := by
  rw [contents, ← List.map_flatten, List.length_map, ruleCount]

theorem ruleCount_of_equals {a b : RuleSet} (same : a.equals b = true) :
    a.ruleCount = b.ruleCount := by
  rw [ruleCount_eq, ruleCount_eq, equals_iff.1 same]

section Answers

variable {α : Type} (accessor : Accessor α) (record : α)

/-- Groups that are the same rule by rule give the same answer, or the same error. -/
theorem anyM_of_sameRules {as bs : List Rule} (same : sameRules as bs = true) :
    as.anyM (Rule.accepts accessor record) = bs.anyM (Rule.accepts accessor record) := by
  -- Both groups are asked in step: what the first rules answer decides whether the others are
  -- asked.
  induction as generalizing bs with
  | nil =>
    cases bs with
    | nil => rfl
    | cons b bs => cases same
  | cons a as ih =>
    cases bs with
    | nil => cases same
    | cons b bs =>
      rw [sameRules, Bool.and_eq_true] at same
      rw [List.anyM, List.anyM, Rule.accepts_of_equals same.1, ih same.2]

theorem allM_of_sameGroups {as bs : List (List Rule)} (same : sameGroups as bs = true) :
    as.allM (fun group => group.anyM (Rule.accepts accessor record)) =
      bs.allM fun group => group.anyM (Rule.accepts accessor record) := by
  induction as generalizing bs with
  | nil =>
    cases bs with
    | nil => rfl
    | cons b bs => cases same
  | cons a as ih =>
    cases bs with
    | nil => cases same
    | cons b bs =>
      rw [sameGroups, Bool.and_eq_true] at same
      rw [List.allM, List.allM, anyM_of_sameRules accessor record same.1, ih same.2]

/-- Equal rule sets give the same answer for every record, or the same error. -/
theorem evaluate_of_equals {a b : RuleSet} (same : a.equals b = true) :
    a.evaluate accessor record = b.evaluate accessor record :=
  allM_of_sameGroups accessor record same

end Answers

end RuleSet

/-! ## Passes -/

namespace Processor

variable {α : Type} {a b : RuleSet} (processor : Processor) (accessor : Accessor α)

theorem checkRuleCount_of_equals (same : a.equals b = true) :
    processor.checkRuleCount a = processor.checkRuleCount b := by
  rw [checkRuleCount, checkRuleCount, RuleSet.ruleCount_of_equals same]

theorem accepts_of_equals (same : a.equals b = true) (record : α) :
    processor.accepts a accessor record = processor.accepts b accessor record := by
  rw [accepts, accepts, checkRuleCount_of_equals processor same,
    RuleSet.evaluate_of_equals accessor record same]

/-- A pass with an equal rule set leaves the same collection, has the same result and reports the
same events. -/
theorem page_of_equals (same : a.equals b = true) (items : Array α) (offset length : Nat) :
    processor.page a accessor items offset length =
      processor.page b accessor items offset length := by
  -- A pass uses the rules in two ways only, to count them and to ask them.
  have answers : a.evaluate accessor = b.evaluate accessor :=
    funext fun record => RuleSet.evaluate_of_equals accessor record same
  rw [page, page, checkRuleCount_of_equals processor same, answers]

end Processor

namespace RuleSet

/-- Rules are equal exactly if they have the same field, the same operator and the same reference up
to the signs of zeros at any depth. Their matchers need not be looked at, since every rule is the
one that is made of its parts. Equal rules match the same values and answer every record alike,
errors included. Equal rule sets are equal rule by rule; they answer every record alike, and a pass
over a collection cannot tell one from the other. -/
theorem interchangeable :
    (∀ a b : Rule, a.equals b = true ↔
      a.field = b.field ∧ a.operator = b.operator ∧
        a.reference.document.plainZeros = b.reference.document.plainZeros) ∧
    (∀ rule : Rule, Rule.make rule.field rule.operator rule.reference = .ok rule) ∧
    (∀ a b : Rule, a.equals b = true →
      (∀ value : Value, a.evaluate value = b.evaluate value) ∧
        ∀ {α : Type} (accessor : Accessor α) (record : α),
          a.accepts accessor record = b.accepts accessor record) ∧
    (∀ a b : RuleSet, a.equals b = true ↔ a.contents = b.contents) ∧
    ∀ a b : RuleSet, a.equals b = true →
      ∀ {α : Type} (accessor : Accessor α),
        (∀ record, a.evaluate accessor record = b.evaluate accessor record) ∧
        ∀ processor : Processor,
          (∀ record, processor.accepts a accessor record = processor.accepts b accessor record) ∧
          ∀ items : Array α,
            (∀ offset length, processor.page a accessor items offset length =
              processor.page b accessor items offset length) ∧
            processor.apply a accessor items = processor.apply b accessor items := by
  refine ⟨fun a b => Rule.equals_iff.trans Rule.content_eq_iff, Rule.make_self, ?rules,
    fun a b => equals_iff, ?sets⟩
  case rules =>
    intro a b same
    exact ⟨(Rule.evaluate_of_equals same).2, Rule.accepts_of_equals same⟩
  case sets =>
    intro a b same α accessor
    refine ⟨fun record => evaluate_of_equals accessor record same, fun processor => ?_⟩
    refine ⟨processor.accepts_of_equals accessor same, fun items => ?_⟩
    have pages := processor.page_of_equals accessor same items
    exact ⟨pages, pages 0 processor.options.maxResults⟩

/-! ## Zeros of both signs -/

theorem isFinite_zero (negative : Bool) : (Binary64.ofMagnitude negative 0).isFinite = true := by
  cases negative <;> decide

/-- A list of one account without money, whose zero has the given sign. -/
def settled (negative : Bool) : OrderedJson where
  document := .array
    [.object [("amount", .number (.real (.ofMagnitude negative 0) (isFinite_zero negative)))]]
  ordered := ⟨⟨List.pairwise_singleton _ _, trivial, trivial⟩, trivial⟩

/-- The rule that there is one account and no money, made with a zero of the given sign. -/
def settledRule (negative : Bool) : Rule :=
  ⟨"accounts", .eq, settled negative, .equal (.ofJson (settled negative)), rfl⟩

/-- The two rules have different matchers, but they are equal, and a pass keeps the same records. -/
theorem interchangeable_settled :
    (settledRule false).matcher ≠ (settledRule true).matcher ∧
      (settledRule false).equals (settledRule true) = true ∧
      (⟨[[settledRule false]]⟩ : RuleSet).equals ⟨[[settledRule true]]⟩ = true ∧
      Processor.standard.page ⟨[[settledRule false]]⟩ Record.lookup
          #[.object [("accounts", settled true)], .null] 0 1 =
        Processor.standard.page ⟨[[settledRule true]]⟩ Record.lookup
          #[.object [("accounts", settled true)], .null] 0 1 := by
  obtain ⟨rules, -, -, sets, passes⟩ := interchangeable
  have matchers : (settledRule false).matcher ≠ (settledRule true).matcher := by
    intro same
    have zeros : Binary64.ofMagnitude false 0 = .ofMagnitude true 0 := by
      simpa [settledRule, settled, Value.ofJson, Value.ofItems, Value.ofMembers,
        JsonNumber.toNumber] using same
    exact absurd zeros (by decide)
  have equal : (settledRule false).equals (settledRule true) = true :=
    (rules _ _).2 ⟨rfl, rfl, rfl⟩
  have equalSets : (⟨[[settledRule false]]⟩ : RuleSet).equals ⟨[[settledRule true]]⟩ = true :=
    (sets _ _).2 rfl
  obtain ⟨-, processors⟩ := passes _ _ equalSets Record.lookup
  obtain ⟨-, collections⟩ := processors .standard
  exact ⟨matchers, equal, equalSets, (collections _).1 0 1⟩

end RuleSet

end RecordFilter
