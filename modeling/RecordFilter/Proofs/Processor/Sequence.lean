import RecordFilter.Proofs.Processor.Page
import RecordFilter.Proofs.Rule.Evaluation

set_option autoImplicit false

/-!
# Passes one after the other

A pass whose page has room for the whole collection leaves every record that matches. A second pass
over what it left does what one pass does with the groups of both rule sets, and fails where that
one fails (`page_page`): in both forms the second rule set is asked about the records that satisfy
the first, and about no others.
-/

namespace RecordFilter

open Outcome

variable {α : Type}

/-! ## Records under the groups of two rule sets -/

theorem window_zero {length : Nat} {records : List α} (room : records.length ≤ length) :
    window 0 length records = records := by
  rw [window, List.drop_zero, List.take_of_length_le room]

theorem selects_append (first second : RuleSet) (accessor : Accessor α) (record : α) :
    selects (RuleSet.evaluate ⟨first.groups ++ second.groups⟩ accessor) record =
      (selects (second.evaluate accessor) record && selects (first.evaluate accessor) record) := by
  rw [selects, RuleSet.evaluate_append, selects, selects]
  cases first.evaluate accessor record with
  | error e => rw [Bool.and_false]; rfl
  | ok holds =>
    cases holds with
    | false => rw [Bool.and_false]; rfl
    | true => rw [Bool.and_true]; rfl

/-- The records that match the groups of both are those that match the second among those that match
the first. -/
theorem matching_append_groups (first second : RuleSet) (accessor : Accessor α) (records : List α) :
    matching (RuleSet.evaluate ⟨first.groups ++ second.groups⟩ accessor) records =
      matching (second.evaluate accessor) (matching (first.evaluate accessor) records) := by
  rw [matching, matching, matching, List.filter_filter]
  exact List.filter_congr fun record _ => selects_append first second accessor record

theorem mem_matching_iff {accept : α → Except Error Bool} {records : List α} {record : α} :
    record ∈ matching accept records ↔ record ∈ records ∧ accept record = .ok true := by
  rw [matching, List.mem_filter, selects]
  cases accept record with
  | error e => simp
  | ok matched => simp

/-- The groups of both can be asked of all records exactly if the first can, and the second of those
that match the first. -/
theorem evaluable_append_groups_iff {first second : RuleSet} {accessor : Accessor α}
    {records : List α} :
    Evaluable (RuleSet.evaluate ⟨first.groups ++ second.groups⟩ accessor) records ↔
      Evaluable (first.evaluate accessor) records ∧
        Evaluable (second.evaluate accessor) (matching (first.evaluate accessor) records) := by
  constructor
  · intro both
    constructor
    · intro record mem
      obtain ⟨matched, answer⟩ := both record mem
      rw [RuleSet.evaluate_append, bind_eq_ok_iff] at answer
      obtain ⟨holds, asked, -⟩ := answer
      exact ⟨holds, asked⟩
    · intro record mem
      obtain ⟨mem, holds⟩ := mem_matching_iff.1 mem
      obtain ⟨matched, answer⟩ := both record mem
      rw [RuleSet.evaluate_append, holds] at answer
      exact ⟨matched, answer⟩
  · rintro ⟨first_answers, second_answers⟩ record mem
    obtain ⟨holds, asked⟩ := first_answers record mem
    rw [RuleSet.evaluate_append, asked]
    cases holds with
    | false => exact ⟨false, rfl⟩
    | true => exact second_answers record (mem_matching_iff.2 ⟨mem, asked⟩)

namespace Processor

variable {processor : Processor} {accessor : Accessor α} {items : Array α} {length : Nat}

/-- A pass that may run succeeds exactly if all records can be evaluated. -/
theorem page_succeeds_iff {rules : RuleSet} (offset : Nat) (positive : 1 ≤ length)
    (few : rules.ruleCount ≤ processor.options.maxRules) :
    (∃ tally, (processor.page rules accessor items offset length).result = .ok tally) ↔
      Evaluable (rules.evaluate accessor) items.toList := by
  constructor
  · rintro ⟨tally, succeeded⟩
    rcases evaluable_or_firstFailure (rules.evaluate accessor) items with
      evaluable | ⟨index, error, failure⟩
    · exact evaluable
    · obtain ⟨left, -, -, ended⟩ := page_of_firstFailure offset positive few failure
      rw [ended] at succeeded
      cases succeeded
  · intro evaluable
    rw [page_of_evaluable offset positive few evaluable]
    exact ⟨_, rfl⟩

/-- A pass with room for all records leaves those that match. -/
theorem page_items_of_room {rules : RuleSet} (few : rules.ruleCount ≤ processor.options.maxRules)
    (room : max 1 items.size ≤ length)
    (evaluable : Evaluable (rules.evaluate accessor) items.toList) :
    (processor.page rules accessor items 0 length).items.toList =
      matching (rules.evaluate accessor) items.toList := by
  have fits : (matching (rules.evaluate accessor) items.toList).length ≤ length := by
    have le : (matching (rules.evaluate accessor) items.toList).length ≤ items.size :=
      List.length_filter_le ..
    omega
  rw [page_of_evaluable 0 (by omega) few evaluable]
  exact window_zero fits

/-- Two passes, the first with room for the whole collection, succeed exactly if one pass with the
groups of both rule sets does; they leave the same records then, and the second reports the same. -/
theorem page_page (processor : Processor) (first second : RuleSet) (accessor : Accessor α)
    (items : Array α) (offset length large : Nat)
    (few : first.ruleCount + second.ruleCount ≤ processor.options.maxRules)
    (positive : 1 ≤ length) (room : max 1 items.size ≤ large) :
    let earlier := processor.page first accessor items 0 large
    let later := processor.page second accessor earlier.items offset length
    let direct := processor.page ⟨first.groups ++ second.groups⟩ accessor items offset length
    ((∃ kept, earlier.result = .ok kept) ∧ (∃ tally, later.result = .ok tally) ↔
        ∃ tally, direct.result = .ok tally) ∧
      ((∃ tally, direct.result = .ok tally) →
        later.items = direct.items ∧ later.result = direct.result) := by
  intro earlier later direct
  have few_first : first.ruleCount ≤ processor.options.maxRules := by omega
  have few_second : second.ruleCount ≤ processor.options.maxRules := by omega
  have few_both :
      RuleSet.ruleCount ⟨first.groups ++ second.groups⟩ ≤ processor.options.maxRules := by
    rw [RuleSet.ruleCount_append]
    exact few
  have kept : Evaluable (first.evaluate accessor) items.toList →
      earlier.items.toList = matching (first.evaluate accessor) items.toList :=
    page_items_of_room few_first room
  have direct_iff : (∃ tally, direct.result = .ok tally) ↔
      Evaluable (first.evaluate accessor) items.toList ∧
        Evaluable (second.evaluate accessor) (matching (first.evaluate accessor) items.toList) :=
    (page_succeeds_iff offset positive few_both).trans evaluable_append_groups_iff
  constructor
  -- The first pass says what the second is run on, but only where it succeeds.
  · rw [direct_iff, page_succeeds_iff 0 (by omega) few_first,
      page_succeeds_iff offset positive few_second]
    exact and_congr_right fun evaluable => by rw [kept evaluable]
  · intro succeeded
    obtain ⟨first_answers, second_answers⟩ := direct_iff.1 succeeded
    rw [← kept first_answers] at second_answers
    have later_ended : later = _ := page_of_evaluable offset positive few_second second_answers
    have direct_ended : direct = _ :=
      page_of_evaluable offset positive few_both
        (evaluable_append_groups_iff.2 (direct_iff.1 succeeded))
    rw [kept first_answers, ← matching_append_groups] at later_ended
    rw [later_ended, direct_ended]
    exact ⟨rfl, rfl⟩

/-- Numbers as records: the odd ones have the field `odd`, and of the others `small` cannot be
read. -/
def oddFirst : Accessor Nat := fun n field =>
  if field = "odd" then .ok (if n % 2 = 1 then some (.bool true) else none)
  else if n % 2 = 0 then .error (.extraction field "even")
  else .ok (if n < 10 then some (.bool true) else none)

theorem page_page_of_oddFirst :
    let earlier := standard.page ⟨[[RuleSet.presence "odd"]]⟩ oddFirst #[2, 1, 11, 4, 3, 5] 0 6
    let later := standard.page ⟨[[RuleSet.presence "small"]]⟩ oddFirst earlier.items 1 1
    let direct := standard.page ⟨[[RuleSet.presence "odd"], [RuleSet.presence "small"]]⟩ oddFirst
      #[2, 1, 11, 4, 3, 5] 1 1
    direct.result = .ok ⟨1, 3⟩ ∧ (∃ kept, earlier.result = .ok kept) ∧
      (∃ tally, later.result = .ok tally) ∧ later.items = direct.items ∧
      later.result = direct.result := by
  intro earlier later direct
  have succeeded : direct.result = .ok ⟨1, 3⟩ := rfl
  obtain ⟨both, same⟩ := page_page standard ⟨[[RuleSet.presence "odd"]]⟩
    ⟨[[RuleSet.presence "small"]]⟩ oddFirst #[2, 1, 11, 4, 3, 5] 1 1 6 (by decide) (by decide)
    (by decide)
  obtain ⟨earlier_ends, later_ends⟩ := both.2 ⟨_, succeeded⟩
  exact ⟨succeeded, earlier_ends, later_ends, same ⟨_, succeeded⟩⟩

end Processor

end RecordFilter
