import RecordFilter.Proofs.Rule.Evaluation

set_option autoImplicit false

/-!
# The order of evaluation

A rule accepts a record, refuses it or fails. A rule set is asked from left to right: a group is
satisfied by the first rule that accepts, if the rules before it refuse, and the rule set is decided
by the first group that is not satisfied. Each answer of a rule set, yes, no or an error, is given
exactly under one condition on the answers of its rules (`RuleSet.evaluate_in_order`).

The rules behind the one that decides are not reached (`RuleSet.Reaches`). What they would answer
changes nothing (`RuleSet.evaluate_congr`).
-/

namespace RecordFilter.RuleSet

open Outcome

variable {α : Type}

/-! ## Groups -/

/-- The rules of a group refuse, all of them. -/
def Refused (ask : Rule → Except Error Bool) (group : List Rule) : Prop :=
  ∀ rule ∈ group, ask rule = .ok false

/-- A rule of the group accepts, and those before it refuse. -/
def Satisfied (ask : Rule → Except Error Bool) (group : List Rule) : Prop :=
  ∃ before rule after, group = before ++ rule :: after ∧ Refused ask before ∧ ask rule = .ok true

/-- The evaluation comes to the rule: the groups before its own are satisfied, and the rules before
it in its own group refuse. -/
def Reaches (rules : RuleSet) (ask : Rule → Except Error Bool) (rule : Rule) : Prop :=
  ∃ earlier before after later, rules.groups = earlier ++ (before ++ rule :: after) :: later ∧
    (∀ group ∈ earlier, Satisfied ask group) ∧ Refused ask before

variable {rules : RuleSet} {ask : Rule → Except Error Bool} {group : List Rule}

theorem anyM_eq_ok_true_iff_satisfied : group.anyM ask = .ok true ↔ Satisfied ask group :=
  anyM_eq_ok_true_iff

theorem anyM_eq_ok_false_iff_refused : group.anyM ask = .ok false ↔ Refused ask group :=
  anyM_eq_ok_false_iff

/-! ## Answers of rules and rule sets -/

variable {accessor other : Accessor α} {record : α}

/-- A rule about a field that the record does not have refuses it. -/
theorem accepts_of_missing {rule : Rule} (missing : accessor record rule.field = .ok none) :
    rule.accepts accessor record = .ok false := by
  rw [Rule.accepts, missing]
  rfl

theorem evaluate_eq_true_iff :
    rules.evaluate accessor record = .ok true ↔
      ∀ group ∈ rules.groups, Satisfied (Rule.accepts accessor record) group := by
  simp only [evaluate, allM_eq_ok_true_iff, anyM_eq_ok_true_iff_satisfied]

theorem evaluate_eq_false_iff :
    rules.evaluate accessor record = .ok false ↔
      ∃ earlier group later, rules.groups = earlier ++ group :: later ∧
        (∀ group ∈ earlier, Satisfied (Rule.accepts accessor record) group) ∧
        Refused (Rule.accepts accessor record) group := by
  simp only [evaluate, allM_eq_ok_false_iff, anyM_eq_ok_true_iff_satisfied,
    anyM_eq_ok_false_iff_refused]

theorem evaluate_eq_error_iff {error : Error} :
    rules.evaluate accessor record = .error error ↔
      ∃ rule, rules.Reaches (Rule.accepts accessor record) rule ∧
        rule.accepts accessor record = .error error := by
  simp only [evaluate, allM_eq_error_iff, anyM_eq_ok_true_iff_satisfied, anyM_eq_error_iff]
  constructor
  · rintro ⟨earlier, group, later, groups, satisfied, before, rule, after, rfl, refused, failed⟩
    exact ⟨rule, ⟨earlier, before, after, later, groups, satisfied, refused⟩, failed⟩
  · rintro ⟨rule, ⟨earlier, before, after, later, groups, satisfied, refused⟩, failed⟩
    exact ⟨earlier, _, later, groups, satisfied, before, rule, after, rfl, refused, failed⟩

/-- Only the rules that are reached matter. -/
theorem evaluate_congr
    (agree : ∀ rule, rules.Reaches (Rule.accepts accessor record) rule →
      rule.accepts other record = rule.accepts accessor record) :
    rules.evaluate other record = rules.evaluate accessor record := by
  apply allM_congr_of_asked
  intro earlier group later groups satisfied
  apply anyM_congr_of_asked
  intro before rule after parts refused
  apply agree
  rw [parts] at groups
  refine ⟨earlier, before, after, later, groups, ?_, refused⟩
  intro group mem
  exact anyM_eq_ok_true_iff_satisfied.1 (satisfied group mem)

/-- A rule set is asked from left to right. It holds exactly if each group has a rule that accepts
behind rules that refuse. It does not hold exactly if there is a group of rules that all refuse, be
it without rules, and every group before is satisfied. Otherwise it fails, with the error of the one
rule that fails among those that are reached. Whatever an accessor answers for the rules that are
not reached, the answer of the rule set is the same. -/
theorem evaluate_in_order (rules : RuleSet) (accessor : Accessor α) (record : α) :
    (∀ rule : Rule, accessor record rule.field = .ok none →
      rule.accepts accessor record = .ok false) ∧
    (rules.evaluate accessor record = .ok true ↔
      ∀ group ∈ rules.groups, Satisfied (Rule.accepts accessor record) group) ∧
    (rules.evaluate accessor record = .ok false ↔
      ∃ earlier group later, rules.groups = earlier ++ group :: later ∧
        (∀ group ∈ earlier, Satisfied (Rule.accepts accessor record) group) ∧
        Refused (Rule.accepts accessor record) group) ∧
    (∀ error, rules.evaluate accessor record = .error error ↔
      ∃ rule, rules.Reaches (Rule.accepts accessor record) rule ∧
        rule.accepts accessor record = .error error) ∧
    ∀ other : Accessor α,
      (∀ rule, rules.Reaches (Rule.accepts accessor record) rule →
        rule.accepts other record = rule.accepts accessor record) →
      rules.evaluate other record = rules.evaluate accessor record :=
  ⟨fun _ => accepts_of_missing, evaluate_eq_true_iff, evaluate_eq_false_iff,
    fun _ => evaluate_eq_error_iff, fun _ => evaluate_congr⟩

/-! ## A field that is repaired -/

/-- The damaged record with every field readable. -/
def repaired : Accessor Unit := fun _ field =>
  .ok (if field = "missing" then none else some (.bool true))

theorem accepts_repaired {rule : Rule} (readable : rule.field ≠ "damaged") :
    rule.accepts repaired () = rule.accepts damaged () := by
  rw [Rule.accepts, Rule.accepts, repaired, damaged, if_neg readable]

theorem accepts_damaged {rule : Rule} (unreadable : rule.field = "damaged") :
    rule.accepts damaged () = .error (.extraction "damaged" "unreadable") := by
  rw [Rule.accepts, damaged, unreadable]
  rfl

/-- A rule about the damaged field stands behind one that accepts, so it is not reached, and
repairing the field does not change the answer. -/
theorem evaluate_in_order_repaired :
    let rules : RuleSet :=
      ⟨[[presence "missing", presence "id", presence "damaged"], [presence "name"]]⟩
    (damaged () "missing" = .ok none ∧ (presence "missing").accepts damaged () = .ok false) ∧
      (∀ rule, rules.Reaches (Rule.accepts damaged ()) rule →
        rule.accepts repaired () = rule.accepts damaged ()) ∧
      rules.evaluate repaired () = rules.evaluate damaged () := by
  intro rules
  obtain ⟨soft, -, -, fails, unreached⟩ := evaluate_in_order rules damaged ()
  have holds : rules.evaluate damaged () = .ok true := rfl
  have agree : ∀ rule, rules.Reaches (Rule.accepts damaged ()) rule →
      rule.accepts repaired () = rule.accepts damaged () := by
    intro rule reached
    apply accepts_repaired
    -- A reached rule about the damaged field would make the rule set fail.
    intro unreadable
    have failed := (fails _).2 ⟨rule, reached, accepts_damaged unreadable⟩
    rw [holds] at failed
    cases failed
  exact ⟨⟨rfl, soft (presence "missing") rfl⟩, agree, unreached repaired agree⟩

end RecordFilter.RuleSet
