import RecordFilter.Proofs.Rule.Compilation
import RecordFilter.Proofs.Rule.Equality

set_option autoImplicit false

/-!
# What rule sets answer

A rule set asks its rules in order and stops as soon as its answer is known, so an accessor that
fails on some fields can make one of two rule sets fail and not the other. Where both answer, only
the rules matter: a rule set whose groups each include a group of another holds wherever the other
does (`evaluate_ne_false_of_covers`), and rearranging a rule set does not change its answer
(`evaluate_of_covers`).

The groups of two rule sets one behind the other are asked like the two rule sets, the second where
the first holds (`evaluate_append`).
-/

namespace RecordFilter.RuleSet

open Outcome

variable {α : Type}

/-! ## Groups one behind the other -/

theorem evaluate_append (first second : RuleSet) (accessor : Accessor α) (record : α) :
    evaluate ⟨first.groups ++ second.groups⟩ accessor record =
      first.evaluate accessor record >>= fun holds =>
        if holds then second.evaluate accessor record else .ok false :=
  allM_append first.groups second.groups

theorem ruleCount_append (first second : RuleSet) :
    ruleCount ⟨first.groups ++ second.groups⟩ = first.ruleCount + second.ruleCount := by
  rw [ruleCount, List.flatten_append, List.length_append, ruleCount, ruleCount]

/-! ## Rule sets that say less -/

/-- Every rule of `small` is equal to one of `large`. -/
def Includes (large small : List Rule) : Prop :=
  ∀ rule ∈ small, ∃ same ∈ large, rule.equals same = true

/-- Every group of `weak` includes a group of `strong`. -/
def Covers (strong weak : RuleSet) : Prop :=
  ∀ group ∈ weak.groups, ∃ part ∈ strong.groups, Includes group part

/-- Both rule sets have the same groups of the same rules, in any order and any number of times. -/
def Rearranged (a b : RuleSet) : Prop :=
  (∀ group ∈ a.groups, ∃ same ∈ b.groups, Includes group same ∧ Includes same group) ∧
    ∀ group ∈ b.groups, ∃ same ∈ a.groups, Includes group same ∧ Includes same group

theorem includes_of_subset {large small : List Rule} (subset : small ⊆ large) :
    Includes large small :=
  fun rule mem => ⟨rule, subset mem, rule.equals_self⟩

/-- Rule sets are rearranged if the groups of each are those of the other with the same rules. -/
theorem Rearranged.of_groups {a b : RuleSet}
    (left : ∀ group ∈ a.groups, ∃ same ∈ b.groups, same ⊆ group ∧ group ⊆ same)
    (right : ∀ group ∈ b.groups, ∃ same ∈ a.groups, same ⊆ group ∧ group ⊆ same) :
    Rearranged a b := by
  constructor
  · intro group mem
    obtain ⟨same, inside, less, more⟩ := left group mem
    exact ⟨same, inside, includes_of_subset less, includes_of_subset more⟩
  · intro group mem
    obtain ⟨same, inside, less, more⟩ := right group mem
    exact ⟨same, inside, includes_of_subset less, includes_of_subset more⟩

theorem Rearranged.covers {a b : RuleSet} (rearranged : Rearranged a b) : a.Covers b := by
  intro group mem
  obtain ⟨same, inside, includes, -⟩ := rearranged.2 group mem
  exact ⟨same, inside, includes⟩

theorem Rearranged.symm {a b : RuleSet} (rearranged : Rearranged a b) : Rearranged b a :=
  ⟨rearranged.2, rearranged.1⟩

variable {strong weak : RuleSet} {accessor : Accessor α} {record : α}

/-- Where a rule set holds, one that says less is not answered by no. -/
theorem evaluate_ne_false_of_covers (covers : strong.Covers weak)
    (holds : strong.evaluate accessor record = .ok true) :
    weak.evaluate accessor record ≠ .ok false := by
  intro fails
  -- A no comes from a group all of whose rules were asked, and each was answered by no.
  obtain ⟨before, group, after, parts, -, none⟩ := allM_eq_ok_false_iff.1 fails
  have all_no := anyM_eq_ok_false_iff.1 none
  -- A yes comes from a yes in every group, also in the one that this group includes.
  obtain ⟨part, part_mem, included⟩ := covers group (by rw [parts]; exact List.mem_append_cons_self)
  have one := allM_eq_ok_true_iff.1 holds part part_mem
  obtain ⟨asked, rule, unasked, rules, -, yes⟩ := anyM_eq_ok_true_iff.1 one
  obtain ⟨same, same_mem, equal⟩ := included rule (by rw [rules]; exact List.mem_append_cons_self)
  have no := all_no same same_mem
  rw [← Rule.accepts_of_equals equal, yes] at no
  cases no

theorem evaluate_eq_true_of_covers (covers : strong.Covers weak)
    (holds : strong.evaluate accessor record = .ok true) {answer : Bool}
    (answered : weak.evaluate accessor record = .ok answer) : answer = true := by
  cases answer with
  | true => rfl
  | false => exact absurd answered (evaluate_ne_false_of_covers covers holds)

/-! ## Records that cannot be read -/

/-- The rule that a field is not null. -/
def presence (field : String) : Rule :=
  ⟨field, .isNotNull, .null, .isNotNull, Matcher.compile_eq_ok_iff.2 (.isNotNull .null)⟩

/-- A record of which one field cannot be read and one does not exist. -/
def damaged : Accessor Unit := fun _ field =>
  if field = "damaged" then .error (.extraction field "unreadable")
  else .ok (if field = "missing" then none else some (.bool true))

/-- Where a rule set holds and one that says less is answered, that one holds too. Whenever two rule
sets with the same groups of the same rules are both answered, the answers are the same; but one of
them may be answered where the other fails. -/
theorem evaluate_of_covers (strong weak : RuleSet) (accessor : Accessor α) (record : α) :
    (strong.Covers weak → strong.evaluate accessor record = .ok true →
        ∀ answer, weak.evaluate accessor record = .ok answer → answer = true) ∧
      (strong.Rearranged weak → ∀ a b, strong.evaluate accessor record = .ok a →
        weak.evaluate accessor record = .ok b → a = b) ∧
      ∃ (one other : RuleSet) (accessor : Accessor Unit) (error : Error),
        one.Rearranged other ∧ one.evaluate accessor () = .ok true ∧
          other.evaluate accessor () = .error error := by
  refine ⟨?_, ?_, ?_⟩
  · intro covers holds answer answered
    exact evaluate_eq_true_of_covers covers holds answered
  · intro rearranged a b ha hb
    cases a with
    | true => exact (evaluate_eq_true_of_covers rearranged.covers ha hb).symm
    | false =>
      cases b with
      | true => exact evaluate_eq_true_of_covers rearranged.symm.covers hb ha
      | false => rfl
  -- The rule that cannot be asked is not reached behind one that holds.
  · refine ⟨⟨[[presence "name", presence "damaged"]]⟩, ⟨[[presence "damaged", presence "name"]]⟩,
      damaged, .extraction "damaged" "unreadable", ?_, rfl, rfl⟩
    exact Rearranged.of_groups (by simp) (by simp)

theorem evaluate_of_covers_damaged :
    let strong : RuleSet := ⟨[[presence "name", presence "damaged"], [presence "id"]]⟩
    let weak : RuleSet := ⟨[[presence "missing", presence "id", presence "damaged"]]⟩
    let same : RuleSet := ⟨[[presence "id", presence "id"], [presence "name", presence "damaged"],
      [presence "id"]]⟩
    strong.Covers weak ∧ strong.Rearranged same ∧
      ∃ a b c, strong.evaluate damaged () = .ok a ∧ weak.evaluate damaged () = .ok b ∧
        same.evaluate damaged () = .ok c ∧ b = true ∧ a = c := by
  intro strong weak same
  have covers : strong.Covers weak := by
    intro group mem
    cases List.mem_singleton.1 mem
    exact ⟨[presence "id"], by simp [strong], includes_of_subset (by simp)⟩
  have rearranged : strong.Rearranged same :=
    Rearranged.of_groups (by simp [strong, same]) (by simp [strong, same])
  exact ⟨covers, rearranged, true, true, true, rfl, rfl, rfl,
    (evaluate_of_covers strong weak damaged ()).1 covers rfl true rfl,
    (evaluate_of_covers strong same damaged ()).2.1 rearranged true true rfl rfl⟩

end RecordFilter.RuleSet
