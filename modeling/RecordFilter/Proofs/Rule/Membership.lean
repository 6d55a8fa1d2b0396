import RecordFilter.Proofs.Rule.Absence
import RecordFilter.Proofs.Rule.Evaluation
import RecordFilter.Proofs.Rule.RoundTrip

set_option autoImplicit false

/-!
# Equality, difference and membership

Three operators ask for loose equality with their references. A rule of equality accepts the values
that are equal to its reference (`Rule.evaluate_of_equality`), a rule of difference those that are
not, if they can be compared at all (`Rule.evaluate_of_difference`), and a rule of membership those
that are equal to a candidate, where a null among the candidates counts for nothing
(`Rule.evaluate_of_membership`).

So a rule of membership asks the same of a record as the group of its rules of equality, one for
each candidate: both read one field, and where the field cannot be read both fail alike
(`RuleSet.evaluate_eq_of_oneField`).
-/

namespace RecordFilter

open Outcome

/-! ## Rules and their matchers -/

namespace Rule

variable {field : String} {operator : Operator} {reference : OrderedJson} {rule : Rule}

theorem compiled_of_make (made : make field operator reference = .ok rule) :
    Matcher.compile operator reference = .ok rule.matcher := by
  obtain ⟨-, rfl, rfl⟩ := make_eq_ok_iff.1 made
  exact rule.compiled

/-- There is a rule for every reference that the operator takes, and for no other. -/
theorem exists_make_iff :
    (∃ rule, make field operator reference = .ok rule) ↔ operator.Takes reference := by
  rw [← Matcher.exists_made_iff]
  simp only [← Matcher.compile_eq_ok_iff]
  constructor
  · rintro ⟨rule, made⟩
    exact ⟨rule.matcher, compiled_of_make made⟩
  · rintro ⟨matcher, compiled⟩
    exact ⟨_, make_self ⟨field, operator, reference, matcher, compiled⟩⟩

end Rule

/-! ## Null and what cannot be compared -/

namespace Value

theorem ofItems_eq_map (items : List Json) : ofItems items = items.map ofJson := by
  induction items with
  | nil => rfl
  | cons doc docs ih => rw [ofItems, ih, List.map_cons]

/-- Null is equal to null alone. -/
theorem null_looselyEquals_iff {doc : Json} :
    Value.null.looselyEquals (ofJson doc) = true ↔ doc = .null := by
  cases doc <;> simp [ofJson, looselyEquals]

theorem looselyEquals_null {value : Value} : value.looselyEquals .null = value.isNull := by
  cases value <;> rfl

theorem isNull_iff {value : Value} : value.isNull = true ↔ value = .null := by
  cases value <;> simp [isNull]

end Value

/-! ## What the three operators accept -/

namespace Rule

variable {field : String} {reference : OrderedJson} {rule : Rule} {value : Value}

/-- A rule of equality accepts what is equal to its reference. -/
theorem evaluate_of_equality (made : make field .eq reference = .ok rule) :
    rule.evaluate value = value.looselyEquals (.ofJson reference) := by
  obtain ⟨_, found, matcher⟩ := map_eq_ok_iff.1 (compiled_of_make made)
  obtain ⟨nonNull, rfl⟩ := Matcher.nonNull_eq_ok_iff.1 found
  rw [evaluate, ← matcher, Matcher.evaluate]
  -- The reference is not null, so a null is refused with and without the test for it.
  have different := mt Value.null_looselyEquals_iff.1 nonNull
  cases value with
  | null => simp [Value.isNull, different]
  | _ => rfl

/-- A rule of difference accepts what can be compared and is not equal to its reference. -/
theorem evaluate_of_difference (made : make field .ne reference = .ok rule) :
    rule.evaluate value = true ↔
      value ≠ .null ∧ value ≠ .unsupported ∧ value.looselyEquals (.ofJson reference) = false := by
  obtain ⟨_, found, matcher⟩ := map_eq_ok_iff.1 (compiled_of_make made)
  obtain ⟨-, rfl⟩ := Matcher.nonNull_eq_ok_iff.1 found
  rw [evaluate, ← matcher]
  cases value <;> simp [Matcher.evaluate]

/-- A rule of membership accepts what is equal to a candidate that is not null. -/
theorem evaluate_of_membership {items : List OrderedJson}
    (made : make field .isIn (.array items) = .ok rule) :
    rule.evaluate value = true ↔
      ∃ doc ∈ items, doc.document ≠ .null ∧ value.looselyEquals (.ofJson doc) = true := by
  have matcher : .memberOf (Value.ofItems (items.map OrderedJson.document)) = rule.matcher :=
    Except.ok.inj (compiled_of_make made)
  rw [evaluate, ← matcher, Matcher.evaluate, Value.ofItems_eq_map, List.map_map, List.any_map,
    Bool.and_eq_true, Bool.not_eq_true', List.any_eq_true]
  constructor
  · rintro ⟨nonNull, doc, mem, equal⟩
    refine ⟨doc, mem, ?_, equal⟩
    -- Only null is equal to a null among the candidates.
    intro null
    rw [Function.comp_apply, Function.comp_apply, null, Value.ofJson, Value.looselyEquals_null,
      nonNull] at equal
    cases equal
  · rintro ⟨doc, mem, nonNull, equal⟩
    refine ⟨?_, doc, mem, equal⟩
    rw [Bool.eq_false_iff, ne_eq, Value.isNull_iff]
    rintro rfl
    exact nonNull (Value.null_looselyEquals_iff.1 equal)

variable {equality difference : Rule}

/-- Null and what cannot be compared are refused on both sides. -/
theorem refused_of_incomparable (equal : make field .eq reference = .ok equality)
    (different : make field .ne reference = .ok difference)
    (incomparable : value = .null ∨ value = .unsupported) :
    equality.evaluate value = false ∧ difference.evaluate value = false := by
  have nonNull : reference.document ≠ .null := exists_make_iff.1 ⟨_, equal⟩
  constructor
  · rw [evaluate_of_equality equal]
    rcases incomparable with rfl | rfl
    · exact Bool.eq_false_iff.2 (mt Value.null_looselyEquals_iff.1 nonNull)
    · exact Matcher.looselyEquals_unsupported _
  · rw [Bool.eq_false_iff, ne_eq, evaluate_of_difference different]
    rintro ⟨present, comparable, -⟩
    rcases incomparable with rfl | rfl
    · exact present rfl
    · exact comparable rfl

/-- All other values are accepted by exactly one of the two. -/
theorem difference_eq_not_equality (equal : make field .eq reference = .ok equality)
    (different : make field .ne reference = .ok difference) (present : value ≠ .null)
    (comparable : value ≠ .unsupported) :
    difference.evaluate value = !equality.evaluate value := by
  rw [evaluate_of_equality equal, Bool.eq_iff_iff, evaluate_of_difference different]
  simp [present, comparable]

end Rule

/-! ## Groups about one field -/

namespace RuleSet

variable {α : Type} {accessor : Accessor α} {record : α} {field : String} {group : List Rule}

theorem evaluate_group :
    evaluate ⟨[group]⟩ accessor record = group.anyM (Rule.accepts accessor record) := by
  rw [evaluate, List.allM_cons]
  rcases group.anyM (Rule.accepts accessor record) with error | _ | _
  all_goals rfl

/-- A group about one field reads it once and asks whether a rule accepts what it finds there. -/
theorem evaluate_of_oneField (one : ∀ rule ∈ group, rule.field = field) (nonempty : group ≠ []) :
    evaluate ⟨[group]⟩ accessor record =
      (accessor record field).map fun found => found.any fun value =>
        group.any fun rule => rule.evaluate value := by
  rw [evaluate_group]
  cases answer : accessor record field with
  | error error =>
    -- The first rule fails already.
    obtain ⟨rule, rest, rfl⟩ := List.exists_cons_of_ne_nil nonempty
    apply anyM_eq_error_iff.2
    refine ⟨[], rule, rest, rfl, List.forall_mem_nil _, ?_⟩
    rw [Rule.accepts, one rule (.head _), answer]
    rfl
  | ok found =>
    have same : group.anyM (Rule.accepts accessor record) =
        group.anyM fun rule => pure (found.any rule.evaluate) := by
      apply Eq.symm
      apply anyM_congr_of_asked
      intro before rule after parts _
      have mem : rule ∈ group := by
        rw [parts]
        exact List.mem_append_cons_self
      rw [Rule.accepts, one rule mem, answer]
      rfl
    rw [same, List.anyM_pure]
    cases found with
    | none => simp [Except.map, pure, Except.pure]
    | some value => rfl

/-- Groups about one field that accept the same values of it answer alike, also where the field
cannot be read. -/
theorem evaluate_eq_of_oneField {other : List Rule} (one : ∀ rule ∈ group, rule.field = field)
    (nonempty : group ≠ []) (one' : ∀ rule ∈ other, rule.field = field) (nonempty' : other ≠ [])
    (agree : ∀ value, group.any (fun rule => rule.evaluate value) =
      other.any fun rule => rule.evaluate value) :
    evaluate ⟨[group]⟩ accessor record = evaluate ⟨[other]⟩ accessor record := by
  rw [evaluate_of_oneField one nonempty, evaluate_of_oneField one' nonempty']
  simp only [agree]

/-! ## Membership as a group of equalities -/

variable {items : List OrderedJson}

theorem field_of_mapM (done : items.mapM (Rule.make field .eq) = .ok group) :
    ∀ rule ∈ group, rule.field = field := by
  intro rule mem
  obtain ⟨doc, -, made⟩ := mem_of_mapM_eq_ok done mem
  exact (Rule.make_eq_ok_iff.1 made).1

/-- Of the rules of equality for several references, one accepts what is equal to a reference. -/
theorem any_evaluate_iff (done : items.mapM (Rule.make field .eq) = .ok group) {value : Value} :
    group.any (fun rule => rule.evaluate value) = true ↔
      ∃ doc ∈ items, value.looselyEquals (.ofJson doc) = true := by
  rw [List.any_eq_true]
  constructor
  · rintro ⟨rule, mem, accepted⟩
    obtain ⟨doc, inside, made⟩ := mem_of_mapM_eq_ok done mem
    rw [Rule.evaluate_of_equality made] at accepted
    exact ⟨doc, inside, accepted⟩
  · rintro ⟨doc, inside, equal⟩
    obtain ⟨rule, mem, made⟩ := exists_mem_of_mapM_eq_ok done inside
    rw [← Rule.evaluate_of_equality made] at equal
    exact ⟨rule, mem, equal⟩

theorem evaluate_membership {membership : Rule} (nonempty : items ≠ [])
    (nonNull : ∀ doc ∈ items, doc.document ≠ .null)
    (made : Rule.make field .isIn (.array items) = .ok membership)
    (done : items.mapM (Rule.make field .eq) = .ok group) :
    evaluate ⟨[[membership]]⟩ accessor record = evaluate ⟨[group]⟩ accessor record := by
  have one : ∀ rule ∈ [membership], rule.field = field := by
    intro rule mem
    rw [List.mem_singleton.1 mem]
    exact (Rule.make_eq_ok_iff.1 made).1
  have nonempty' : group ≠ [] := by
    obtain ⟨doc, inside⟩ := List.exists_mem_of_ne_nil items nonempty
    obtain ⟨rule, mem, -⟩ := exists_mem_of_mapM_eq_ok done inside
    exact List.ne_nil_of_mem mem
  apply evaluate_eq_of_oneField one (List.cons_ne_nil _ _) (field_of_mapM done) nonempty'
  intro value
  rw [List.any_cons, List.any_nil, Bool.or_false, Bool.eq_iff_iff, any_evaluate_iff done,
    Rule.evaluate_of_membership made]
  constructor
  · rintro ⟨doc, mem, -, equal⟩
    exact ⟨doc, mem, equal⟩
  · rintro ⟨doc, mem, equal⟩
    exact ⟨doc, mem, nonNull doc mem, equal⟩

/-- Difference is the negation of equality, except that both refuse null and what cannot be
compared. Membership is equality with one of the candidates that are not null. Asked about a record,
a rule of membership answers as the group of the rules of equality with its candidates, if there are
any and none of them is null, and it fails as the group fails. -/
theorem equality_operators_agree :
    (∀ field (reference : OrderedJson), reference.document ≠ .null → ∃ equality difference,
      Rule.make field .eq reference = .ok equality ∧
      Rule.make field .ne reference = .ok difference ∧
      ∀ value : Value,
        (value = .null ∨ value = .unsupported →
          equality.evaluate value = false ∧ difference.evaluate value = false) ∧
        (value ≠ .null → value ≠ .unsupported →
          difference.evaluate value = !equality.evaluate value)) ∧
    (∀ field items, ∃ membership, Rule.make field .isIn (.array items) = .ok membership ∧
      ∀ value : Value, membership.evaluate value = true ↔
        ∃ doc ∈ items, doc.document ≠ .null ∧ ∃ equality,
          Rule.make field .eq doc = .ok equality ∧ equality.evaluate value = true) ∧
    ∀ field items, items ≠ [] → (∀ doc ∈ items, doc.document ≠ .null) → ∃ membership group,
      Rule.make field .isIn (.array items) = .ok membership ∧
      items.mapM (Rule.make field .eq) = .ok group ∧
      ∀ (α : Type) (accessor : Accessor α) (record : α),
        evaluate ⟨[[membership]]⟩ accessor record = evaluate ⟨[group]⟩ accessor record := by
  refine ⟨?difference, ?membership, ?group⟩
  case difference =>
    intro field reference nonNull
    obtain ⟨equality, equal⟩ : ∃ rule, Rule.make field .eq reference = .ok rule :=
      Rule.exists_make_iff.2 nonNull
    obtain ⟨difference, different⟩ : ∃ rule, Rule.make field .ne reference = .ok rule :=
      Rule.exists_make_iff.2 nonNull
    refine ⟨equality, difference, equal, different, ?_⟩
    intro value
    exact ⟨Rule.refused_of_incomparable equal different,
      Rule.difference_eq_not_equality equal different⟩
  case membership =>
    intro field items
    obtain ⟨membership, made⟩ : ∃ rule, Rule.make field .isIn (.array items) = .ok rule :=
      Rule.exists_make_iff.2 ⟨_, rfl⟩
    refine ⟨membership, made, ?_⟩
    intro value
    rw [Rule.evaluate_of_membership made]
    constructor
    · rintro ⟨doc, mem, nonNull, equal⟩
      obtain ⟨equality, made⟩ : ∃ rule, Rule.make field .eq doc = .ok rule :=
        Rule.exists_make_iff.2 nonNull
      rw [← Rule.evaluate_of_equality made] at equal
      exact ⟨doc, mem, nonNull, equality, made, equal⟩
    · rintro ⟨doc, mem, nonNull, equality, made, accepted⟩
      rw [Rule.evaluate_of_equality made] at accepted
      exact ⟨doc, mem, nonNull, accepted⟩
  case group =>
    intro field items nonempty nonNull
    obtain ⟨membership, made⟩ : ∃ rule, Rule.make field .isIn (.array items) = .ok rule :=
      Rule.exists_make_iff.2 ⟨_, rfl⟩
    obtain ⟨group, done⟩ : ∃ group, items.mapM (Rule.make field .eq) = .ok group :=
      exists_mapM_eq_ok_iff.2 fun doc mem => Rule.exists_make_iff.2 (nonNull doc mem)
    refine ⟨membership, group, made, done, ?_⟩
    intro α accessor record
    exact evaluate_membership nonempty nonNull made done

/-- The two forms of a rule about a field that cannot be read, and about one that can. -/
theorem equality_operators_agree_damaged :
    let items : List OrderedJson := [.string "open", .bool true]
    items ≠ [] ∧ (∀ doc ∈ items, doc.document ≠ .null) ∧
      (∃ membership group, Rule.make "damaged" .isIn (.array items) = .ok membership ∧
        items.mapM (Rule.make "damaged" .eq) = .ok group ∧
        evaluate ⟨[[membership]]⟩ damaged () = evaluate ⟨[group]⟩ damaged ()) ∧
      ∃ equality difference, Rule.make "id" .eq (.bool false) = .ok equality ∧
        Rule.make "id" .ne (.bool false) = .ok difference ∧
        difference.evaluate (.bool true) = !equality.evaluate (.bool true) := by
  intro items
  have nonempty : items ≠ [] := List.cons_ne_nil _ _
  have nonNull : ∀ doc ∈ items, doc.document ≠ .null := by
    simp [items, OrderedJson.string, OrderedJson.bool]
  obtain ⟨negation, -, forms⟩ := equality_operators_agree
  refine ⟨nonempty, nonNull, ?_, ?_⟩
  · obtain ⟨membership, group, made, done, same⟩ := forms "damaged" items nonempty nonNull
    exact ⟨membership, group, made, done, same Unit damaged ()⟩
  · have given : (OrderedJson.bool false).document ≠ .null := by rintro ⟨⟩
    have present : Value.bool true ≠ .null := by rintro ⟨⟩
    have comparable : Value.bool true ≠ .unsupported := by rintro ⟨⟩
    obtain ⟨equality, difference, equal, different, agree⟩ := negation "id" (.bool false) given
    exact ⟨equality, difference, equal, different, (agree (.bool true)).2 present comparable⟩

end RuleSet

end RecordFilter
