import RecordFilter.Proofs.Number.Comparison
import RecordFilter.Proofs.Rule.Compilation
import RecordFilter.Proofs.Rule.RoundTrip

set_option autoImplicit false

/-!
# Rules about numbers

A rule with a number for its reference compares a number of a field with it: orderings compare the
doubles of both (`Rule.evaluate_ordering`), equality tells integers of one kind apart that the
doubles do not (`Rule.evaluate_equality_iff`). So equality agrees with the orderings unless the two
numbers round alike, and then the number is neither less nor equal nor greater
(`Rule.equality_agrees_iff`).
-/

namespace RecordFilter

namespace Rule

/-! ## Rules with numbers -/

/-- The rule that a field equals a number. -/
def equality (field : String) (n : JsonNumber) : Rule :=
  ⟨field, .eq, .number n, .equal (.ofJson (.number n)),
    Matcher.compile_eq_ok_iff.2 (.equal (.number n) nofun)⟩

/-- The rule that a field has a relation to a number. -/
def ordering (relation : Relation) (field : String) (n : JsonNumber) : Rule :=
  ⟨field, relation.operator, .number n, .order relation n.toBinary64,
    Matcher.compile_eq_ok_iff.2 (.order relation n)⟩

variable {field : String} {n : JsonNumber} {v : Number} {relation : Relation}

theorem make_equality : make field .eq (.number n) = .ok (equality field n) :=
  make_self (equality field n)

theorem make_ordering :
    make field relation.operator (.number n) = .ok (ordering relation field n) :=
  make_self (ordering relation field n)

/-! ## What they accept -/

theorem evaluate_ordering :
    (ordering relation field n).evaluate (.number v) =
      relation.holds (v.toBinary64.compare? n.toBinary64) :=
  rfl

theorem evaluate_equality_iff :
    (equality field n).evaluate (.number v) = true ↔
      v.toBinary64.compare? n.toBinary64 = some .eq ∧ ¬v.RoundsAlike n.toNumber := by
  rw [← JsonNumber.toBinary64_toNumber, ← Number.compare?_eq_iff]
  simp [evaluate, equality, Matcher.evaluate, Value.isNull, Value.ofJson, Value.looselyEquals]

/-- What is at most and at least as large is of the same size. -/
theorem atMost_and_atLeast_iff {compared : Option Ordering} :
    Relation.atMost.holds compared = true ∧ Relation.atLeast.holds compared = true ↔
      compared = some .eq := by
  rcases compared with - | - | - | -
  all_goals simp [Relation.holds]

theorem compare?_ne_none (number : ¬v.IsNaN) : v.toBinary64.compare? n.toBinary64 ≠ none := by
  rw [ne_eq, Binary64.compare?_eq_none_iff, n.isNaN_toBinary64, ← Number.isNaN_iff]
  simp [number]

theorem compare?_of_roundsAlike (alike : v.RoundsAlike n.toNumber) :
    v.toBinary64.compare? n.toBinary64 = some .eq := by
  rw [← JsonNumber.toBinary64_toNumber]
  exact alike.equal

/-- A number of a field is less than the reference, greater, or of the same size. In the last case
it is equal to the reference unless the two round alike. -/
theorem countP_eq_one_iff (number : ¬v.IsNaN) :
    [ordering .less field n, equality field n, ordering .greater field n].countP
        (fun rule => rule.evaluate (.number v)) = 1 ↔ ¬v.RoundsAlike n.toNumber := by
  have equal : (equality field n).evaluate (.number v) = true ↔ _ := evaluate_equality_iff
  rcases compared : v.toBinary64.compare? n.toBinary64 with - | order
  · exact absurd compared (compare?_ne_none number)
  · have apart_of_ne : order ≠ .eq → ¬v.RoundsAlike n.toNumber := by
      intro other alike
      rw [compare?_of_roundsAlike alike] at compared
      exact other (Option.some.inj compared).symm
    rw [compared] at equal
    -- The comparison decides the orderings; equality is left only if it gives the same size.
    simp only [List.countP_cons, List.countP_nil, evaluate_ordering, compared]
    cases order with
    | lt => simp [equal, apart_of_ne, Relation.holds]
    | eq => by_cases alike : v.RoundsAlike n.toNumber <;> simp [equal, alike, Relation.holds]
    | gt => simp [equal, apart_of_ne, Relation.holds]

/-- A number of a field equals the reference exactly if it is at most and at least as large, unless
the two are different integers of one kind that round alike. Exactly then a number that is no NaN is
less than the reference, equal to it or greater, and only one of these. Of integers that round alike
each is at most and at least as large as the other, and neither less nor equal nor greater. -/
theorem equality_agrees_iff (field : String) (n : JsonNumber) (v : Number) :
    make field .eq (.number n) = .ok (equality field n) ∧
      (∀ relation, make field relation.operator (.number n) = .ok (ordering relation field n)) ∧
      (((equality field n).evaluate (.number v) = true ↔
        (ordering .atMost field n).evaluate (.number v) = true ∧
          (ordering .atLeast field n).evaluate (.number v) = true) ↔
        ¬v.RoundsAlike n.toNumber) ∧
      (¬v.IsNaN →
        ([ordering .less field n, equality field n, ordering .greater field n].countP
          (fun rule => rule.evaluate (.number v)) = 1 ↔ ¬v.RoundsAlike n.toNumber)) ∧
      (v.RoundsAlike n.toNumber →
        (ordering .atMost field n).evaluate (.number v) = true ∧
          (ordering .atLeast field n).evaluate (.number v) = true ∧
          ∀ rule ∈ [ordering .less field n, equality field n, ordering .greater field n],
            rule.evaluate (.number v) = false) := by
  refine ⟨make_equality, fun relation => make_ordering, ?agree, countP_eq_one_iff, ?alike⟩
  case agree =>
    rw [evaluate_equality_iff, evaluate_ordering, evaluate_ordering, atMost_and_atLeast_iff]
    constructor
    · intro agree alike
      exact (agree.2 (compare?_of_roundsAlike alike)).2 alike
    · intro apart
      exact and_iff_left apart
  case alike =>
    intro alike
    have compared := compare?_of_roundsAlike alike
    have different : (equality field n).evaluate (.number v) = false := by
      apply Bool.eq_false_iff.2
      intro equal
      exact (evaluate_equality_iff.1 equal).2 alike
    simp [evaluate_ordering, compared, different, Relation.holds]

/-! ## Large neighbours -/

/-- The first integer whose successor rounds to it. -/
def twoTo53 : JsonNumber := .integer ⟨9007199254740992, by decide⟩

/-- The successor as a number of a field. -/
def nextSigned : Number := .signed 9007199254740993

/-- The successor as a number of another kind. -/
def nextUnsigned : Number := .unsigned 9007199254740993

/-- The successor is at most and at least as large, but not equal. -/
theorem equality_disagrees :
    make "n" .eq (.number twoTo53) = .ok (equality "n" twoTo53) ∧
      make "n" .lte (.number twoTo53) = .ok (ordering .atMost "n" twoTo53) ∧
      make "n" .gte (.number twoTo53) = .ok (ordering .atLeast "n" twoTo53) ∧
      (ordering .atMost "n" twoTo53).evaluate (.number nextSigned) = true ∧
      (ordering .atLeast "n" twoTo53).evaluate (.number nextSigned) = true ∧
      (equality "n" twoTo53).evaluate (.number nextSigned) = false := by
  refine ⟨make_equality, make_self (ordering .atMost "n" twoTo53),
    make_self (ordering .atLeast "n" twoTo53), ?_, ?_, ?_⟩
  all_goals decide +kernel

/-- A number of another kind equals the reference if it rounds to it. -/
theorem equality_agrees_nextUnsigned :
    ¬nextUnsigned.IsNaN ∧ ¬nextUnsigned.RoundsAlike twoTo53.toNumber ∧
      [ordering .less "n" twoTo53, equality "n" twoTo53, ordering .greater "n" twoTo53].countP
        (fun rule => rule.evaluate (.number nextUnsigned)) = 1 := by
  have number : ¬nextUnsigned.IsNaN := not_false
  have apart : ¬nextUnsigned.RoundsAlike twoTo53.toNumber := fun alike => alike.oneKind
  have agrees := equality_agrees_iff "n" twoTo53 nextUnsigned
  exact ⟨number, apart, (agrees.2.2.2.1 number).2 apart⟩

end Rule

end RecordFilter
