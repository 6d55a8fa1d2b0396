import RecordFilter.Proofs.Outcome
import RecordFilter.Rule.Basic

set_option autoImplicit false

/-!
# What references are made into

The compilation checks a reference by the operator and keeps what the comparison needs of it.
`Matcher.Made` says which matcher comes out of which reference, and `Matcher.compile_eq_ok_iff` that
the compilation gives this matcher and fails on all other references. Facts about the matchers of an
operator are proved from the cases of `Made`: relations to numbers are one case, those to texts
another.
-/

namespace RecordFilter

open Outcome

/-! ## Matchers and what they are made of -/

/-- The operator of a relation to a number. -/
def Relation.operator : Relation → Operator
  | .less => .lt
  | .atMost => .lte
  | .greater => .gt
  | .atLeast => .gte

/-- The operator of a relation to a text. -/
def TextRelation.operator : TextRelation → Operator
  | .equalFold => .eqFold
  | .startsWith => .startsWith
  | .endsWith => .endsWith
  | .contains => .contains

/-- Whether an operator takes a reference. -/
def Operator.Takes (operator : Operator) (reference : Json) : Prop :=
  match operator with
  | .eq | .ne => reference ≠ .null
  | .lt | .lte | .gt | .gte => ∃ n, reference = .number n
  | .eqFold | .startsWith | .endsWith | .contains => ∃ s, reference = .string s
  | .regexp => ∃ s pattern, reference = .string s ∧ Regex.Pattern.parse? s = some pattern
  | .isIn => ∃ items, reference = .array items
  | .isNull | .isNotNull => True

namespace Matcher

/-- The matcher that an operator makes of a reference. -/
inductive Made : Operator → Json → Matcher → Prop where
  | equal (reference : Json) (nonNull : reference ≠ .null) :
      Made .eq reference (.equal (.ofJson reference))
  | notEqual (reference : Json) (nonNull : reference ≠ .null) :
      Made .ne reference (.notEqual (.ofJson reference))
  | memberOf (items : List Json) : Made .isIn (.array items) (.memberOf (Value.ofItems items))
  | order (relation : Relation) (n : JsonNumber) :
      Made relation.operator (.number n) (.order relation n.toBinary64)
  | text (relation : TextRelation) (s : String) :
      Made relation.operator (.string s) (.text relation s)
  | regexp (s : String) (pattern : Regex.Pattern) (parsed : Regex.Pattern.parse? s = some pattern) :
      Made .regexp (.string s) (.regexp pattern)
  | isNull (reference : Json) : Made .isNull reference .isNull
  | isNotNull (reference : Json) : Made .isNotNull reference .isNotNull

variable {operator : Operator} {reference : Json} {matcher : Matcher}

theorem nonNull_eq_ok_iff {value : Value} :
    nonNull operator reference = .ok value ↔ reference ≠ .null ∧ .ofJson reference = value := by
  cases reference <;> simp [nonNull]

theorem numeric_eq_ok_iff {x : Binary64} :
    numeric operator reference = .ok x ↔ ∃ n, reference = .number n ∧ n.toBinary64 = x := by
  cases reference <;> simp [numeric]

theorem string_eq_ok_iff {s : String} :
    string operator reference = .ok s ↔ reference = .string s := by
  cases reference <;> simp [string]

theorem array_eq_ok_iff {values : List Value} :
    array operator reference = .ok values ↔
      ∃ items, reference = .array items ∧ Value.ofItems items = values := by
  cases reference <;> simp [array]

theorem pattern_eq_ok_iff {text : String} {parsed : Regex.Pattern} :
    pattern text = .ok parsed ↔ Regex.Pattern.parse? text = some parsed := by
  rw [pattern]
  split
  case h_1 _ found => simp [found]
  case h_2 missing => simp [missing]

/-- What the compilation gives is the matcher that is made of the reference. -/
theorem made_of_compile (compiled : compile operator reference = .ok matcher) :
    Made operator reference matcher := by
  -- The orderings are compiled alike, and so are the relations to texts.
  have ordered : ∀ relation : Relation,
      (numeric relation.operator reference).map (.order relation) = .ok matcher →
        Made relation.operator reference matcher := by
    intro relation made
    obtain ⟨x, found, rfl⟩ := map_eq_ok_iff.1 made
    obtain ⟨n, rfl, rfl⟩ := numeric_eq_ok_iff.1 found
    exact .order relation n
  have texts : ∀ relation : TextRelation,
      (string relation.operator reference).map (.text relation) = .ok matcher →
        Made relation.operator reference matcher := by
    intro relation made
    obtain ⟨s, found, rfl⟩ := map_eq_ok_iff.1 made
    obtain rfl := string_eq_ok_iff.1 found
    exact .text relation s
  cases operator with
  | eq =>
    obtain ⟨value, found, rfl⟩ := map_eq_ok_iff.1 compiled
    obtain ⟨nonNull, rfl⟩ := nonNull_eq_ok_iff.1 found
    exact .equal reference nonNull
  | ne =>
    obtain ⟨value, found, rfl⟩ := map_eq_ok_iff.1 compiled
    obtain ⟨nonNull, rfl⟩ := nonNull_eq_ok_iff.1 found
    exact .notEqual reference nonNull
  | eqFold => exact texts .equalFold compiled
  | lt => exact ordered .less compiled
  | lte => exact ordered .atMost compiled
  | gt => exact ordered .greater compiled
  | gte => exact ordered .atLeast compiled
  | startsWith => exact texts .startsWith compiled
  | endsWith => exact texts .endsWith compiled
  | contains => exact texts .contains compiled
  | regexp =>
    obtain ⟨s, found, made⟩ := bind_eq_ok_iff.1 compiled
    obtain ⟨pattern, parsed, made⟩ := bind_eq_ok_iff.1 made
    obtain rfl := string_eq_ok_iff.1 found
    cases made
    exact .regexp s pattern (pattern_eq_ok_iff.1 parsed)
  | isIn =>
    obtain ⟨values, found, rfl⟩ := map_eq_ok_iff.1 compiled
    obtain ⟨items, rfl, rfl⟩ := array_eq_ok_iff.1 found
    exact .memberOf items
  | isNull =>
    cases compiled
    exact .isNull reference
  | isNotNull =>
    cases compiled
    exact .isNotNull reference

/-- The compilation gives the matcher that is made of the reference, and fails only if there is
none. -/
theorem compile_eq_ok_iff :
    compile operator reference = .ok matcher ↔ Made operator reference matcher := by
  constructor
  · exact made_of_compile
  · intro made
    cases made with
    | equal reference nonNull => exact map_eq_ok_iff.2 ⟨_, nonNull_eq_ok_iff.2 ⟨nonNull, rfl⟩, rfl⟩
    | notEqual reference nonNull =>
      exact map_eq_ok_iff.2 ⟨_, nonNull_eq_ok_iff.2 ⟨nonNull, rfl⟩, rfl⟩
    | memberOf items => rfl
    | order relation n => cases relation <;> rfl
    | text relation s => cases relation <;> rfl
    | regexp s pattern parsed =>
      exact bind_eq_ok_iff.2 ⟨s, rfl, bind_eq_ok_iff.2 ⟨pattern, pattern_eq_ok_iff.2 parsed, rfl⟩⟩
    | isNull reference => rfl
    | isNotNull reference => rfl

/-- An operator takes the references of which it makes a matcher. -/
theorem exists_made_iff :
    (∃ matcher, Made operator reference matcher) ↔ operator.Takes reference := by
  constructor
  · rintro ⟨matcher, made⟩
    cases made with
    | equal reference nonNull => exact nonNull
    | notEqual reference nonNull => exact nonNull
    | memberOf items => exact ⟨items, rfl⟩
    | order relation n => cases relation <;> exact ⟨n, rfl⟩
    | text relation s => cases relation <;> exact ⟨s, rfl⟩
    | regexp s pattern parsed => exact ⟨s, pattern, rfl, parsed⟩
    | isNull reference => trivial
    | isNotNull reference => trivial
  · intro takes
    have ordered : ∀ relation : Relation, (∃ n, reference = .number n) →
        ∃ matcher, Made relation.operator reference matcher := by
      rintro relation ⟨n, rfl⟩
      exact ⟨_, .order relation n⟩
    have texts : ∀ relation : TextRelation, (∃ s, reference = .string s) →
        ∃ matcher, Made relation.operator reference matcher := by
      rintro relation ⟨s, rfl⟩
      exact ⟨_, .text relation s⟩
    cases operator with
    | eq => exact ⟨_, .equal reference takes⟩
    | ne => exact ⟨_, .notEqual reference takes⟩
    | eqFold => exact texts .equalFold takes
    | lt => exact ordered .less takes
    | lte => exact ordered .atMost takes
    | gt => exact ordered .greater takes
    | gte => exact ordered .atLeast takes
    | startsWith => exact texts .startsWith takes
    | endsWith => exact texts .endsWith takes
    | contains => exact texts .contains takes
    | regexp =>
      obtain ⟨s, pattern, rfl, parsed⟩ := takes
      exact ⟨_, .regexp s pattern parsed⟩
    | isIn =>
      obtain ⟨items, rfl⟩ := takes
      exact ⟨_, .memberOf items⟩
    | isNull => exact ⟨_, .isNull reference⟩
    | isNotNull => exact ⟨_, .isNotNull reference⟩

end Matcher

end RecordFilter
