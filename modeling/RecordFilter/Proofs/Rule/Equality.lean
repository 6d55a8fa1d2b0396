import RecordFilter.Proofs.Json.Equality
import RecordFilter.Proofs.Rule.Compilation

set_option autoImplicit false

/-!
# Equality of rules

Rules are equal when they have the same field, operator and reference. Equal references are not
always the same document: zeros of both signs are equal, inside arrays and objects too. No matcher
tells them apart (`Matcher.evaluate_of_equals`), so equal rules accept the same values
(`Rule.evaluate_of_equals`) and every record answers them alike (`Rule.accepts_of_equals`).
-/

namespace RecordFilter

/-! ## Numbers -/

namespace Binary64

variable {x y : Binary64}

/-- Equal doubles are numbers of the same size, though the bits of zeros may differ. -/
theorem equals_eq_true_iff :
    x.equals y = true ↔ x.isNaN = false ∧ y.isNaN = false ∧ x.units = y.units := by
  rw [equals, compare?]
  cases x.isNaN with
  | true => simp
  | false =>
    cases y.isNaN with
    | true => simp
    | false => simp

theorem compare?_of_equals (same : x.equals y = true) (z : Binary64) :
    z.compare? x = z.compare? y := by
  obtain ⟨left, right, units⟩ := equals_eq_true_iff.1 same
  rw [compare?, compare?, left, right, units]

theorem toInt64Clamped_of_equals (same : x.equals y = true) :
    x.toInt64Clamped = y.toInt64Clamped := by
  obtain ⟨left, right, units⟩ := equals_eq_true_iff.1 same
  rw [toInt64Clamped, toInt64Clamped, left, right, truncate, truncate, units]

end Binary64

namespace JsonNumber

variable {m n : JsonNumber}

/-- Equal numbers are the same integer or equal doubles. -/
theorem equals_cases (same : m.equals n = true) :
    m = n ∨ ∃ x y hx hy, m = .real x hx ∧ n = .real y hy ∧ x.equals y = true := by
  cases m with
  | integer i =>
    cases n with
    | integer j =>
      obtain ⟨i, hi⟩ := i
      obtain ⟨j, hj⟩ := j
      obtain rfl : i = j := eq_of_beq same
      exact .inl rfl
    | real y hy => cases same
  | real x hx =>
    cases n with
    | integer j => cases same
    | real y hy => exact .inr ⟨x, y, hx, hy, rfl, rfl, same⟩

theorem compare?_toNumber (same : m.equals n = true) (v : Number) :
    v.compare? m.toNumber = v.compare? n.toNumber := by
  rcases equals_cases same with rfl | ⟨x, y, hx, hy, rfl, rfl, same⟩
  · rfl
  · cases v with
    | signed i => exact Binary64.compare?_of_equals same _
    | unsigned i => exact Binary64.compare?_of_equals same _
    | real z => exact Binary64.compare?_of_equals same z

end JsonNumber

/-! ## Values of documents -/

namespace Value

mutual

/-- Equal documents are loosely equal to the same values. -/
theorem looselyEquals_ofJson : ∀ (a : Json) {b : Json}, a.equals b = true →
    ∀ value : Value, value.looselyEquals (ofJson a) = value.looselyEquals (ofJson b)
  | .null, b, same, value => by
    cases b with
    | null => rfl
    | _ => simp [Json.equals] at same
  | .bool c, b, same, value => by
    cases b with
    | bool d =>
      rw [Json.equals] at same
      rw [eq_of_beq same]
    | _ => simp [Json.equals] at same
  | .number m, b, same, value => by
    cases b with
    | number n =>
      rw [Json.equals] at same
      rw [ofJson, ofJson]
      cases value with
      | number v => rw [looselyEquals, looselyEquals, JsonNumber.compare?_toNumber same]
      | _ => rfl
    | _ => simp [Json.equals] at same
  | .string s, b, same, value => by
    cases b with
    | string t =>
      rw [Json.equals] at same
      rw [eq_of_beq same]
    | _ => simp [Json.equals] at same
  | .array xs, b, same, value => by
    cases b with
    | array ys =>
      rw [Json.equals] at same
      rw [ofJson, ofJson]
      cases value with
      | sequence items => rw [looselyEquals, looselyEquals, itemsLooselyEqual_ofItems xs same]
      | _ => rfl
    | _ => simp [Json.equals] at same
  | .object xs, b, same, value => by
    cases b with
    | object ys =>
      rw [Json.equals] at same
      rw [ofJson, ofJson]
      cases value with
      | map entries => rw [looselyEquals, looselyEquals, entriesLooselyEqual_ofMembers xs same]
      | _ => rfl
    | _ => simp [Json.equals] at same

theorem itemsLooselyEqual_ofItems : ∀ (xs : List Json) {ys : List Json},
    Json.equalsItems xs ys = true → ∀ items : List Value,
      itemsLooselyEqual items (ofItems xs) = itemsLooselyEqual items (ofItems ys)
  | [], ys, same, items => by
    cases ys with
    | nil => rfl
    | cons y ys => simp [Json.equalsItems] at same
  | x :: xs, ys, same, items => by
    cases ys with
    | nil => simp [Json.equalsItems] at same
    | cons y ys =>
      rw [Json.equalsItems, Bool.and_eq_true] at same
      rw [ofItems, ofItems]
      cases items with
      | nil => rfl
      | cons item items =>
        rw [itemsLooselyEqual, itemsLooselyEqual, looselyEquals_ofJson x same.1,
          itemsLooselyEqual_ofItems xs same.2]

theorem entriesLooselyEqual_ofMembers : ∀ (xs : List (String × Json)) {ys : List (String × Json)},
    Json.equalsMembers xs ys = true → ∀ entries : List (String × Value),
      entriesLooselyEqual entries (ofMembers xs) = entriesLooselyEqual entries (ofMembers ys)
  | [], ys, same, entries => by
    cases ys with
    | nil => rfl
    | cons y ys => simp [Json.equalsMembers] at same
  | (j, x) :: xs, ys, same, entries => by
    cases ys with
    | nil => simp [Json.equalsMembers] at same
    | cons y ys =>
      rw [Json.equalsMembers, Bool.and_eq_true, Bool.and_eq_true] at same
      rw [ofMembers, ofMembers]
      cases entries with
      | nil => rfl
      | cons entry entries =>
        rw [entriesLooselyEqual, entriesLooselyEqual, eq_of_beq same.1.1,
          looselyEquals_ofJson x same.1.2, entriesLooselyEqual_ofMembers xs same.2]

end

/-- The items of equal arrays are loosely equal to the same values. -/
theorem any_ofItems {xs ys : List Json} (same : Json.equalsItems xs ys = true) (value : Value) :
    (ofItems xs).any value.looselyEquals = (ofItems ys).any value.looselyEquals := by
  induction xs generalizing ys with
  | nil =>
    cases ys with
    | nil => rfl
    | cons y ys => simp [Json.equalsItems] at same
  | cons x xs ih =>
    cases ys with
    | nil => simp [Json.equalsItems] at same
    | cons y ys =>
      rw [Json.equalsItems, Bool.and_eq_true] at same
      rw [ofItems, ofItems, List.any_cons, List.any_cons, looselyEquals_ofJson x same.1, ih same.2]

end Value

/-! ## Rules -/

namespace Matcher

open Outcome

theorem compareTo_of_equals {x y : Binary64} (same : x.equals y = true) (value : Value) :
    compareTo x value = compareTo y value := by
  cases value with
  | number n => exact Binary64.compare?_of_equals same _
  | _ => simp only [compareTo, Binary64.toInt64Clamped_of_equals same]

variable {operator : Operator} {a b : Json}

/-- What an operator makes of equal references that may not be null is loosely equal to the same
values. -/
theorem looselyEquals_of_nonNull {r s : Value} (same : a.equals b = true)
    (left : nonNull operator a = .ok r) (right : nonNull operator b = .ok s) (value : Value) :
    value.looselyEquals r = value.looselyEquals s := by
  obtain ⟨-, rfl⟩ := nonNull_eq_ok_iff.1 left
  obtain ⟨-, rfl⟩ := nonNull_eq_ok_iff.1 right
  exact Value.looselyEquals_ofJson a same value

theorem compareTo_of_numeric {x y : Binary64} (same : a.equals b = true)
    (left : numeric operator a = .ok x) (right : numeric operator b = .ok y) (value : Value) :
    compareTo x value = compareTo y value := by
  obtain ⟨m, rfl, rfl⟩ := numeric_eq_ok_iff.1 left
  obtain ⟨n, rfl, rfl⟩ := numeric_eq_ok_iff.1 right
  rw [Json.equals] at same
  rcases JsonNumber.equals_cases same with rfl | ⟨x, y, hx, hy, rfl, rfl, same⟩
  · rfl
  · exact compareTo_of_equals same value

theorem eq_of_string {s t : String} (same : a.equals b = true) (left : string operator a = .ok s)
    (right : string operator b = .ok t) : s = t := by
  obtain rfl := string_eq_ok_iff.1 left
  obtain rfl := string_eq_ok_iff.1 right
  rw [Json.equals] at same
  exact eq_of_beq same

theorem any_of_array {xs ys : List Value} (same : a.equals b = true)
    (left : array operator a = .ok xs) (right : array operator b = .ok ys) (value : Value) :
    xs.any value.looselyEquals = ys.any value.looselyEquals := by
  obtain ⟨items, rfl, rfl⟩ := array_eq_ok_iff.1 left
  obtain ⟨others, rfl, rfl⟩ := array_eq_ok_iff.1 right
  rw [Json.equals] at same
  exact Value.any_ofItems same value

/-- The matchers of one operator with equal references match the same values. -/
theorem evaluate_of_equals {m n : Matcher} (same : a.equals b = true)
    (left : compile operator a = .ok m) (right : compile operator b = .ok n) (value : Value) :
    m.evaluate value = n.evaluate value := by
  have ordered : ∀ relation, (numeric operator a).map (.order relation) = .ok m →
      (numeric operator b).map (.order relation) = .ok n → m.evaluate value = n.evaluate value := by
    intro relation left right
    obtain ⟨x, first, rfl⟩ := map_eq_ok_iff.1 left
    obtain ⟨y, second, rfl⟩ := map_eq_ok_iff.1 right
    rw [evaluate, evaluate, compareTo_of_numeric same first second]
  have texts : ∀ relation, (string operator a).map (.text relation) = .ok m →
      (string operator b).map (.text relation) = .ok n → m.evaluate value = n.evaluate value := by
    intro relation left right
    obtain ⟨s, first, rfl⟩ := map_eq_ok_iff.1 left
    obtain ⟨t, second, rfl⟩ := map_eq_ok_iff.1 right
    rw [eq_of_string same first second]
  cases operator with
  | eq =>
    obtain ⟨r, first, rfl⟩ := map_eq_ok_iff.1 left
    obtain ⟨s, second, rfl⟩ := map_eq_ok_iff.1 right
    rw [evaluate, evaluate, looselyEquals_of_nonNull same first second]
  | ne =>
    obtain ⟨r, first, rfl⟩ := map_eq_ok_iff.1 left
    obtain ⟨s, second, rfl⟩ := map_eq_ok_iff.1 right
    simp only [evaluate, looselyEquals_of_nonNull same first second]
  | eqFold => exact texts _ left right
  | lt => exact ordered _ left right
  | lte => exact ordered _ left right
  | gt => exact ordered _ left right
  | gte => exact ordered _ left right
  | startsWith => exact texts _ left right
  | endsWith => exact texts _ left right
  | contains => exact texts _ left right
  | regexp =>
    obtain ⟨s, first, parsed⟩ := bind_eq_ok_iff.1 left
    obtain ⟨t, second, parsed'⟩ := bind_eq_ok_iff.1 right
    rw [eq_of_string same first second, parsed'] at parsed
    cases parsed
    rfl
  | isIn =>
    obtain ⟨xs, first, rfl⟩ := map_eq_ok_iff.1 left
    obtain ⟨ys, second, rfl⟩ := map_eq_ok_iff.1 right
    rw [evaluate, evaluate, any_of_array same first second]
  | isNull =>
    cases left
    cases right
    rfl
  | isNotNull =>
    cases left
    cases right
    rfl

end Matcher

namespace Rule

@[simp]
theorem equals_self (rule : Rule) : rule.equals rule = true := by
  simp [equals]

/-- Equal rules are about one field, and the same values of it satisfy them. -/
theorem evaluate_of_equals {a b : Rule} (same : a.equals b = true) :
    a.field = b.field ∧ ∀ value, a.evaluate value = b.evaluate value := by
  obtain ⟨field, operator, reference, matcher, compiled⟩ := a
  obtain ⟨field', operator', reference', matcher', compiled'⟩ := b
  rw [equals, Bool.and_eq_true, Bool.and_eq_true] at same
  obtain ⟨⟨fields, operators⟩, references⟩ := same
  obtain rfl : operator = operator' := eq_of_beq operators
  exact ⟨eq_of_beq fields, Matcher.evaluate_of_equals references compiled compiled'⟩

/-- Every record answers equal rules alike, also when its accessor fails. -/
theorem accepts_of_equals {α : Type} {a b : Rule} (same : a.equals b = true)
    (accessor : Accessor α) (record : α) :
    a.accepts accessor record = b.accepts accessor record := by
  obtain ⟨field, evaluated⟩ := evaluate_of_equals same
  have evaluate : a.evaluate = b.evaluate := funext evaluated
  rw [accepts, accepts, field, evaluate]

end Rule

end RecordFilter
