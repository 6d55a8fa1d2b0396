import RecordFilter.Proofs.Number.Rounding

set_option autoImplicit false

/-!
# Documents up to the signs of zeros

Equality of documents is not identity, as `0.0` and `-0.0` are equal wherever they stand. They are
the only documents that it identifies: documents are equal exactly if they are the same once every
zero has lost its sign (`Json.equals_iff`). For doubles this is because a number that is not zero
has one representation (`Binary64.plainZero_eq_iff`).
-/

namespace RecordFilter

/-! ## Doubles -/

namespace Binary64

variable {x y : Binary64}

/-- The number with a zero's sign removed. -/
def plainZero (x : Binary64) : Binary64 := if x.magnitude = 0 then zero else x

theorem plainZero_of_magnitude_eq (none : x.magnitude = 0) : x.plainZero = zero := if_pos none

theorem isFinite_plainZero (finite : x.isFinite = true) : x.plainZero.isFinite = true := by
  rw [plainZero]
  split
  · decide
  · exact finite

/-- The sign of a zero does not count. -/
theorem units_plainZero (x : Binary64) : x.plainZero.units = x.units := by
  rw [plainZero]
  split
  case isTrue none =>
    have size : x.units.natAbs = 0 := by rw [natAbs_units, none]; decide
    rw [Int.natAbs_eq_zero.1 size]
    decide
  case isFalse => rfl

/-- A double is its sign and its magnitude. -/
theorem ofMagnitude_self (x : Binary64) : ofMagnitude x.isNegative x.magnitude = x := by
  have word : UInt64.size = 2 * signBit := by decide
  have fits : x.bits.toNat < 2 * signBit := word ▸ x.bits.toNat_lt_size
  have small : x.magnitude < signBit := Nat.mod_lt _ (by decide)
  -- Above the sign bit the magnitude is what is left of the word, below it the word itself.
  have same : (ofMagnitude x.isNegative x.magnitude).bits.toNat = x.bits.toNat := by
    rw [toNat_bits_ofMagnitude small, isNegative, magnitude]
    by_cases negative : signBit ≤ x.bits.toNat
    · rw [if_pos (decide_eq_true negative), Nat.mod_eq_sub_mod negative,
        Nat.mod_eq_of_lt (by omega), Nat.add_sub_of_le negative]
    · rw [if_neg (by simpa using negative), Nat.mod_eq_of_lt (Nat.lt_of_not_le negative)]
  exact congrArg Binary64.mk (UInt64.toNat_inj.1 same)

/-- Doubles with the same value have the same magnitude. -/
theorem magnitude_eq_of_units_eq (same : x.units = y.units) : x.magnitude = y.magnitude := by
  have sizes : magnitudeUnits x.magnitude = magnitudeUnits y.magnitude := by
    rw [← natAbs_units, ← natAbs_units, same]
  rcases Nat.lt_trichotomy x.magnitude y.magnitude with lt | eq | gt
  · exact absurd sizes (Nat.ne_of_lt (magnitudeUnits_lt lt))
  · exact eq
  · exact absurd sizes (Nat.ne_of_gt (magnitudeUnits_lt gt))

/-- The value of a number that is not zero shows its sign. -/
theorem isNegative_iff (some : x.magnitude ≠ 0) : x.isNegative = true ↔ x.units < 0 := by
  have positive : 0 < magnitudeUnits x.magnitude := by
    have lt := magnitudeUnits_lt (Nat.pos_of_ne_zero some)
    omega
  rw [units]
  cases x.isNegative with
  | true => simp [positive]
  | false => simp

/-- Doubles have the same value exactly if they are the same up to the sign of a zero. -/
theorem plainZero_eq_iff : x.plainZero = y.plainZero ↔ x.units = y.units := by
  constructor
  · intro same
    rw [← units_plainZero x, ← units_plainZero y, same]
  · intro same
    have size := magnitude_eq_of_units_eq same
    by_cases none : x.magnitude = 0
    · rw [plainZero_of_magnitude_eq none, plainZero_of_magnitude_eq (size ▸ none)]
    · -- The value shows the sign here, so both doubles have the same bits.
      have other : y.magnitude ≠ 0 := size ▸ none
      have sign : x.isNegative = y.isNegative := by
        rw [Bool.eq_iff_iff, isNegative_iff none, isNegative_iff other, same]
      have equal : x = y := by rw [← ofMagnitude_self x, sign, size, ofMagnitude_self]
      rw [equal]

theorem equals_iff (left : x.isNaN = false) (right : y.isNaN = false) :
    x.equals y = true ↔ x.plainZero = y.plainZero := by
  rw [equals, beq_iff_eq, compare?_eq_some_iff, Int.compare_eq_eq, plainZero_eq_iff]
  exact ⟨fun same => same.2.2, fun same => ⟨left, right, same⟩⟩

end Binary64

/-! ## Numbers of documents -/

namespace JsonNumber

/-- The number with a zero's sign removed. The integer zero has none. -/
def plainZero : JsonNumber → JsonNumber
  | .integer i => .integer i
  | .real x finite => .real x.plainZero (Binary64.isFinite_plainZero finite)

theorem equals_iff {m n : JsonNumber} : m.equals n = true ↔ m.plainZero = n.plainZero := by
  cases m with
  | integer i =>
    cases n with
    | integer j =>
      obtain ⟨i, hi⟩ := i
      obtain ⟨j, hj⟩ := j
      simp [equals, plainZero]
    | real y hy => simp [equals, plainZero]
  | real x hx =>
    cases n with
    | integer j => simp [equals, plainZero]
    | real y hy =>
      simp only [equals, plainZero, real.injEq]
      exact Binary64.equals_iff (Binary64.isNaN_of_isFinite hx) (Binary64.isNaN_of_isFinite hy)

end JsonNumber

/-! ## Documents -/

namespace Json

mutual

/-- The document with the signs of all its zeros removed. -/
def plainZeros : Json → Json
  | .null => .null
  | .bool b => .bool b
  | .number n => .number n.plainZero
  | .string s => .string s
  | .array items => .array (plainZerosItems items)
  | .object members => .object (plainZerosMembers members)

/-- The items of an array without signs of zeros. -/
def plainZerosItems : List Json → List Json
  | [] => []
  | x :: xs => plainZeros x :: plainZerosItems xs

/-- The members of an object without signs of zeros. -/
def plainZerosMembers : List (String × Json) → List (String × Json)
  | [] => []
  | (key, x) :: xs => (key, plainZeros x) :: plainZerosMembers xs

end

mutual

/-- Documents are equal exactly if they are the same up to the signs of zeros. -/
theorem equals_iff : ∀ {a b : Json}, a.equals b = true ↔ a.plainZeros = b.plainZeros
  | .null, b => by cases b <;> simp [equals, plainZeros]
  | .bool p, b => by cases b <;> simp [equals, plainZeros]
  | .number m, b => by cases b <;> simp [equals, plainZeros, JsonNumber.equals_iff]
  | .string s, b => by cases b <;> simp [equals, plainZeros]
  | .array xs, b => by
    cases b with
    | array ys => rw [equals, plainZeros, plainZeros, equalsItems_iff, array.injEq]
    | _ => simp [equals, plainZeros]
  | .object xs, b => by
    cases b with
    | object ys => rw [equals, plainZeros, plainZeros, equalsMembers_iff, object.injEq]
    | _ => simp [equals, plainZeros]

theorem equalsItems_iff : ∀ {xs ys : List Json},
    equalsItems xs ys = true ↔ plainZerosItems xs = plainZerosItems ys
  | [], ys => by cases ys <;> simp [equalsItems, plainZerosItems]
  | x :: xs, ys => by
    cases ys with
    | nil => simp [equalsItems, plainZerosItems]
    | cons y ys =>
      rw [equalsItems, plainZerosItems, plainZerosItems, Bool.and_eq_true, equals_iff,
        equalsItems_iff, List.cons.injEq]

theorem equalsMembers_iff : ∀ {xs ys : List (String × Json)},
    equalsMembers xs ys = true ↔ plainZerosMembers xs = plainZerosMembers ys
  | [], ys => by cases ys <;> simp [equalsMembers, plainZerosMembers]
  | (j, x) :: xs, ys => by
    cases ys with
    | nil => simp [equalsMembers, plainZerosMembers]
    | cons y ys =>
      rw [equalsMembers, plainZerosMembers, plainZerosMembers, Bool.and_eq_true, Bool.and_eq_true,
        beq_iff_eq, equals_iff, equalsMembers_iff, List.cons.injEq, Prod.mk.injEq]

end

end Json

end RecordFilter
