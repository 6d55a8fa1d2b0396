import RecordFilter.Json.Basic

set_option autoImplicit false

/-!
# Numbers and their doubles

Numbers are compared in two ways. `Number.compare?` compares two integers of one kind exactly and
all other pairs by their doubles; the orderings of rules compare the doubles of all pairs. The two
ways differ for integers that round alike (`Number.RoundsAlike`), as large neighbours do, and for no
other numbers (`Number.compare?_eq_iff`).
-/

namespace RecordFilter

/-! ## Doubles -/

namespace Binary64

variable {x y : Binary64}

/-- Doubles compare unless one of them is a NaN. -/
theorem compare?_eq_none_iff : x.compare? y = none ↔ x.isNaN = true ∨ y.isNaN = true := by
  rw [compare?, ← Bool.or_eq_true]
  split
  case isTrue nan => simp [nan]
  case isFalse number => simp [number]

theorem compare?_eq_some_iff {order : Ordering} :
    x.compare? y = some order ↔
      x.isNaN = false ∧ y.isNaN = false ∧ compare x.units y.units = order := by
  rw [compare?]
  cases x.isNaN <;> cases y.isNaN <;> simp

/-- Equality of doubles is transitive. -/
theorem compare?_eq_trans {z : Binary64} (first : x.compare? y = some .eq)
    (second : y.compare? z = some .eq) : x.compare? z = some .eq := by
  obtain ⟨left, -, same⟩ := compare?_eq_some_iff.1 first
  obtain ⟨-, right, same'⟩ := compare?_eq_some_iff.1 second
  rw [Int.compare_eq_eq] at same same'
  exact compare?_eq_some_iff.2 ⟨left, right, Int.compare_eq_eq.2 (same.trans same')⟩

theorem compare?_self (number : x.isNaN = false) : x.compare? x = some .eq := by
  rw [compare?, number]
  simp

theorem compare?_swap (x y : Binary64) : y.compare? x = (x.compare? y).map Ordering.swap := by
  rw [compare?, compare?, Bool.or_comm]
  split
  · rfl
  · rw [Option.map_some, Int.compare_swap]

theorem toNat_bits_ofMagnitude {negative : Bool} {m : Nat} (small : m < signBit) :
    (ofMagnitude negative m).bits.toNat = if negative then signBit + m else m := by
  -- The sign bit stands above the magnitude, and both fit into a word.
  have signed : signBit + signBit = UInt64.size := by decide
  apply UInt64.toNat_ofNat_of_lt'
  split <;> omega

theorem magnitude_ofMagnitude {negative : Bool} {m : Nat} (small : m < signBit) :
    (ofMagnitude negative m).magnitude = m := by
  rw [magnitude, toNat_bits_ofMagnitude small]
  split
  · rw [Nat.add_mod_left, Nat.mod_eq_of_lt small]
  · exact Nat.mod_eq_of_lt small

theorem isNegative_ofMagnitude {negative : Bool} {m : Nat} (small : m < signBit) :
    (ofMagnitude negative m).isNegative = negative := by
  rw [isNegative, toNat_bits_ofMagnitude small]
  cases negative with
  | false => simpa using small
  | true => simp

theorem isNaN_ofMagnitude {negative : Bool} {m : Nat} (number : m ≤ infiniteMagnitude) :
    (ofMagnitude negative m).isNaN = false := by
  have small : infiniteMagnitude < signBit := by decide
  rw [isNaN, magnitude_ofMagnitude (Nat.lt_of_le_of_lt number small)]
  exact decide_eq_false (Nat.not_lt.2 number)

/-- An integer rounds to a double or to an infinity. -/
theorem isNaN_ofInt (i : Int) : (ofInt i).isNaN = false :=
  isNaN_ofMagnitude (Nat.min_le_left _ _)

theorem isNaN_of_isFinite (finite : x.isFinite = true) : x.isNaN = false := by
  rw [isFinite, decide_eq_true_iff] at finite
  rw [isNaN]
  exact decide_eq_false (Nat.lt_asymm finite)

end Binary64

/-! ## Numbers of documents -/

namespace JsonNumber

/-- A number of a document has the same double as the number that fields are compared with. -/
theorem toBinary64_toNumber (n : JsonNumber) : n.toNumber.toBinary64 = n.toBinary64 := by
  cases n with
  | real x finite => rfl
  | integer i =>
    obtain ⟨i, lower, upper⟩ := i
    simp only [toNumber, toBinary64]
    split
    case isTrue signed =>
      rw [Number.toBinary64, Int64.toInt_ofInt_of_le lower signed]
    case isFalse unsigned =>
      have word : i.toNat < UInt64.size := by
        have size : UInt64.size = 0x10000000000000000 := by decide
        omega
      have natural : (i.toNat : Int) = i := Int.toNat_of_nonneg (by omega)
      rw [Number.toBinary64, UInt64.toNat_ofNat_of_lt' word, natural]

/-- Documents have no NaNs. -/
theorem isNaN_toBinary64 (n : JsonNumber) : n.toBinary64.isNaN = false := by
  cases n with
  | integer i => exact Binary64.isNaN_ofInt i.value
  | real x finite => exact Binary64.isNaN_of_isFinite finite

end JsonNumber

/-! ## Numbers of fields -/

namespace Number

/-- Not a number. -/
def IsNaN : Number → Prop
  | .real x => x.isNaN = true
  | _ => False

theorem isNaN_iff {v : Number} : v.IsNaN ↔ v.toBinary64.isNaN = true := by
  cases v with
  | real x => exact Iff.rfl
  | signed i => simp [IsNaN, toBinary64, Binary64.isNaN_ofInt]
  | unsigned n => simp [IsNaN, toBinary64, Binary64.isNaN_ofInt]

/-- Both are signed integers, or both are unsigned ones. -/
def OneKind : Number → Number → Prop
  | .signed _, .signed _ | .unsigned _, .unsigned _ => True
  | _, _ => False

theorem oneKind_comm {v w : Number} : v.OneKind w ↔ w.OneKind v := by
  cases v <;> cases w <;> simp [OneKind]

/-- Different integers of one kind that round to the same double. -/
structure RoundsAlike (v w : Number) : Prop where
  oneKind : v.OneKind w
  different : v ≠ w
  equal : v.toBinary64.compare? w.toBinary64 = some .eq

variable {v w : Number}

/-- Integers of one kind compare exactly. -/
theorem compare?_eq_iff_of_oneKind (oneKind : v.OneKind w) :
    v.compare? w = some .eq ↔ v = w := by
  cases v with
  | real x => cases oneKind
  | signed i =>
    cases w with
    | signed j => simp [compare?, Int64.toInt_inj]
    | _ => cases oneKind
  | unsigned m =>
    cases w with
    | unsigned n => simp [compare?, UInt64.toNat_inj]
    | _ => cases oneKind

theorem compare?_of_not_oneKind (mixed : ¬v.OneKind w) :
    v.compare? w = v.toBinary64.compare? w.toBinary64 := by
  cases v with
  | real x => rfl
  | signed i =>
    cases w with
    | signed j => exact absurd trivial mixed
    | _ => rfl
  | unsigned m =>
    cases w with
    | unsigned n => exact absurd trivial mixed
    | _ => rfl

theorem not_isNaN_of_oneKind (oneKind : v.OneKind w) : ¬v.IsNaN := by
  cases v with
  | real x => cases oneKind
  | _ => exact not_false

/-- Two numbers are equal if their doubles are, except integers that round alike. -/
theorem compare?_eq_iff :
    v.compare? w = some .eq ↔
      v.toBinary64.compare? w.toBinary64 = some .eq ∧ ¬v.RoundsAlike w := by
  by_cases oneKind : v.OneKind w
  case pos =>
    rw [compare?_eq_iff_of_oneKind oneKind]
    constructor
    · rintro rfl
      have number := not_isNaN_of_oneKind oneKind
      rw [isNaN_iff, Bool.not_eq_true] at number
      exact ⟨Binary64.compare?_self number, fun alike => alike.different rfl⟩
    · rintro ⟨equal, apart⟩
      by_cases same : v = w
      case pos => exact same
      case neg => exact absurd ⟨oneKind, same, equal⟩ apart
  case neg =>
    rw [compare?_of_not_oneKind oneKind]
    exact ⟨fun equal => ⟨equal, fun alike => oneKind alike.oneKind⟩, fun both => both.1⟩

/-- Comparing two numbers the other way round turns the answer around. -/
theorem compare?_swap (v w : Number) : w.compare? v = (v.compare? w).map Ordering.swap := by
  by_cases oneKind : v.OneKind w
  case pos =>
    cases v with
    | real x => cases oneKind
    | signed i =>
      cases w with
      | signed j => rw [compare?, compare?, Option.map_some, Int.compare_swap]
      | _ => cases oneKind
    | unsigned m =>
      cases w with
      | unsigned n => rw [compare?, compare?, Option.map_some, Nat.compare_swap]
      | _ => cases oneKind
  case neg =>
    have mixed : ¬w.OneKind v := fun other => oneKind (oneKind_comm.1 other)
    rw [compare?_of_not_oneKind oneKind, compare?_of_not_oneKind mixed, Binary64.compare?_swap]

/-- Two numbers that are both equal to a third are equal unless they round alike. -/
theorem compare?_chain_iff {u : Number} (first : v.compare? w = some .eq)
    (second : w.compare? u = some .eq) : v.compare? u = some .eq ↔ ¬v.RoundsAlike u := by
  obtain ⟨left, -⟩ := compare?_eq_iff.1 first
  obtain ⟨right, -⟩ := compare?_eq_iff.1 second
  rw [compare?_eq_iff]
  exact and_iff_right (Binary64.compare?_eq_trans left right)

/-- A number compares with itself unless it is a NaN. -/
theorem compare?_self_iff : v.compare? v = some .eq ↔ ¬v.IsNaN := by
  rw [isNaN_iff, compare?_eq_iff]
  constructor
  · rintro ⟨equal, -⟩ nan
    rw [Binary64.compare?_eq_none_iff.2 (.inl nan)] at equal
    cases equal
  · intro number
    rw [Bool.not_eq_true] at number
    exact ⟨Binary64.compare?_self number, fun alike => alike.different rfl⟩

end Number

end RecordFilter
