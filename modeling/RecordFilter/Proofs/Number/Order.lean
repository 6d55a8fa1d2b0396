import RecordFilter.Proofs.Number.Rounding

set_option autoImplicit false

/-!
# The order of numbers

Numbers of all kinds are in one strict order (`Number.compare?_laws`), although two integers of one
kind compare exactly and all other pairs by their doubles. The two ways fit together because
rounding keeps the order: the lesser of two numbers never has the greater double
(`Number.units_le_of_lt`), and a number with the lesser double is less
(`Number.compare?_of_units_lt`).
-/

namespace RecordFilter.Number

/-- The integer that a number of an integer kind is. -/
def integer? : Number → Option Int
  | .signed i => some i.toInt
  | .unsigned n => some n.toNat
  | .real _ => none

variable {u v w : Number}

theorem toBinary64_of_integer {i : Int} (integer : v.integer? = some i) :
    v.toBinary64 = .ofInt i := by
  cases v with
  | real x => cases integer
  | signed j =>
    cases integer
    rfl
  | unsigned n =>
    cases integer
    rfl

theorem OneKind.trans (first : v.OneKind w) (second : w.OneKind u) : v.OneKind u := by
  cases v <;> cases w <;> cases u <;> simp_all [OneKind]

/-- Integers of one kind compare as the integers that they are. -/
theorem exists_integers_of_oneKind (oneKind : v.OneKind w) :
    ∃ i j, v.integer? = some i ∧ w.integer? = some j ∧ v.compare? w = some (compare i j) := by
  cases v with
  | real x => cases oneKind
  | signed i =>
    cases w with
    | signed j => exact ⟨i.toInt, j.toInt, rfl, rfl, rfl⟩
    | _ => cases oneKind
  | unsigned m =>
    cases w with
    | unsigned n =>
      refine ⟨m.toNat, n.toNat, rfl, rfl, ?_⟩
      rw [compare?, Int.compare_eq_ite_lt, Nat.compare_eq_ite_lt]
      simp only [Int.ofNat_lt]
    | _ => cases oneKind

theorem compare?_of_integers {i j : Int} (oneKind : v.OneKind w) (left : v.integer? = some i)
    (right : w.integer? = some j) : v.compare? w = some (compare i j) := by
  obtain ⟨i', j', left', right', compared⟩ := exists_integers_of_oneKind oneKind
  rw [left] at left'
  rw [right] at right'
  cases left'
  cases right'
  exact compared

/-- Two numbers compare unless one of them is a NaN. -/
theorem compare?_eq_none_iff : v.compare? w = none ↔ v.IsNaN ∨ w.IsNaN := by
  by_cases oneKind : v.OneKind w
  case pos =>
    obtain ⟨i, j, -, -, compared⟩ := exists_integers_of_oneKind oneKind
    have left := not_isNaN_of_oneKind oneKind
    have right := not_isNaN_of_oneKind (oneKind_comm.1 oneKind)
    simp [compared, left, right]
  case neg =>
    rw [compare?_of_not_oneKind oneKind, Binary64.compare?_eq_none_iff, isNaN_iff, isNaN_iff]

/-- The lesser of two numbers has the lesser double, or both are integers of one kind, which may
have the same one. -/
theorem units_le_of_lt (lt : v.compare? w = some .lt) :
    v.toBinary64.units ≤ w.toBinary64.units ∧
      (¬v.OneKind w → v.toBinary64.units < w.toBinary64.units) := by
  by_cases oneKind : v.OneKind w
  case pos =>
    obtain ⟨i, j, left, right, compared⟩ := exists_integers_of_oneKind oneKind
    rw [compared, Option.some_inj, Int.compare_eq_lt] at lt
    rw [toBinary64_of_integer left, toBinary64_of_integer right]
    exact ⟨Binary64.units_ofInt_mono (Int.le_of_lt lt), fun mixed => absurd oneKind mixed⟩
  case neg =>
    rw [compare?_of_not_oneKind oneKind, Binary64.compare?_eq_some_iff, Int.compare_eq_lt] at lt
    exact ⟨Int.le_of_lt lt.2.2, fun _ => lt.2.2⟩

/-- The number with the lesser double is less. -/
theorem compare?_of_units_lt (left : ¬v.IsNaN) (right : ¬w.IsNaN)
    (lt : v.toBinary64.units < w.toBinary64.units) : v.compare? w = some .lt := by
  by_cases oneKind : v.OneKind w
  case pos =>
    obtain ⟨i, j, first, second, compared⟩ := exists_integers_of_oneKind oneKind
    rw [toBinary64_of_integer first, toBinary64_of_integer second] at lt
    rw [compared, Option.some_inj, Int.compare_eq_lt]
    exact Binary64.lt_of_units_ofInt_lt lt
  case neg =>
    rw [isNaN_iff, Bool.not_eq_true] at left right
    rw [compare?_of_not_oneKind oneKind, Binary64.compare?_eq_some_iff, Int.compare_eq_lt]
    exact ⟨left, right, lt⟩

/-- A chain of exact comparisons is exact, and in every other chain one link is between doubles, so
that the doubles of the ends differ. -/
theorem compare?_lt_trans (first : v.compare? w = some .lt) (second : w.compare? u = some .lt) :
    v.compare? u = some .lt := by
  by_cases exactly : v.OneKind w ∧ w.OneKind u
  case pos =>
    obtain ⟨i, j, left, middle, compared⟩ := exists_integers_of_oneKind exactly.1
    obtain ⟨j', k, middle', right, compared'⟩ := exists_integers_of_oneKind exactly.2
    rw [middle] at middle'
    cases middle'
    rw [compared, Option.some_inj, Int.compare_eq_lt] at first
    rw [compared', Option.some_inj, Int.compare_eq_lt] at second
    rw [compare?_of_integers (exactly.1.trans exactly.2) left right, Option.some_inj,
      Int.compare_eq_lt]
    exact Int.lt_trans first second
  case neg =>
    have number : ¬v.IsNaN := fun nan => by simp [compare?_eq_none_iff.2 (.inl nan)] at first
    have number' : ¬u.IsNaN := fun nan => by simp [compare?_eq_none_iff.2 (.inr nan)] at second
    obtain ⟨le, lt⟩ := units_le_of_lt first
    obtain ⟨le', lt'⟩ := units_le_of_lt second
    -- In one link the doubles differ, and in neither of them do they decrease.
    apply compare?_of_units_lt number number'
    rcases Classical.not_and_iff_not_or_not.1 exactly with mixed | mixed
    · exact Int.lt_of_lt_of_le (lt mixed) le'
    · exact Int.lt_of_le_of_lt le (lt' mixed)

/-- Numbers of all kinds are in a strict order: comparing the other way round turns the answer
around, only a NaN does not compare, no number is less than itself, and what is less than a lesser
number is less. -/
theorem compare?_laws (a b c : Number) :
    b.compare? a = (a.compare? b).map Ordering.swap ∧
      (a.compare? b = none ↔ a.IsNaN ∨ b.IsNaN) ∧
      a.compare? a ≠ some .lt ∧
      (a.compare? b = some .lt → b.compare? c = some .lt → a.compare? c = some .lt) := by
  refine ⟨compare?_swap a b, compare?_eq_none_iff, ?irreflexive, compare?_lt_trans⟩
  case irreflexive =>
    intro lt
    have swapped := compare?_swap a a
    rw [lt] at swapped
    cases swapped

/-! ## Numbers that round alike -/

/-- The first integer that is not its own double, below an unsigned one: the first comparison is
exact, the other two are not. -/
theorem compare?_laws_neighbours :
    (Number.signed 0x20000000000000).compare? (.signed 0x20000000000001) = some .lt ∧
      (Number.signed 0x20000000000001).compare? (.unsigned 0x20000000000002) = some .lt ∧
      (Number.signed 0x20000000000000).compare? (.unsigned 0x20000000000002) = some .lt := by
  have first : (Number.signed 0x20000000000000).compare? (.signed 0x20000000000001) = some .lt := by
    decide +kernel
  have second :
      (Number.signed 0x20000000000001).compare? (.unsigned 0x20000000000002) = some .lt := by
    decide +kernel
  exact ⟨first, second, (compare?_laws _ _ _).2.2.2 first second⟩

end RecordFilter.Number
