import RecordFilter.Proofs.Number.Comparison

set_option autoImplicit false

/-!
# The nearest double

The double of an integer is the one nearest to it, of two equally near ones the one whose
significand is even (`Binary64.isNearest_ofInt`). Nothing else about the rounding is used further
on: nearest doubles are in the order of what they are nearest to (`Binary64.IsNearest.units_le`),
and an integer up to `2^53` is its own double (`Binary64.units_ofInt_of_small`).
-/

namespace RecordFilter

/-! ## Distances -/

/-- Of two candidates for a rounding of `target` the first is taken: it is nearer, or it is even and
as near as the other one. -/
structure Preferred (target first second : Int) (even : Prop) : Prop where
  near : (first - target).natAbs ≤ (second - target).natAbs
  tie : (first - target).natAbs = (second - target).natAbs → first = second ∨ even

namespace Preferred

variable {target first second : Int} {even : Prop}

theorem neg (preferred : Preferred target first second even) :
    Preferred (-target) (-first) (-second) even := by
  obtain ⟨near, tie⟩ := preferred
  constructor
  · omega
  · intro equal
    exact (tie (by omega)).imp_left fun same => by rw [same]

/-- What is preferred to zero is preferred to everything on the other side of zero. -/
theorem of_opposite (preferred : Preferred target first 0 even) (nonneg : 0 ≤ target)
    (nonpos : second ≤ 0) : Preferred target first second even := by
  obtain ⟨near, tie⟩ := preferred
  constructor
  · omega
  · intro equal
    obtain rfl : second = 0 := by omega
    exact tie equal

end Preferred

/-- A quotient is rounded down from less than a half, up from more, and half to the even
neighbour. -/
theorem roundHalfEven_cases (num den : Nat) :
    (roundHalfEven num den = num / den ∧
        (2 * (num % den) < den ∨ 2 * (num % den) = den ∧ num / den % 2 = 0)) ∨
      (roundHalfEven num den = num / den + 1 ∧
        (den < 2 * (num % den) ∨ 2 * (num % den) = den ∧ num / den % 2 = 1)) := by
  simp only [roundHalfEven]
  split
  case isTrue down => exact .inl ⟨rfl, down⟩
  case isFalse up => exact .inr ⟨rfl, by omega⟩

/-- A multiple is one of two neighbours or at least a step away from both. -/
theorem multiple_cases (k n step : Nat) :
    k * step + step ≤ n * step ∨ k = n ∨ k = n + 1 ∨ n * step + 2 * step ≤ k * step := by
  rcases Nat.lt_or_ge k n with less | least
  · have scaled := Nat.mul_le_mul_right step less
    rw [Nat.succ_mul] at scaled
    exact .inl scaled
  rcases Nat.lt_or_ge (n + 1) k with more | most
  · have scaled := Nat.mul_le_mul_right step more
    rw [Nat.succ_mul, Nat.succ_mul] at scaled
    exact .inr (.inr (.inr (by omega)))
  · omega

/-- The multiple that a quotient is rounded to is preferred to every other one. -/
theorem roundHalfEven_preferred (num : Nat) {den : Nat} (positive : 0 < den) (k : Nat) :
    Preferred num (roundHalfEven num den * den : Nat) (k * den : Nat)
      (roundHalfEven num den % 2 = 0) := by
  have whole : num / den * den + num % den = num := Nat.div_add_mod' num den
  have part : num % den < den := Nat.mod_lt num positive
  have above : (num / den + 1) * den = num / den * den + den := Nat.succ_mul _ _
  -- Only the two neighbours of the quotient can be near; the half decides between them.
  rcases roundHalfEven_cases num den with ⟨down, half⟩ | ⟨up, half⟩
  · rw [down]
    rcases multiple_cases k (num / den) den with far | rfl | rfl | far <;> constructor <;> omega
  · rw [up]
    rcases multiple_cases k (num / den) den with far | rfl | rfl | far <;> constructor <;> omega

theorem roundHalfEven_le {num den k : Nat} (positive : 0 < den) (bounded : num ≤ k * den) :
    roundHalfEven num den ≤ k := by
  have near := (roundHalfEven_preferred num positive k).near
  apply Nat.le_of_not_lt
  intro more
  have scaled := Nat.mul_le_mul_right den more
  rw [Nat.succ_mul] at scaled
  omega

theorem le_roundHalfEven {num den k : Nat} (positive : 0 < den) (bounded : k * den ≤ num) :
    k ≤ roundHalfEven num den := by
  have near := (roundHalfEven_preferred num positive k).near
  apply Nat.le_of_not_lt
  intro less
  have scaled := Nat.mul_le_mul_right den less
  rw [Nat.succ_mul] at scaled
  omega

namespace Binary64

/-! ## Magnitudes -/

theorem binade_eq : binade = 0x10000000000000 := by decide

theorem infiniteMagnitude_eq : infiniteMagnitude = 0x7FF0000000000000 := by decide

theorem shiftLeft_le_shiftLeft {n m k : Nat} (le : m ≤ k) : n <<< m ≤ n <<< k := by
  obtain ⟨more, rfl⟩ := Nat.exists_eq_add_of_le le
  rw [Nat.shiftLeft_add]
  exact Nat.le_shiftLeft

theorem shiftLeft_lt_shiftLeft {m n : Nat} (lt : m < n) (k : Nat) : m <<< k < n <<< k := by
  rw [Nat.shiftLeft_eq, Nat.shiftLeft_eq]
  exact Nat.mul_lt_mul_of_pos_right lt (Nat.two_pow_pos k)

theorem shiftLeft_mul (m n k : Nat) : m <<< k * n = m * n <<< k := by
  rw [Nat.shiftLeft_eq, Nat.shiftLeft_eq, Nat.mul_assoc, Nat.mul_comm n]

/-- A significand of `53` bits counts as many units as it is shifted to. The next power of two
stands for the least significand of the next binade. -/
theorem magnitudeUnits_significand {shift significand : Nat}
    (normal : shift = 0 ∨ binade ≤ significand) (bounded : significand ≤ 2 * binade) :
    magnitudeUnits (shift * binade + significand) = significand <<< shift := by
  unfold magnitudeUnits
  rw [binade_eq] at *
  by_cases small : significand < 0x10000000000000
  case pos =>
    obtain rfl : shift = 0 := by omega
    simp [small]
  case neg =>
    rw [if_neg (by omega)]
    by_cases next : significand = 2 * 0x10000000000000
    case pos =>
      have quotient :
          (shift * 0x10000000000000 + significand) / 0x10000000000000 - 1 = shift + 1 := by
        omega
      have remainder : (shift * 0x10000000000000 + significand) % 0x10000000000000 = 0 := by omega
      rw [quotient, remainder, next, Nat.add_zero, Nat.shiftLeft_succ_inside]
    case neg =>
      have quotient : (shift * 0x10000000000000 + significand) / 0x10000000000000 - 1 = shift := by
        omega
      have remainder :
          0x10000000000000 + (shift * 0x10000000000000 + significand) % 0x10000000000000 =
            significand := by
        omega
      rw [quotient, remainder]

/-- A magnitude counts its own units, or it shifts a significand of `53` bits. -/
theorem magnitude_cases (m : Nat) :
    (m < binade ∧ magnitudeUnits m = m) ∨
      ∃ shift significand, m = shift * binade + significand ∧ binade ≤ significand ∧
        significand < 2 * binade ∧ magnitudeUnits m = significand <<< shift := by
  by_cases small : m < binade
  case pos => exact .inl ⟨small, if_pos small⟩
  case neg =>
    refine .inr ⟨m / binade - 1, binade + m % binade, ?_, ?_, ?_, if_neg small⟩ <;>
      rw [binade_eq] at * <;> omega

/-- A significand lies below the binades that are shifted farther. -/
theorem significand_lt_binade {significand own shift : Nat} (short : significand < 2 * binade)
    (less : own < shift) : significand <<< own < binade <<< shift :=
  calc
    significand <<< own < (2 * binade) <<< own := shiftLeft_lt_shiftLeft short own
    _ = binade <<< (own + 1) := (Nat.shiftLeft_succ_inside _ _).symm
    _ ≤ binade <<< shift := shiftLeft_le_shiftLeft less

/-- A greater magnitude counts more units. -/
theorem magnitudeUnits_lt {m n : Nat} (lt : m < n) : magnitudeUnits m < magnitudeUnits n := by
  rcases magnitude_cases m with
    ⟨small, counted⟩ | ⟨shift, significand, parts, long, short, counted⟩ <;>
    rcases magnitude_cases n with
      ⟨small', counted'⟩ | ⟨shift', significand', parts', long', short', counted'⟩ <;>
    rw [counted, counted']
  · exact lt
  · exact Nat.lt_of_lt_of_le small (Nat.le_trans long' Nat.le_shiftLeft)
  · rw [binade_eq] at *
    omega
  · have shifts : shift < shift' ∨ shift = shift' ∧ significand < significand' := by
      rw [binade_eq] at *
      omega
    rcases shifts with finer | ⟨rfl, less⟩
    · apply Nat.lt_of_lt_of_le (significand_lt_binade short finer)
      rw [Nat.shiftLeft_eq, Nat.shiftLeft_eq]
      exact Nat.mul_le_mul_right _ long'
    · exact shiftLeft_lt_shiftLeft less shift

theorem magnitudeUnits_le {m n : Nat} (le : m ≤ n) : magnitudeUnits m ≤ magnitudeUnits n := by
  rcases Nat.lt_or_eq_of_le le with lt | rfl
  · exact Nat.le_of_lt (magnitudeUnits_lt lt)
  · exact Nat.le_refl _

theorem lt_of_magnitudeUnits_lt {m n : Nat} (lt : magnitudeUnits m < magnitudeUnits n) : m < n :=
  Nat.lt_of_not_le fun le => Nat.not_le.2 lt (magnitudeUnits_le le)

/-- What a magnitude counts is a multiple of a given power of two, or it lies below the binade in
which that power is the distance of neighbours. -/
theorem magnitudeUnits_on_grid (m shift : Nat) :
    (∃ k, magnitudeUnits m = k <<< shift) ∨
      shift ≠ 0 ∧ magnitudeUnits m < binade <<< shift := by
  rcases magnitude_cases m with ⟨small, counted⟩ | ⟨own, significand, -, -, short, counted⟩
  · rw [counted]
    by_cases fine : shift = 0
    case pos => exact .inl ⟨m, by rw [fine, Nat.shiftLeft_zero]⟩
    case neg => exact .inr ⟨fine, Nat.lt_of_lt_of_le small Nat.le_shiftLeft⟩
  · rw [counted]
    rcases Nat.lt_or_ge own shift with finer | coarser
    · exact .inr ⟨by omega, significand_lt_binade short finer⟩
    · obtain ⟨more, rfl⟩ := Nat.exists_eq_add_of_le coarser
      rw [Nat.add_comm, Nat.shiftLeft_add]
      exact .inl ⟨_, rfl⟩

theorem magnitudeUnits_infinite : magnitudeUnits infiniteMagnitude = binade <<< 2046 := by
  have parts : infiniteMagnitude = 2046 * binade + binade := by decide
  rw [parts]
  exact magnitudeUnits_significand (.inr (Nat.le_refl _)) (by omega)

/-- Every significand up to `2^53` is counted by a finite magnitude, wherever it is shifted to. -/
theorem exists_magnitudeUnits {shift significand : Nat} (bounded : significand ≤ 2 * binade)
    (finite : shift ≤ 2045) :
    ∃ m, m ≤ infiniteMagnitude ∧ magnitudeUnits m = significand <<< shift := by
  induction shift generalizing significand with
  | zero =>
    refine ⟨0 * binade + significand, ?_, magnitudeUnits_significand (.inl rfl) bounded⟩
    rw [infiniteMagnitude_eq, binade_eq] at *
    omega
  | succ shift ih =>
    rcases Nat.lt_or_ge significand binade with small | normal
    · rw [Nat.shiftLeft_succ_inside]
      exact ih (by omega) (by omega)
    · refine
        ⟨(shift + 1) * binade + significand, ?_, magnitudeUnits_significand (.inr normal) bounded⟩
      rw [infiniteMagnitude_eq, binade_eq] at *
      omega

/-! ## The nearest magnitude -/

/-- The power of two that a quotient is rounded at leaves it `53` bits, or fewer if that power is
one. -/
theorem quotient_bounds (num : Nat) {den : Nat} (positive : 0 < den) :
    num < 2 * binade * den <<< ((num / den).log2 - 52) ∧
      ((num / den).log2 - 52 = 0 ∨ binade * den <<< ((num / den).log2 - 52) ≤ num) := by
  have power : binade = 2 ^ 52 := by decide
  rw [Nat.shiftLeft_eq, Nat.mul_comm den, ← Nat.mul_assoc, ← Nat.mul_assoc,
    ← Nat.div_lt_iff_lt_mul positive, ← Nat.le_div_iff_mul_le positive]
  generalize num / den = quotient
  constructor
  · have above : quotient < 2 ^ (quotient.log2 + 1) := Nat.lt_log2_self
    refine Nat.lt_of_lt_of_le above ?_
    rw [power, ← Nat.pow_succ', ← Nat.pow_add]
    exact Nat.pow_le_pow_right (by decide) (by omega)
  · by_cases short : quotient.log2 - 52 = 0
    case pos => exact .inl short
    case neg =>
      have nonzero : quotient ≠ 0 := by
        rintro rfl
        exact short (by decide)
      refine .inr (Nat.le_trans ?_ (Nat.log2_self_le nonzero))
      rw [power, ← Nat.pow_add]
      exact Nat.pow_le_pow_right (by decide) (by omega)

/-- The magnitude that a quotient is rounded to is preferred to that of every other number. -/
theorem nearestMagnitude_preferred (num : Nat) {den m : Nat} (positive : 0 < den)
    (number : m ≤ infiniteMagnitude) :
    Preferred num (magnitudeUnits (nearestMagnitude num den) * den : Nat)
      (magnitudeUnits m * den : Nat) (nearestMagnitude num den % 2 = 0) := by
  obtain ⟨short, long⟩ := quotient_bounds num positive
  unfold nearestMagnitude
  generalize (num / den).log2 - 52 = shift at *
  have unit : 0 < den <<< shift := Nat.lt_of_lt_of_le positive Nat.le_shiftLeft
  have most : roundHalfEven num (den <<< shift) ≤ 2 * binade :=
    roundHalfEven_le unit (Nat.le_of_lt short)
  have normal : shift = 0 ∨ binade ≤ roundHalfEven num (den <<< shift) :=
    long.imp_right (le_roundHalfEven unit)
  -- The rounded quotient is a significand, which makes a magnitude with the shift; only the
  -- greatest shifts lead beyond the infinities.
  by_cases fits : shift * binade + roundHalfEven num (den <<< shift) ≤ infiniteMagnitude
  case pos =>
    have even : roundHalfEven num (den <<< shift) % 2 = 0 →
        (shift * binade + roundHalfEven num (den <<< shift)) % 2 = 0 := by
      rw [binade_eq]
      omega
    rw [Nat.min_eq_right fits, magnitudeUnits_significand normal most, shiftLeft_mul]
    rcases magnitudeUnits_on_grid m shift with ⟨k, counted⟩ | ⟨coarse, below⟩
    · -- The other number is one of the multiples that the quotient was rounded among.
      have preferred := roundHalfEven_preferred num unit k
      rw [counted, shiftLeft_mul]
      exact ⟨preferred.near, fun tie => (preferred.tie tie).imp_right even⟩
    · -- The other number is below the binade, so the least multiple in the binade is nearer.
      have least : binade * den <<< shift ≤ num := long.resolve_left coarse
      have near := (roundHalfEven_preferred num unit binade).near
      have far := Nat.mul_lt_mul_of_pos_right below positive
      rw [shiftLeft_mul] at far
      constructor <;> omega
  case neg =>
    have large : 2046 ≤ shift := by
      rw [infiniteMagnitude_eq, binade_eq] at *
      omega
    have least : binade <<< 2046 * den ≤ num := by
      refine Nat.le_trans (Nat.mul_le_mul_right den (shiftLeft_le_shiftLeft large)) ?_
      rw [shiftLeft_mul]
      exact long.resolve_left (by omega)
    -- An infinity counts the most units of all numbers, and the quotient is not less.
    have below := Nat.mul_le_mul_right den (magnitudeUnits_le number)
    rw [magnitudeUnits_infinite] at below
    rw [Nat.min_eq_left (by omega), magnitudeUnits_infinite]
    constructor <;> omega

/-! ## The nearest double -/

/-- The double is the one nearest to a value in units of `2^-1074`: every other number is farther
away, or as far and then the significand of this one is even. An infinity is as large as the power
of two that follows the finite numbers. -/
structure IsNearest (x : Binary64) (value : Int) : Prop where
  number : x.isNaN = false
  preferred (y : Binary64) (number : y.isNaN = false) :
    Preferred value x.units y.units (x.magnitude % 2 = 0)

theorem magnitude_le_infinite {x : Binary64} (number : x.isNaN = false) :
    x.magnitude ≤ infiniteMagnitude :=
  Nat.le_of_not_lt (of_decide_eq_false number)

theorem natAbs_units (x : Binary64) : x.units.natAbs = magnitudeUnits x.magnitude := by
  rw [units]
  split <;> omega

theorem units_ofMagnitude {negative : Bool} {m : Nat} (number : m ≤ infiniteMagnitude) :
    (ofMagnitude negative m).units =
      if negative then -(magnitudeUnits m : Int) else magnitudeUnits m := by
  have small : m < signBit := Nat.lt_of_le_of_lt number (by decide)
  rw [units, isNegative_ofMagnitude small, magnitude_ofMagnitude small]

/-- Between two numbers whose significands are even there is another one. -/
theorem exists_between {x y : Binary64} (left : x.isNaN = false) (right : y.isNaN = false)
    (even : x.magnitude % 2 = 0) (even' : y.magnitude % 2 = 0) (lt : x.units < y.units) :
    ∃ z : Binary64, z.isNaN = false ∧ x.units < z.units ∧ z.units < y.units := by
  have counted := natAbs_units x
  have counted' := natAbs_units y
  have number := magnitude_le_infinite left
  have number' := magnitude_le_infinite right
  rcases Int.lt_or_le x.units 0 with negative | nonneg
  · rcases Int.lt_or_le 0 y.units with positive | nonpos
    · exact ⟨zero, by decide, negative, positive⟩
    · -- Both are negative or zero, and the next magnitude after that of `y` lies between them.
      have next : y.magnitude + 1 < x.magnitude := by
        have less : y.magnitude < x.magnitude := lt_of_magnitudeUnits_lt (by omega)
        omega
      refine ⟨ofMagnitude true (y.magnitude + 1), isNaN_ofMagnitude (by omega), ?_⟩
      have above := magnitudeUnits_lt (Nat.lt_add_one y.magnitude)
      have below := magnitudeUnits_lt next
      rw [units_ofMagnitude (by omega), if_pos rfl]
      omega
  · have next : x.magnitude + 1 < y.magnitude := by
      have less : x.magnitude < y.magnitude := lt_of_magnitudeUnits_lt (by omega)
      omega
    refine ⟨ofMagnitude false (x.magnitude + 1), isNaN_ofMagnitude (by omega), ?_⟩
    have above := magnitudeUnits_lt (Nat.lt_add_one x.magnitude)
    have below := magnitudeUnits_lt next
    rw [units_ofMagnitude (by omega), if_neg Bool.false_ne_true]
    omega

/-- A magnitude nearest to a natural number is nearer than any signed number. -/
theorem nearestMagnitude_preferred_signed (n : Nat) {m : Nat} {u : Int}
    (number : m ≤ infiniteMagnitude)
    (counted : u.natAbs = magnitudeUnits m) :
    Preferred n (magnitudeUnits (nearestMagnitude n 1)) u (nearestMagnitude n 1 % 2 = 0) := by
  have candidate := nearestMagnitude_preferred n Nat.one_pos number
  have zero := nearestMagnitude_preferred n Nat.one_pos (Nat.zero_le infiniteMagnitude)
  rw [Nat.mul_one, Nat.mul_one] at candidate zero
  rcases Int.le_total 0 u with nonneg | nonpos
  · rwa [← counted, Int.natAbs_of_nonneg nonneg] at candidate
  · exact zero.of_opposite (Int.natCast_nonneg n) nonpos

/-- An integer is made of its sign and its absolute value. -/
theorem signed_natAbs_mul (i : Int) (n : Nat) :
    (if decide (i < 0) then -((i.natAbs * n : Nat) : Int) else (i.natAbs * n : Nat)) = i * n := by
  rw [Int.natCast_mul, ← Int.neg_mul]
  by_cases negative : i < 0
  case pos =>
    rw [if_pos (decide_eq_true negative), Int.ofNat_natAbs_of_nonpos (Int.le_of_lt negative),
      Int.neg_neg]
  case neg =>
    rw [if_neg (by simpa using negative), Int.natAbs_of_nonneg (Int.not_lt.1 negative)]

/-- The sign of an integer and the magnitude nearest to its absolute value make the nearest
double. -/
theorem isNearest_ofInt (i : Int) : (ofInt i).IsNearest (i * unitsPerOne) := by
  refine ⟨isNaN_ofInt i, fun y number => ?_⟩
  have bounded : nearestMagnitude (i.natAbs * unitsPerOne) 1 ≤ infiniteMagnitude :=
    Nat.min_le_left _ _
  have small : nearestMagnitude (i.natAbs * unitsPerOne) 1 < signBit :=
    Nat.lt_of_le_of_lt bounded (by decide)
  have other := magnitude_le_infinite number
  rw [ofInt, units_ofMagnitude bounded, magnitude_ofMagnitude small, ← signed_natAbs_mul]
  cases decide (i < 0) with
  | false =>
    simp only [Bool.false_eq_true, if_false]
    exact nearestMagnitude_preferred_signed _ other (natAbs_units y)
  | true =>
    simp only [if_true]
    have counted : (-y.units).natAbs = magnitudeUnits y.magnitude := by
      rw [Int.natAbs_neg, natAbs_units]
    have preferred := (nearestMagnitude_preferred_signed (i.natAbs * unitsPerOne) other counted).neg
    rwa [Int.neg_neg] at preferred

namespace IsNearest

variable {x y : Binary64} {value : Int}

/-- A number is nearest to itself. -/
theorem self (number : x.isNaN = false) : x.IsNearest x.units := by
  refine ⟨number, fun y _ => ?_⟩
  constructor
  · omega
  · intro equal
    exact .inl (by omega)

/-- The nearest double is unique up to the sign of zero: of two neighbours one has an odd
significand. -/
theorem unique (left : x.IsNearest value) (right : y.IsNearest value) : x.units = y.units := by
  have first := left.preferred y right.number
  have second := right.preferred x left.number
  have equal := Nat.le_antisymm first.near second.near
  rcases first.tie equal with same | even
  · exact same
  rcases second.tie equal.symm with same | even'
  · exact same.symm
  -- Two different numbers with even significands have a third one between them, which is nearer.
  rcases Int.lt_trichotomy x.units y.units with lt | same | gt
  · obtain ⟨z, number, above, below⟩ := exists_between left.number right.number even even' lt
    have near := (left.preferred z number).near
    omega
  · exact same
  · obtain ⟨z, number, above, below⟩ := exists_between right.number left.number even' even gt
    have near := (left.preferred z number).near
    omega

/-- Nearest doubles are in the order of the values. -/
theorem units_le {greater : Int} (left : x.IsNearest value) (right : y.IsNearest greater)
    (le : value ≤ greater) : x.units ≤ y.units := by
  rcases Int.lt_or_eq_of_le le with lt | rfl
  · -- If `y` were less than `x`, each would be nearer to the value of the other.
    have near := (left.preferred y right.number).near
    have near' := (right.preferred x left.number).near
    omega
  · exact Int.le_of_eq (left.unique right)

end IsNearest

/-- Rounding keeps the order of integers. -/
theorem units_ofInt_mono {i j : Int} (le : i ≤ j) : (ofInt i).units ≤ (ofInt j).units :=
  (isNearest_ofInt i).units_le (isNearest_ofInt j)
    (Int.mul_le_mul_of_nonneg_right le (Int.natCast_nonneg unitsPerOne))

/-- Rounding that keeps two integers apart keeps their order. -/
theorem lt_of_units_ofInt_lt {i j : Int} (lt : (ofInt i).units < (ofInt j).units) : i < j := by
  apply Int.lt_of_not_ge
  intro ge
  exact Int.not_le.2 lt (units_ofInt_mono ge)

/-- Integers up to `2^53` are not rounded. -/
theorem units_ofInt_of_small {i : Int} (small : i.natAbs ≤ 0x20000000000000) :
    (ofInt i).units = i * unitsPerOne := by
  -- Counted in units it is a significand that is shifted, so some double is exactly as large.
  obtain ⟨m, number, counted⟩ : ∃ m, m ≤ infiniteMagnitude ∧ magnitudeUnits m = i.natAbs <<< 1074 :=
    exists_magnitudeUnits (by rw [binade_eq]; exact small) (by decide)
  have units : (ofMagnitude (i < 0) m).units = i * unitsPerOne := by
    have scaled : i.natAbs <<< 1074 = i.natAbs * unitsPerOne := by
      rw [unitsPerOne, Nat.mul_comm, shiftLeft_mul, Nat.one_mul]
    rw [units_ofMagnitude number, counted, scaled, signed_natAbs_mul]
  have nearest := isNearest_ofInt i
  rw [← units] at nearest ⊢
  exact nearest.unique (.self (isNaN_ofMagnitude number))

end Binary64

end RecordFilter
