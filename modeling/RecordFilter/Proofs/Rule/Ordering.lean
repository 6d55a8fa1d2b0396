import RecordFilter.Proofs.Number.Order
import RecordFilter.Proofs.Rule.Numbers

set_option autoImplicit false

/-!
# Orderings

An ordering gives every value that it applies to a place among the integers and every reference a
mark, and compares the two (`Value.Placed`). The place of a number is its double and the mark is the
double of the reference; the place of a text or a collection is its length and the mark is the
integer part of the reference. Greater references have greater marks, since neither rounding nor
truncating changes the order. So the values that satisfy an ordering are those on one side of a mark
that moves with the reference (`Rule.orderings_cut`), comparisons of integers err only where both
round to one double (`Rule.ordering_of_integers`), and comparisons of lengths are exact
(`Rule.ordering_of_length`).
-/

namespace RecordFilter

/-! ## References -/

namespace Binary64

variable {x y : Binary64}

theorem truncate_mono (le : x.units ≤ y.units) : x.truncate ≤ y.truncate :=
  Int.tdiv_le_tdiv (by decide +kernel) le

theorem toInt64Clamped_mono (left : x.isNaN = false) (right : y.isNaN = false)
    (le : x.units ≤ y.units) : x.toInt64Clamped ≤ y.toInt64Clamped := by
  have whole := truncate_mono le
  rw [toInt64Clamped, toInt64Clamped, left, right]
  simp only [Bool.false_eq_true, if_false]
  omega

end Binary64

namespace JsonNumber

/-- The exact value, in units of `2^-1074`. -/
def units : JsonNumber → Int
  | .integer i => i.value * Binary64.unitsPerOne
  | .real x _ => x.units

theorem isNearest_toBinary64 (n : JsonNumber) : n.toBinary64.IsNearest n.units := by
  cases n with
  | integer i => exact Binary64.isNearest_ofInt i.value
  | real x finite => exact .self (Binary64.isNaN_of_isFinite finite)

theorem units_toBinary64_mono {m n : JsonNumber} (le : m.units ≤ n.units) :
    m.toBinary64.units ≤ n.toBinary64.units :=
  m.isNearest_toBinary64.units_le n.isNearest_toBinary64 le

end JsonNumber

/-! ## Relations of integers -/

namespace Relation

/-- What a relation says of two integers. -/
def Relates : Relation → Int → Int → Prop
  | .less, i, j => i < j
  | .atMost, i, j => i ≤ j
  | .greater, i, j => i > j
  | .atLeast, i, j => i ≥ j

instance (relation : Relation) (i j : Int) : Decidable (relation.Relates i j) :=
  match relation with
  | .less => inferInstanceAs (Decidable (i < j))
  | .atMost => inferInstanceAs (Decidable (i ≤ j))
  | .greater => inferInstanceAs (Decidable (i > j))
  | .atLeast => inferInstanceAs (Decidable (i ≥ j))

variable {relation : Relation} {i j : Int}

theorem holds_compare_iff : relation.holds (some (compare i j)) = true ↔ relation.Relates i j := by
  cases relation with
  | less => simp [holds, Relates, Int.compare_eq_lt]
  | atMost => simp [holds, Relates, Int.compare_eq_gt]
  | greater => simp [holds, Relates, Int.compare_eq_gt]
  | atLeast => simp [holds, Relates, Int.compare_eq_lt]

theorem relates_mul_iff {c : Int} (positive : 0 < c) :
    relation.Relates (i * c) (j * c) ↔ relation.Relates i j := by
  cases relation with
  | less => exact Int.mul_lt_mul_right positive
  | atMost => exact Int.mul_le_mul_right positive
  | greater => exact Int.mul_lt_mul_right positive
  | atLeast => exact Int.mul_le_mul_right positive

/-- A length relates to an integer as it relates to the integer cut to the signed 64-bit range. -/
theorem relates_clamped_iff {length : Nat} (bounded : length < 0x7FFFFFFFFFFFFFFF) :
    relation.Relates length (max (-0x8000000000000000) (min 0x7FFFFFFFFFFFFFFF j)) ↔
      relation.Relates length j := by
  -- A length lies strictly between the ends of the range, so what is cut off stays on its side.
  cases relation <;> simp only [Relates] <;> omega

end Relation

/-! ## Places and marks -/

namespace Value

/-- Values with a length: the bytes of a text in UTF-8, the items of a sequence, the entries of a
map. -/
inductive Sized : Value → Nat → Prop where
  | text (s : String) : Sized (.text s) s.utf8ByteSize
  | sequence (items : List Value) : Sized (.sequence items) items.length
  | map (entries : List (String × Value)) : Sized (.map entries) entries.length

/-- Values to which the orderings apply. -/
def Orderable : Value → Prop
  | .number v => ¬v.IsNaN
  | .text _ | .sequence _ | .map _ => True
  | .null | .bool _ | .unsupported => False

/-- A value that the orderings compare by a place among the integers, with a mark that the reference
has there. Greater references have greater marks. -/
structure Placed (v : Value) (place : Int) (mark : JsonNumber → Int) : Prop where
  mono {m n : JsonNumber} (le : m.units ≤ n.units) : mark m ≤ mark n
  compared (n : JsonNumber) : Matcher.compareTo n.toBinary64 v = some (compare place (mark n))

variable {v : Value} {length : Nat}

theorem Sized.compareTo (sized : v.Sized length) (x : Binary64) :
    Matcher.compareTo x v = some (compare (length : Int) x.toInt64Clamped) := by
  cases sized <;> rfl

theorem Sized.placed (sized : v.Sized length) :
    v.Placed length fun n => n.toBinary64.toInt64Clamped := by
  refine ⟨fun {m n} le => ?_, fun n => sized.compareTo n.toBinary64⟩
  exact Binary64.toInt64Clamped_mono m.isNaN_toBinary64 n.isNaN_toBinary64
    (JsonNumber.units_toBinary64_mono le)

theorem placed_number {number : Number} (orderable : ¬number.IsNaN) :
    (Value.number number).Placed number.toBinary64.units fun n => n.toBinary64.units := by
  refine ⟨JsonNumber.units_toBinary64_mono, fun n => ?_⟩
  rw [Number.isNaN_iff, Bool.not_eq_true] at orderable
  exact Binary64.compare?_eq_some_iff.2 ⟨orderable, n.isNaN_toBinary64, rfl⟩

theorem exists_placed (orderable : v.Orderable) : ∃ place mark, v.Placed place mark := by
  cases v with
  | number number => exact ⟨_, _, placed_number orderable⟩
  | text s => exact ⟨_, _, (Sized.text s).placed⟩
  | sequence items => exact ⟨_, _, (Sized.sequence items).placed⟩
  | map entries => exact ⟨_, _, (Sized.map entries).placed⟩
  | null => cases orderable
  | bool b => cases orderable
  | unsupported => cases orderable

theorem compareTo_of_not_orderable (incomparable : ¬v.Orderable) (x : Binary64) :
    Matcher.compareTo x v = none := by
  cases v with
  | number number =>
    have nan : number.IsNaN := Classical.not_not.1 incomparable
    exact Binary64.compare?_eq_none_iff.2 (.inl (Number.isNaN_iff.1 nan))
  | text s => exact absurd trivial incomparable
  | sequence items => exact absurd trivial incomparable
  | map entries => exact absurd trivial incomparable
  | null => rfl
  | bool b => rfl
  | unsupported => rfl

end Value

namespace Rule

variable {field : String} {n : JsonNumber} {relation : Relation}

theorem evaluate_ordering_iff_of_placed {v : Value} {place : Int} {mark : JsonNumber → Int}
    (placed : v.Placed place mark) :
    (ordering relation field n).evaluate v = true ↔ relation.Relates place (mark n) := by
  change relation.holds (Matcher.compareTo n.toBinary64 v) = true ↔ _
  rw [placed.compared, Relation.holds_compare_iff]

theorem evaluate_ordering_of_not_orderable {v : Value} (incomparable : ¬v.Orderable) :
    (ordering relation field n).evaluate v = false := by
  change relation.holds (Matcher.compareTo n.toBinary64 v) = false
  rw [Value.compareTo_of_not_orderable incomparable]
  cases relation <;> rfl

/-- Of two opposite orderings a value to which they apply satisfies one. -/
theorem evaluate_ordering_eq_not {opposite : Relation}
    (opposed : ∀ i j, relation.Relates i j ↔ ¬opposite.Relates i j) {v : Value}
    (orderable : v.Orderable) :
    (ordering relation field n).evaluate v = !(ordering opposite field n).evaluate v := by
  obtain ⟨place, mark, placed⟩ := Value.exists_placed orderable
  rw [Bool.eq_iff_iff, Bool.not_eq_true', ← Bool.not_eq_true,
    evaluate_ordering_iff_of_placed placed, evaluate_ordering_iff_of_placed placed]
  exact opposed place (mark n)

/-- What holds of places and marks carries over to orderings. -/
theorem evaluate_ordering_imp {other : Relation} {m : JsonNumber} {v : Value}
    (implied : ∀ {place mark}, v.Placed place mark →
      relation.Relates place (mark n) → other.Relates place (mark m))
    (satisfied : (ordering relation field n).evaluate v = true) :
    (ordering other field m).evaluate v = true := by
  by_cases orderable : v.Orderable
  case pos =>
    obtain ⟨place, mark, placed⟩ := Value.exists_placed orderable
    rw [evaluate_ordering_iff_of_placed placed] at satisfied ⊢
    exact implied placed satisfied
  case neg =>
    rw [evaluate_ordering_of_not_orderable orderable] at satisfied
    cases satisfied

/-! ## Integers -/

theorem evaluate_ordering_iff_of_integer {v : Number} {i : Int} {r : WordInteger}
    (integer : v.integer? = some i) :
    (ordering relation field (.integer r)).evaluate (.number v) = true ↔
      relation.Relates (Binary64.ofInt i).units (Binary64.ofInt r.value).units := by
  have rounded := Number.toBinary64_of_integer integer
  have number : ¬v.IsNaN := by
    rw [Number.isNaN_iff, rounded, Binary64.isNaN_ofInt]
    exact Bool.false_ne_true
  rw [evaluate_ordering_iff_of_placed (Value.placed_number number), rounded]
  exact Iff.rfl

/-- Orderings of integers err on one side only. What satisfies `lt` or `gt` is less or greater, and
what is at most or at least as large satisfies `lte` or `gte`; up to `2^53` all four are exact. -/
theorem ordering_of_integers (field : String) (r : WordInteger) {v : Number} {i : Int}
    (integer : v.integer? = some i) :
    (∀ relation : Relation, make field relation.operator (.number (.integer r)) =
        .ok (ordering relation field (.integer r))) ∧
      ((ordering .less field (.integer r)).evaluate (.number v) = true → i < r.value) ∧
      ((ordering .greater field (.integer r)).evaluate (.number v) = true → i > r.value) ∧
      (i ≤ r.value → (ordering .atMost field (.integer r)).evaluate (.number v) = true) ∧
      (i ≥ r.value → (ordering .atLeast field (.integer r)).evaluate (.number v) = true) ∧
      (i.natAbs ≤ 0x20000000000000 → r.value.natAbs ≤ 0x20000000000000 →
        ∀ relation : Relation, (ordering relation field (.integer r)).evaluate (.number v) = true ↔
          relation.Relates i r.value) := by
  have positive : (0 : Int) < Binary64.unitsPerOne := by decide +kernel
  simp only [evaluate_ordering_iff_of_integer integer]
  refine ⟨fun relation => make_ordering, ?less, ?greater, ?atMost, ?atLeast, ?small⟩
  case less => exact Binary64.lt_of_units_ofInt_lt
  case greater => exact Binary64.lt_of_units_ofInt_lt
  case atMost => exact Binary64.units_ofInt_mono
  case atLeast => exact Binary64.units_ofInt_mono
  case small =>
    intro small small' relation
    rw [Binary64.units_ofInt_of_small small, Binary64.units_ofInt_of_small small']
    exact Relation.relates_mul_iff positive

/-- The greatest unsigned word is greater than the least signed one. The successor of `2^53`
satisfies `lte` and `gte` with `2^53`, but not `gt`. -/
theorem ordering_of_integers_ends :
    (Number.unsigned 0xFFFFFFFFFFFFFFFF).integer? = some 0xFFFFFFFFFFFFFFFF ∧
      (0xFFFFFFFFFFFFFFFF : Int) > -0x8000000000000000 ∧
      (ordering .atLeast "n" (.integer ⟨-0x8000000000000000, by decide⟩)).evaluate
        (.number (.unsigned 0xFFFFFFFFFFFFFFFF)) = true ∧
      nextUnsigned.integer? = some 0x20000000000001 ∧
      (ordering .atLeast "n" twoTo53).evaluate (.number nextUnsigned) = true ∧
      (ordering .atMost "n" twoTo53).evaluate (.number nextUnsigned) = true ∧
      (ordering .greater "n" twoTo53).evaluate (.number nextUnsigned) = false := by
  have greatest : (Number.unsigned 0xFFFFFFFFFFFFFFFF).integer? = some 0xFFFFFFFFFFFFFFFF := rfl
  have next : nextUnsigned.integer? = some 0x20000000000001 := rfl
  have ends := ordering_of_integers "n" ⟨-0x8000000000000000, by decide⟩ greatest
  have neighbours := ordering_of_integers "n" ⟨0x20000000000000, by decide⟩ next
  exact ⟨greatest, ends.2.2.1 (by decide +kernel), ends.2.2.2.2.1 (by decide), next,
    neighbours.2.2.2.2.1 (by decide), by decide +kernel, by decide +kernel⟩

/-! ## Lengths -/

/-- Orderings compare a length with the integer part of the double nearest to the reference, however
large that is, and do not look at what has the length. -/
theorem ordering_of_length (relation : Relation) (field : String) {n : JsonNumber} {x : Binary64}
    (nearest : x.IsNearest n.units) {v : Value} {length : Nat} (sized : v.Sized length)
    (bounded : length < 0x7FFFFFFFFFFFFFFF) :
    make field relation.operator (.number n) = .ok (ordering relation field n) ∧
      n.toBinary64.IsNearest n.units ∧
      ((ordering relation field n).evaluate v = true ↔ relation.Relates length x.truncate) ∧
      ∀ w : Value, w.Sized length →
        (ordering relation field n).evaluate w = (ordering relation field n).evaluate v := by
  have part : x.truncate = n.toBinary64.truncate := by
    rw [Binary64.truncate, nearest.unique n.isNearest_toBinary64, Binary64.truncate]
  have compared : ∀ w : Value, w.Sized length → ((ordering relation field n).evaluate w = true ↔
      relation.Relates length x.truncate) := by
    intro w sized
    rw [evaluate_ordering_iff_of_placed sized.placed, Binary64.toInt64Clamped, n.isNaN_toBinary64,
      part]
    exact Relation.relates_clamped_iff bounded
  refine ⟨make_ordering, n.isNearest_toBinary64, compared v sized, fun w sized' => ?_⟩
  rw [Bool.eq_iff_iff, compared v sized, compared w sized']

/-- Minus one half has the integer part zero, and four and a half has four, which is the length of a
text of three characters. Any length is less than `10^300`. -/
theorem ordering_of_length_fractions :
    (ordering .atMost "n" (.real ⟨0xBFE0000000000000⟩ (by decide))).evaluate (.sequence []) = true ∧
      (ordering .atLeast "n" (.real ⟨0x4012000000000000⟩ (by decide))).evaluate (.text "né!") =
        true ∧
      (ordering .less "n" (.real ⟨0x7E37E43C8800759C⟩ (by decide))).evaluate
        (.map [("a", .unsupported)]) = true := by
  have half : Binary64.IsNearest ⟨0xBFE0000000000000⟩
      (JsonNumber.real ⟨0xBFE0000000000000⟩ (by decide)).units := .self (by decide)
  have fraction : Binary64.IsNearest ⟨0x4012000000000000⟩
      (JsonNumber.real ⟨0x4012000000000000⟩ (by decide)).units := .self (by decide)
  have large : Binary64.IsNearest ⟨0x7E37E43C8800759C⟩
      (JsonNumber.real ⟨0x7E37E43C8800759C⟩ (by decide)).units := .self (by decide)
  have none := ordering_of_length .atMost "n" half (.sequence []) (by decide)
  have four := ordering_of_length .atLeast "n" fraction (.text "né!") (by decide)
  have one := ordering_of_length .less "n" large (.map [("a", .unsupported)]) (by decide)
  exact ⟨none.2.2.1.2 (by decide +kernel), four.2.2.1.2 (by decide +kernel),
    one.2.2.1.2 (by decide +kernel)⟩

/-! ## The cut -/

/-- The orderings cut the values that they apply to at one point: what is less is not at least as
large, what is at most as large is not greater, and all else satisfies none of them. The point moves
with the reference. -/
theorem orderings_cut (field : String) (n : JsonNumber) :
    (∀ relation : Relation,
        make field relation.operator (.number n) = .ok (ordering relation field n)) ∧
      (∀ v : Value, v.Orderable →
        (ordering .less field n).evaluate v = !(ordering .atLeast field n).evaluate v ∧
          (ordering .atMost field n).evaluate v = !(ordering .greater field n).evaluate v ∧
          ((ordering .less field n).evaluate v = true →
            (ordering .atMost field n).evaluate v = true) ∧
          ((ordering .greater field n).evaluate v = true →
            (ordering .atLeast field n).evaluate v = true)) ∧
      (∀ v : Value, ¬v.Orderable →
        ∀ relation : Relation, (ordering relation field n).evaluate v = false) ∧
      (∀ m : JsonNumber, n.units ≤ m.units → ∀ v : Value,
        ((ordering .less field n).evaluate v = true →
            (ordering .less field m).evaluate v = true) ∧
          ((ordering .atMost field n).evaluate v = true →
            (ordering .atMost field m).evaluate v = true) ∧
          ((ordering .greater field m).evaluate v = true →
            (ordering .greater field n).evaluate v = true) ∧
          ((ordering .atLeast field m).evaluate v = true →
            (ordering .atLeast field n).evaluate v = true)) := by
  refine ⟨fun relation => make_ordering, ?cut,
    fun v incomparable relation => evaluate_ordering_of_not_orderable incomparable, ?moves⟩
  case cut =>
    intro v orderable
    refine ⟨evaluate_ordering_eq_not ?_ orderable, evaluate_ordering_eq_not ?_ orderable,
      evaluate_ordering_imp fun _ less => Int.le_of_lt less,
      evaluate_ordering_imp fun _ greater => Int.le_of_lt greater⟩
    · exact fun i j => Int.not_le.symm
    · exact fun i j => Int.not_lt.symm
  case moves =>
    intro m le v
    exact ⟨evaluate_ordering_imp fun placed less => Int.lt_of_lt_of_le less (placed.mono le),
      evaluate_ordering_imp fun placed atMost => Int.le_trans atMost (placed.mono le),
      evaluate_ordering_imp fun placed greater => Int.lt_of_le_of_lt (placed.mono le) greater,
      evaluate_ordering_imp fun placed atLeast => Int.le_trans (placed.mono le) atLeast⟩

/-- The successor of `2^53` rounds to `2^53` as a reference, too, and no ordering applies to a
NaN. -/
theorem orderings_cut_neighbours :
    twoTo53.units ≤ (JsonNumber.integer ⟨0x20000000000001, by decide⟩).units ∧
      (ordering .atMost "n" twoTo53).evaluate (.number nextUnsigned) = true ∧
      (ordering .atMost "n" (.integer ⟨0x20000000000001, by decide⟩)).evaluate
        (.number nextUnsigned) = true ∧
      ¬(Value.number (.real .nan)).Orderable ∧
      (ordering .atLeast "n" twoTo53).evaluate (.number (.real .nan)) = false := by
  have less : twoTo53.units ≤ (JsonNumber.integer ⟨0x20000000000001, by decide⟩).units := by
    decide +kernel
  have satisfied : (ordering .atMost "n" twoTo53).evaluate (.number nextUnsigned) = true := by
    decide +kernel
  have nan : ¬(Value.number (.real .nan)).Orderable := fun number => number (by decide : _ = true)
  obtain ⟨-, -, incomparable, moves⟩ := orderings_cut "n" twoTo53
  exact ⟨less, satisfied, (moves _ less _).2.1 satisfied, nan, incomparable _ nan .atLeast⟩

end Rule

end RecordFilter
