set_option autoImplicit false

/-!
# Double-precision numbers

A double is held as its 64 bits and read exactly: every finite double is a whole number of
units of `2^-1074`, so comparing, rounding, multiplying and truncating are computations on
integers. Infinities count as more units than any finite double, and a NaN has no place in
the order.

All roundings go through one function, `Binary64.nearestMagnitude`: a rational number of
units becomes the nearest double, a tie the one with the even significand.
-/

namespace RecordFilter

/-- The quotient rounded to a whole number, a half to the even neighbour. -/
def roundHalfEven (num den : Nat) : Nat :=
  let quotient := num / den
  let twice := 2 * (num % den)
  if twice < den ∨ (twice = den ∧ quotient % 2 = 0) then quotient else quotient + 1

/-- A double-precision number, as its bits. -/
structure Binary64 where
  bits : UInt64
deriving DecidableEq

namespace Binary64

/-! ## Parts -/

/-- The value of the sign bit. -/
def signBit : Nat := 1 <<< 63

/-- How many magnitudes share an exponent. -/
def binade : Nat := 1 <<< 52

/-- The bits without the sign. Magnitudes are ordered as the absolute values are. -/
def magnitude (x : Binary64) : Nat := x.bits.toNat % signBit

/-- Whether the sign bit is set. -/
def isNegative (x : Binary64) : Bool := signBit ≤ x.bits.toNat

/-- The magnitude of the infinities; NaNs lie above it. -/
def infiniteMagnitude : Nat := 2047 * binade

/-- Not a number. -/
def isNaN (x : Binary64) : Bool := infiniteMagnitude < x.magnitude

/-- Neither infinite nor a NaN. -/
def isFinite (x : Binary64) : Bool := x.magnitude < infiniteMagnitude

/-- Units of `2^-1074` in a magnitude. -/
def magnitudeUnits (m : Nat) : Nat :=
  if m < binade then m else (binade + m % binade) <<< (m / binade - 1)

/-- The exact value, in units of `2^-1074`; an infinity counts `2^2098` units. -/
def units (x : Binary64) : Int :=
  if x.isNegative then -(magnitudeUnits x.magnitude : Int) else magnitudeUnits x.magnitude

/-- Units in the number one. -/
def unitsPerOne : Nat := 1 <<< 1074

/-- The double with the given sign and magnitude. -/
def ofMagnitude (negative : Bool) (m : Nat) : Binary64 :=
  ⟨UInt64.ofNat (if negative then signBit + m else m)⟩

/-- Positive zero. -/
def zero : Binary64 := ofMagnitude false 0

/-- Positive infinity. -/
def infinity : Binary64 := ofMagnitude false infiniteMagnitude

/-- The NaN with the least payload among quiet ones. -/
def nan : Binary64 := ofMagnitude false (infiniteMagnitude + binade / 2)

/-- The same number with the other sign. -/
def neg (x : Binary64) : Binary64 := ofMagnitude (!x.isNegative) x.magnitude

/-! ## Order -/

/-- The numeric comparison: zeros are equal, and nothing compares with a NaN. -/
def compare? (x y : Binary64) : Option Ordering :=
  if x.isNaN || y.isNaN then none else some (compare x.units y.units)

/-- Numeric equality: zeros are equal, a NaN differs from itself. -/
def equals (x y : Binary64) : Bool := x.compare? y == some .eq

/-! ## Rounding -/

/-- The magnitude nearest to `num / den` units. Below `2^53` units magnitudes are whole units;
above, `53` leading bits are kept. -/
def nearestMagnitude (num den : Nat) : Nat :=
  let shift := (num / den).log2 - 52
  min infiniteMagnitude (shift * binade + roundHalfEven num (den <<< shift))

/-- The double nearest to an integer. -/
def ofInt (i : Int) : Binary64 :=
  ofMagnitude (i < 0) (nearestMagnitude (i.natAbs * unitsPerOne) 1)

/-- The product of two finite doubles, rounded once. -/
def mul (x y : Binary64) : Binary64 :=
  ofMagnitude (x.isNegative != y.isNegative)
    (nearestMagnitude (magnitudeUnits x.magnitude * magnitudeUnits y.magnitude) unitsPerOne)

/-- The quotient of two finite doubles, the second not zero, rounded once. -/
def div (x y : Binary64) : Binary64 :=
  ofMagnitude (x.isNegative != y.isNegative)
    (nearestMagnitude (magnitudeUnits x.magnitude * unitsPerOne) (magnitudeUnits y.magnitude))

/-- The double nearest to a power of ten. -/
def powerOfTen (exponent : Nat) : Binary64 := ofInt (Nat.pow 10 exponent)

/-- The number rounded to single precision: `24` leading bits, at least `2^-149` apart, and
infinity from `2^128` on. -/
def toSingle (x : Binary64) : Binary64 :=
  if x.isFinite then
    let u := magnitudeUnits x.magnitude
    let quantum := 1 <<< (925 + ((u / 1 <<< 925).log2 - 23))
    let rounded := roundHalfEven u quantum * quantum
    ofMagnitude x.isNegative
      (if unitsPerOne <<< 128 ≤ rounded then infiniteMagnitude else nearestMagnitude rounded 1)
  else x

/-! ## Integers -/

/-- The integer part: the value with its fraction dropped. -/
def truncate (x : Binary64) : Int := x.units.tdiv unitsPerOne

/-- The integer part, clamped to the signed 64-bit range; a NaN gives zero. -/
def toInt64Clamped (x : Binary64) : Int :=
  if x.isNaN then 0 else max (-0x8000000000000000) (min 0x7FFFFFFFFFFFFFFF x.truncate)

end Binary64

end RecordFilter
