import RecordFilter.Json.Basic

set_option autoImplicit false

/-!
# Number literals

A literal without fraction and exponent is an integer if 64 bits can hold it; minus zero is
not an integer. Every other literal is a double, computed in double arithmetic: the leading digits
that fit an unsigned 64-bit word are rounded to a double, which is then scaled by a power of ten
with one multiplication or division. A literal too large for a finite double has no value.
-/

namespace RecordFilter

/-- A number as it is written. -/
structure NumberLiteral where
  negative : Bool
  whole : List Char
  fraction : Option (List Char)
  exponent : Option Int

namespace NumberLiteral

/-- The value of a decimal digit. -/
def digit (c : Char) : Nat := c.toNat - '0'.toNat

/-- The number that digits spell. -/
def natural (digits : List Char) : Nat := digits.foldl (fun n c => 10 * n + digit c) 0

/-- Digits appended to `n` while the result stays below `2^64`, with the count of the digits
left over. -/
def leading (n : Nat) : List Char → Nat × Nat
  | [] => (n, 0)
  | c :: rest =>
    if 10 * n + digit c < 0x10000000000000000 then leading (10 * n + digit c) rest
    else (n, rest.length + 1)

/-- The double nearest to `significand`, times ten to the `exponent`, rounded after each
operation; none if it is too large. -/
def scaled? (significand : Nat) (exponent : Int) : Option Binary64 :=
  let f := Binary64.ofInt significand
  if 0 ≤ exponent then
    if significand = 0 then some f
    else if 308 < exponent then none
    else
      let x := f.mul (.powerOfTen exponent.toNat)
      if x.isFinite then some x else none
  else if -308 ≤ exponent then some (f.div (.powerOfTen (-exponent).toNat))
  else if -616 ≤ exponent then
    some ((f.div (.powerOfTen 308)).div (.powerOfTen (-exponent - 308).toNat))
  else some .zero

/-- The double that a literal denotes. -/
def real? (literal : NumberLiteral) : Option Binary64 :=
  let fraction := literal.fraction.getD []
  let (whole, uncounted) := leading 0 literal.whole
  let (significand, unread) := leading whole fraction
  let shift : Int := uncounted - (fraction.length - unread : Nat)
  (scaled? significand (shift + literal.exponent.getD 0)).map fun x =>
    if literal.negative then x.neg else x

/-- The number that a literal denotes. -/
def value? (literal : NumberLiteral) : Option JsonNumber :=
  let n := natural literal.whole
  let i : Int := if literal.negative then -n else n
  if h : literal.fraction = none ∧ literal.exponent = none ∧ ¬(literal.negative ∧ n = 0) ∧
      (-0x8000000000000000 ≤ i ∧ i < 0x10000000000000000) then
    some (.integer ⟨i, h.2.2.2⟩)
  else
    literal.real?.bind fun x => if h : x.isFinite = true then some (.real x h) else none

end NumberLiteral

end RecordFilter
