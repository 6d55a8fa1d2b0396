import RecordFilter.Number.Binary64

set_option autoImplicit false

/-!
# Numbers of field values

A number keeps the kind it had in the record. Two signed or two unsigned integers compare
exactly; every other pair compares as doubles.
-/

namespace RecordFilter

/-- A number of a field value. -/
inductive Number where
  | signed (value : Int64)
  | unsigned (value : UInt64)
  | real (value : Binary64)
deriving DecidableEq

namespace Number

/-- The double nearest to the number. -/
def toBinary64 : Number → Binary64
  | .signed i => .ofInt i.toInt
  | .unsigned n => .ofInt n.toNat
  | .real x => x

/-- The comparison, which fails only on NaNs. -/
def compare? : Number → Number → Option Ordering
  | .signed i, .signed j => some (compare i.toInt j.toInt)
  | .unsigned m, .unsigned n => some (compare m.toNat n.toNat)
  | a, b => a.toBinary64.compare? b.toBinary64

/-- Equality of numbers of the same kind; doubles are equal numerically. -/
def sameKindEquals : Number → Number → Bool
  | .signed i, .signed j => i == j
  | .unsigned m, .unsigned n => m == n
  | .real x, .real y => x.equals y
  | _, _ => false

end Number

end RecordFilter
