import RecordFilter.Number.Binary64

set_option autoImplicit false

/-!
# Shortest decimal text of a double

The text of a double has the fewest digits that read back as that double, and among those the
digits nearest to its exact value (`Binary64.shortest`). How the digits are laid out is data: a
`DecimalLayout` says which numbers are written positionally.
-/

namespace RecordFilter

/-- The decimal number `digits * 10^exponent`. -/
structure Scientific where
  digits : Nat
  exponent : Int
deriving DecidableEq

namespace Binary64

/-! ## Decimals that read back -/

/-- Whether `digits * 10^exponent` lies where numbers round to the magnitude `m`, which is not
zero: between the midpoints to both neighbours, the midpoints included when `m` is even. -/
def readsBack (m : Nat) (s : Scientific) : Bool :=
  let scale := Nat.pow 10 (-s.exponent).toNat
  let twice := 2 * s.digits * unitsPerOne * Nat.pow 10 s.exponent.toNat
  let low := (magnitudeUnits (m - 1) + magnitudeUnits m) * scale
  let high := (magnitudeUnits m + magnitudeUnits (m + 1)) * scale
  if m % 2 = 0 then low ≤ twice && twice ≤ high else low < twice && twice < high

/-- The multiple of `10^exponent` nearest to a magnitude among the two around it that read
back, if one does; of two equally near the even one. -/
def onGrid? (m : Nat) (exponent : Int) : Option Scientific :=
  let num := magnitudeUnits m * Nat.pow 10 (-exponent).toNat
  let den := unitsPerOne * Nat.pow 10 exponent.toNat
  let below : Scientific := ⟨num / den, exponent⟩
  let above : Scientific := ⟨num / den + 1, exponent⟩
  match readsBack m below, readsBack m above with
  | true, true => some ⟨roundHalfEven num den, exponent⟩
  | true, false => some below
  | false, true => some above
  | false, false => none

/-- The exponent of the leading decimal digit of a magnitude that is not zero. -/
def leadingExponent (m : Nat) : Int :=
  let u := magnitudeUnits m
  if unitsPerOne ≤ u then ((Nat.toDigits 10 (u / unitsPerOne)).length : Int) - 1
  else -(((List.range 325).find? fun k => unitsPerOne ≤ u * Nat.pow 10 k).getD 324 : Nat)

/-- The shortest decimal that reads back as the magnitude `m`, which is finite and not zero:
the coarsest decimal grid with such a number, of at most seventeen digits. -/
def shortest (m : Nat) : Scientific :=
  let lead := leadingExponent m
  ((List.range 17).findSome? fun (k : Nat) => onGrid? m (lead - k)).getD
    ⟨magnitudeUnits m * Nat.pow 10 (16 - lead).toNat /
      (unitsPerOne * Nat.pow 10 (lead - 16).toNat), lead - 16⟩

end Binary64

/-! ## Layout -/

/-- How decimal digits are laid out: positionally while the exponent of the leading digit is
within `first` and `last`, else with one digit before the point and a signed exponent. -/
structure DecimalLayout where
  first : Int
  last : Int

namespace DecimalLayout

/-- The digits with a point after the first `whole` of them, padded with zeros and with at
least one digit on both sides. -/
def positional (ds : List Char) (whole : Int) : List Char :=
  if whole ≤ 0 then '0' :: '.' :: (List.replicate (-whole).toNat '0' ++ ds)
  else
    let fraction := ds.drop whole.toNat
    ds.take whole.toNat ++ List.replicate (whole.toNat - ds.length) '0' ++
      '.' :: (if fraction.isEmpty then ['0'] else fraction)

/-- One digit, the others after a point, and the exponent with its sign. -/
def withExponent (ds : List Char) (exponent : Int) : List Char :=
  let fraction := ds.drop 1
  ds.take 1 ++ (if fraction.isEmpty then [] else '.' :: fraction) ++
    'e' :: (if exponent < 0 then '-' else '+') :: Nat.toDigits 10 exponent.natAbs

/-- The text of a decimal with at least one digit that is not zero. -/
def render (layout : DecimalLayout) (s : Scientific) : List Char :=
  let all := Nat.toDigits 10 s.digits
  let ds := (all.reverse.dropWhile (· == '0')).reverse
  let lead := s.exponent + all.length - 1
  if layout.first ≤ lead ∧ lead ≤ layout.last then positional ds (lead + 1)
  else withExponent ds lead

/-- The text of a finite double. -/
def renderBinary64 (layout : DecimalLayout) (x : Binary64) : List Char :=
  let unsigned :=
    if x.magnitude = 0 then ['0', '.', '0'] else layout.render (Binary64.shortest x.magnitude)
  if x.isNegative then '-' :: unsigned else unsigned

end DecimalLayout

end RecordFilter
