import RecordFilter.Unicode.CharSet

set_option autoImplicit false

/-!
# Sets of characters as sequences of byte ranges

The encodings of the characters of a range are the byte sequences that fit one of a few sequences of
byte ranges. A range is cut where the encodings get longer and where the last bytes would not take
all their values, until each piece is one sequence.
-/

namespace RecordFilter.Regex

open Unicode (CharSet)

/-- The bytes from `first` to `last`. -/
structure ByteRange where
  first : Nat
  last : Nat
deriving DecidableEq

/-- The greatest codes with encodings of one, two and three bytes. -/
def lengthEnds : List Nat := [0x7F, 0x7FF, 0xFFFF]

/-- How many codes differ only in the last byte, in the last two and in the last three. -/
def blockSizes : List Nat := [64, 64 * 64, 64 * 64 * 64]

/-- The last code of the first piece if the codes from `first` to `last` have to be cut. Where they
reach over blocks, the blocks that they fill in part are cut off. -/
def cut? (first last : Nat) : Option Nat :=
  (lengthEnds.find? fun greatest => first ≤ greatest && greatest < last).orElse fun _ =>
    if last ≤ 0x7F then none
    else blockSizes.findSome? fun size =>
      if first / size = last / size then none
      else if first % size ≠ 0 then some (first / size * size + (size - 1))
      else if last % size ≠ size - 1 then some (last / size * size - 1)
      else none

/-- The byte ranges between the encodings of two codes of one length. -/
def ByteRange.between (first last : Nat) : List ByteRange :=
  List.zipWith (fun low high => ⟨low.toNat, high.toNat⟩)
    (String.utf8EncodeChar (Char.ofNat first)) (String.utf8EncodeChar (Char.ofNat last))

/-- The sequences of byte ranges for the codes from `first` to `last`, among which are no
surrogates. -/
def encodings (first last : Nat) : List (List ByteRange) :=
  match cut? first last with
  | some middle =>
    if first ≤ middle ∧ middle < last then encodings first middle ++ encodings (middle + 1) last
    else []
  | none => [ByteRange.between first last]
termination_by last - first

/-- The sequences of byte ranges for the characters of a set. -/
def encodingsOf (set : CharSet) : List (List ByteRange) :=
  set.ranges.flatMap fun (first, last) => encodings first last

end RecordFilter.Regex
