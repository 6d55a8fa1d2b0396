import RecordFilter.Unicode.RunTable

set_option autoImplicit false

/-!
# Sets of characters

A set is kept as the increasing codes at which it is entered and left in turn, so that a character
is in it when an odd number of them is at most its code. The codes of surrogates, which are no
characters, are in no set. All operations on two sets are one walk over their bounds.
-/

namespace RecordFilter.Unicode

/-- A set of characters, by the codes at which it is entered and left in turn. -/
structure CharSet where
  bounds : Array Nat
deriving DecidableEq

namespace CharSet

/-- Whether a character is in a set. -/
def contains (set : CharSet) (c : Char) : Bool :=
  let i := RunTable.position set.bounds c.toNat 0 set.bounds.size
  (set.bounds[i]?.any (· ≤ c.toNat)) && i % 2 == 0

/-- No character. -/
def empty : CharSet := ⟨#[]⟩

/-- Every character. -/
def all : CharSet := ⟨#[0, 0xD800, 0xE000, 0x110000]⟩

/-- The characters from `first` to `last`. -/
def range (first last : Char) : CharSet :=
  if last < first then empty
  else if first.toNat < 0xD800 ∧ 0xE000 ≤ last.toNat then
    ⟨#[first.toNat, 0xD800, 0xE000, last.toNat + 1]⟩
  else ⟨#[first.toNat, last.toNat + 1]⟩

/-- One character. -/
def single (c : Char) : CharSet := range c c

/-- Bounds, followed by a code if something changes there. -/
def turnAt (bounds : Array Nat) (code : Nat) (before after : Bool) : Array Nat :=
  if before = after then bounds else bounds.push code

/-- The bounds found so far, and those at which the truth of `op` changes from here on. The flags
say whether the place reached is in the first and in the second set. -/
def mergeBounds (op : Bool → Bool → Bool) (inA inB : Bool) (soFar : Array Nat) :
    List Nat → List Nat → Array Nat
  | [], [] => soFar
  | a :: as, [] => mergeBounds op (!inA) inB (turnAt soFar a (op inA inB) (op (!inA) inB)) as []
  | [], b :: bs => mergeBounds op inA (!inB) (turnAt soFar b (op inA inB) (op inA (!inB))) [] bs
  | a :: as, b :: bs =>
    if a < b then
      mergeBounds op (!inA) inB (turnAt soFar a (op inA inB) (op (!inA) inB)) as (b :: bs)
    else if b < a then
      mergeBounds op inA (!inB) (turnAt soFar b (op inA inB) (op inA (!inB))) (a :: as) bs
    else
      mergeBounds op (!inA) (!inB) (turnAt soFar a (op inA inB) (op (!inA) (!inB))) as bs
termination_by as bs => as.length + bs.length

/-- The characters for which `op` says so from whether they are in the first and in the second
set; it says no of those in neither. -/
def combine (op : Bool → Bool → Bool) (a b : CharSet) : CharSet :=
  ⟨mergeBounds op false false #[] a.bounds.toList b.bounds.toList⟩

/-- The characters of one of two sets. -/
def union (a b : CharSet) : CharSet := combine (· || ·) a b

/-- The characters of both of two sets. -/
def intersection (a b : CharSet) : CharSet := combine (· && ·) a b

/-- The characters of the first set that are not in the second. -/
def difference (a b : CharSet) : CharSet := combine (fun inA inB => inA && !inB) a b

/-- The characters of exactly one of two sets. -/
def symmetricDifference (a b : CharSet) : CharSet := combine (· != ·) a b

/-- The characters that are not in a set. -/
def complement (a : CharSet) : CharSet := all.difference a

/-- The complement if `negated`, else the set. -/
def negatedIf (negated : Bool) (a : CharSet) : CharSet := if negated then a.complement else a

/-- The characters of one of several sets. -/
def unions (sets : List CharSet) : CharSet := sets.foldl union empty

/-- The union of ranges. -/
def ofRanges (ranges : List (Char × Char)) : CharSet :=
  unions (ranges.map fun (first, last) => range first last)

/-- The set with the given codes, which increase. -/
def ofSortedCodes (codes : List Nat) : CharSet :=
  ⟨codes.foldl (fun bounds c =>
      if bounds.back? = some c then bounds.pop.push (c + 1) else (bounds.push c).push (c + 1)) #[]⟩

/-- The set with the given codes. -/
def ofCodes (codes : List Nat) : CharSet := ofSortedCodes (codes.mergeSort (· ≤ ·)).eraseReps

/-- The set written as words of a code or of two codes with a dash between them, both hexadecimal.
The codes increase, and between two words at least one code is left out. -/
def ofText (text : String) : CharSet :=
  ⟨(RunTable.words text).foldl (fun bounds word =>
      let first := RunTable.hexNumber (word.takeWhile RunTable.isHexDigit)
      let last := match word.dropWhile RunTable.isHexDigit with
        | '-' :: digits => RunTable.hexNumber digits
        | _ => first
      (bounds.push first).push (last + 1)) #[]⟩

/-- The codes from an even place of the bounds to the next, as pairs of first and last code. -/
def pairs : List Nat → List (Nat × Nat)
  | first :: next :: rest => (first, next - 1) :: pairs rest
  | _ => []

/-- The ranges of a set by first and last code. -/
def ranges (set : CharSet) : List (Nat × Nat) := pairs set.bounds.toList

/-- Whether all characters of a set are of ASCII. -/
def isAscii (set : CharSet) : Bool := set.bounds.all (· ≤ 128)

/-- The character of a set that has exactly one. -/
def only? (set : CharSet) : Option Char :=
  match set.ranges with
  | [(first, last)] => if first = last then some (Char.ofNat first) else none
  | _ => none

end CharSet

/-- The characters with a value that `holds` accepts. -/
def RunTable.toCharSet {α : Type} (table : RunTable α) (holds : α → Bool) : CharSet :=
  let runs := (table.starts.zip table.values).toList
  let bounds := runs.foldl (fun (bounds, inside) (start, value) =>
    (CharSet.turnAt bounds start inside (holds value), holds value)) (#[], false)
  CharSet.all.intersection
    ⟨if bounds.2 then bounds.1.push 0x110000 else bounds.1⟩

end RecordFilter.Unicode
