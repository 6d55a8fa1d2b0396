import RecordFilter.Json.Basic

set_option autoImplicit false

/-!
# Field values

What a record answers for one of its fields. Two equalities hold between values: `looselyEquals`
compares numbers of all kinds by what they count, `equals` keeps the kinds of numbers apart. A
value that no operator can compare is loosely equal to nothing, itself included.
-/

namespace RecordFilter

/-- The value of a field. -/
inductive Value where
  | null
  | bool (value : Bool)
  | number (value : Number)
  | text (value : String)
  | sequence (items : List Value)
  | map (entries : List (String × Value))
  /-- A value of a kind that no operator compares. -/
  | unsupported

namespace Value

/-! ## Parts -/

/-- Whether the field holds nothing. -/
def isNull : Value → Bool
  | .null => true
  | _ => false

/-- The string of a string value. -/
def text? : Value → Option String
  | .text s => some s
  | _ => none

/-- The number of a numeric value. -/
def number? : Value → Option Number
  | .number n => some n
  | _ => none

/-- The truth value of a boolean. -/
def bool? : Value → Option Bool
  | .bool b => some b
  | _ => none

/-- The length of a value that has one: bytes of a string in UTF-8, items of a sequence,
entries of a map. -/
def length? : Value → Option Nat
  | .text s => some s.utf8ByteSize
  | .sequence items => some items.length
  | .map entries => some entries.length
  | _ => none

/-- The name of the kind of a value. -/
def kindName : Value → String
  | .null => "null"
  | .bool _ => "bool"
  | .number _ => "number"
  | .text _ => "string"
  | .sequence _ => "sequence"
  | .map _ => "map"
  | .unsupported => "unsupported"

/-! ## Equality -/

mutual

/-- Deep equality that compares numbers of all kinds. -/
def looselyEquals : Value → Value → Bool
  | .null, .null => true
  | .bool a, .bool b => a == b
  | .number a, .number b => a.compare? b == some .eq
  | .text a, .text b => a == b
  | .sequence xs, .sequence ys => itemsLooselyEqual xs ys
  | .map xs, .map ys => entriesLooselyEqual xs ys
  | _, _ => false

/-- Sequences are loosely equal item by item. -/
def itemsLooselyEqual : List Value → List Value → Bool
  | [], [] => true
  | x :: xs, y :: ys => looselyEquals x y && itemsLooselyEqual xs ys
  | _, _ => false

/-- Maps are loosely equal entry by entry, in the order of their keys. -/
def entriesLooselyEqual : List (String × Value) → List (String × Value) → Bool
  | [], [] => true
  | (j, x) :: xs, (k, y) :: ys => j == k && looselyEquals x y && entriesLooselyEqual xs ys
  | _, _ => false

end

mutual

/-- Deep equality that keeps the kinds of numbers apart. -/
def equals : Value → Value → Bool
  | .null, .null => true
  | .bool a, .bool b => a == b
  | .number a, .number b => a.sameKindEquals b
  | .text a, .text b => a == b
  | .sequence xs, .sequence ys => itemsEqual xs ys
  | .map xs, .map ys => entriesEqual xs ys
  | .unsupported, .unsupported => true
  | _, _ => false

/-- Sequences are equal item by item. -/
def itemsEqual : List Value → List Value → Bool
  | [], [] => true
  | x :: xs, y :: ys => equals x y && itemsEqual xs ys
  | _, _ => false

/-- Maps are equal entry by entry. -/
def entriesEqual : List (String × Value) → List (String × Value) → Bool
  | [], [] => true
  | (j, x) :: xs, (k, y) :: ys => j == k && equals x y && entriesEqual xs ys
  | _, _ => false

end

/-! ## Documents as values -/

mutual

/-- The value of a document. -/
def ofJson : Json → Value
  | .null => .null
  | .bool b => .bool b
  | .number n => .number n.toNumber
  | .string s => .text s
  | .array items => .sequence (ofItems items)
  | .object members => .map (ofMembers members)

/-- The values of the items of an array. -/
def ofItems : List Json → List Value
  | [] => []
  | x :: xs => ofJson x :: ofItems xs

/-- The values of the members of an object. -/
def ofMembers : List (String × Json) → List (String × Value)
  | [] => []
  | (key, x) :: xs => (key, ofJson x) :: ofMembers xs

end

end Value

end RecordFilter
