import RecordFilter.Entries
import RecordFilter.Number.Basic

set_option autoImplicit false

/-!
# JSON documents

A document's number is an integer that 64 bits can hold, signed or unsigned, or a finite
double. The members of an object have increasing keys: an `OrderedJson` carries the proof of it.
-/

namespace RecordFilter

/-- An integer that fits a signed or an unsigned 64-bit word. -/
structure WordInteger where
  value : Int
  inRange : -0x8000000000000000 ≤ value ∧ value < 0x10000000000000000
deriving DecidableEq

/-- A number of a document. -/
inductive JsonNumber where
  | integer (value : WordInteger)
  | real (value : Binary64) (finite : value.isFinite = true)
deriving DecidableEq

namespace JsonNumber

/-- The number as a field value: signed if it fits, else unsigned or real. -/
def toNumber : JsonNumber → Number
  | .integer i =>
    if i.value < 0x8000000000000000 then .signed (Int64.ofInt i.value)
    else .unsigned (UInt64.ofNat i.value.toNat)
  | .real x _ => .real x

/-- The double nearest to the number. -/
def toBinary64 : JsonNumber → Binary64
  | .integer i => .ofInt i.value
  | .real x _ => x

/-- Equality of numbers of the same kind; doubles are equal numerically. -/
def equals : JsonNumber → JsonNumber → Bool
  | .integer i, .integer j => i.value == j.value
  | .real x _, .real y _ => x.equals y
  | _, _ => false

end JsonNumber

/-- A JSON document. -/
inductive Json where
  | null
  | bool (value : Bool)
  | number (value : JsonNumber)
  | string (value : String)
  | array (items : List Json)
  | object (members : List (String × Json))
deriving Inhabited

namespace Json

/-- The object with the given members; of several with one key the last counts. -/
def ofMembers (members : List (String × Json)) : Json := .object (Entries.ofList members)

/-- The number of a double, null unless it is finite. -/
def ofBinary64 (x : Binary64) : Json :=
  if h : x.isFinite = true then .number (.real x h) else .null

/-- The member of an object with the given name; other documents have none. -/
def member? (name : String) : Json → Option Json
  | .object members => Entries.get? name members
  | _ => none

/-- The name of a document's type. -/
def typeName : Json → String
  | .null => "null"
  | .bool _ => "bool"
  | .number _ => "number"
  | .string _ => "string"
  | .array _ => "array"
  | .object _ => "object"

/-! ## Equality -/

mutual

/-- Equality of documents: integers differ from doubles, and doubles are equal numerically. -/
def equals : Json → Json → Bool
  | .null, .null => true
  | .bool a, .bool b => a == b
  | .number a, .number b => a.equals b
  | .string a, .string b => a == b
  | .array xs, .array ys => equalsItems xs ys
  | .object xs, .object ys => equalsMembers xs ys
  | _, _ => false

/-- Equality of arrays. -/
def equalsItems : List Json → List Json → Bool
  | [], [] => true
  | x :: xs, y :: ys => equals x y && equalsItems xs ys
  | _, _ => false

/-- Equality of objects. -/
def equalsMembers : List (String × Json) → List (String × Json) → Bool
  | [], [] => true
  | (j, x) :: xs, (k, y) :: ys => j == k && equals x y && equalsMembers xs ys
  | _, _ => false

end

/-! ## Nesting -/

mutual

/-- How many arrays and objects enclose the innermost part of a document. -/
def depth : Json → Nat
  | .array items => depthItems items + 1
  | .object members => depthMembers members + 1
  | _ => 0

/-- The greatest depth of the items of an array. -/
def depthItems : List Json → Nat
  | [] => 0
  | x :: xs => max (depth x) (depthItems xs)

/-- The greatest depth of the members of an object. -/
def depthMembers : List (String × Json) → Nat
  | [] => 0
  | (_, x) :: xs => max (depth x) (depthMembers xs)

end

/-! ## Order -/

mutual

/-- The members of every object in a document are in the order of their keys. -/
def Ordered : Json → Prop
  | .array items => OrderedItems items
  | .object members => Entries.Increasing members ∧ OrderedMembers members
  | _ => True

/-- Every item of an array is in order. -/
def OrderedItems : List Json → Prop
  | [] => True
  | x :: xs => Ordered x ∧ OrderedItems xs

/-- The value of every member of an object is in order. -/
def OrderedMembers : List (String × Json) → Prop
  | [] => True
  | (_, x) :: xs => Ordered x ∧ OrderedMembers xs

end

mutual

/-- Whether a document is in order. -/
def decideOrdered : (doc : Json) → Decidable doc.Ordered
  | .null | .bool _ | .number _ | .string _ => isTrue trivial
  | .array items => decideItems items
  | .object members => @instDecidableAnd _ _ inferInstance (decideMembers members)

/-- Whether the items of an array are in order. -/
def decideItems : (items : List Json) → Decidable (OrderedItems items)
  | [] => isTrue trivial
  | x :: xs => @instDecidableAnd _ _ (decideOrdered x) (decideItems xs)

/-- Whether the members of an object are in order. -/
def decideMembers : (members : List (String × Json)) → Decidable (OrderedMembers members)
  | [] => isTrue trivial
  | (_, x) :: xs => @instDecidableAnd _ _ (decideOrdered x) (decideMembers xs)

end

instance (doc : Json) : Decidable doc.Ordered := decideOrdered doc

theorem orderedItems_iff {items : List Json} :
    OrderedItems items ↔ ∀ item ∈ items, item.Ordered := by
  induction items with
  | nil => simp [OrderedItems]
  | cons item items ih => rw [OrderedItems, ih, List.forall_mem_cons]

theorem orderedMembers_iff {members : List (String × Json)} :
    OrderedMembers members ↔ ∀ member ∈ members, member.2.Ordered := by
  induction members with
  | nil => simp [OrderedMembers]
  | cons member members ih => rw [OrderedMembers, ih, List.forall_mem_cons]

end Json

/-- A document as it is held: in order. -/
structure OrderedJson where
  document : Json
  ordered : document.Ordered

namespace OrderedJson

instance : Coe OrderedJson Json := ⟨document⟩

/-- No value. -/
def null : OrderedJson := ⟨.null, trivial⟩

/-- A truth value. -/
def bool (value : Bool) : OrderedJson := ⟨.bool value, trivial⟩

/-- A number. -/
def number (value : JsonNumber) : OrderedJson := ⟨.number value, trivial⟩

/-- A text. -/
def string (value : String) : OrderedJson := ⟨.string value, trivial⟩

/-- Documents one after the other. -/
def array (items : List OrderedJson) : OrderedJson where
  document := .array (items.map document)
  ordered := by
    refine Json.orderedItems_iff.2 fun item mem => ?_
    obtain ⟨inner, -, rfl⟩ := List.mem_map.1 mem
    exact inner.ordered

end OrderedJson

end RecordFilter
