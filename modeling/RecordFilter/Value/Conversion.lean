import Std.Data.HashMap.Basic
import Std.Data.TreeSet.Basic
import RecordFilter.Value.Basic

set_option autoImplicit false

/-!
# Values of ordinary types

`ToValue` says how the contents of a record's field become a value. Integers keep their
signedness, strings and characters become strings, absent options are null, and collections
become sequences, or maps if their keys are strings.
-/

namespace RecordFilter

/-- Types whose elements can be the contents of a field. -/
class ToValue (α : Type) where
  toValue : α → Value

instance : ToValue Value := ⟨id⟩
instance : ToValue Json := ⟨Value.ofJson⟩
instance : ToValue Number := ⟨.number⟩
instance : ToValue Bool := ⟨.bool⟩
instance : ToValue Char := ⟨fun c => .text (String.singleton c)⟩
instance : ToValue String := ⟨.text⟩
instance : ToValue Binary64 := ⟨fun x => .number (.real x)⟩

instance : ToValue Int8 := ⟨fun i => .number (.signed i.toInt64)⟩
instance : ToValue Int16 := ⟨fun i => .number (.signed i.toInt64)⟩
instance : ToValue Int32 := ⟨fun i => .number (.signed i.toInt64)⟩
instance : ToValue Int64 := ⟨fun i => .number (.signed i)⟩
instance : ToValue UInt8 := ⟨fun n => .number (.unsigned n.toUInt64)⟩
instance : ToValue UInt16 := ⟨fun n => .number (.unsigned n.toUInt64)⟩
instance : ToValue UInt32 := ⟨fun n => .number (.unsigned n.toUInt64)⟩
instance : ToValue UInt64 := ⟨fun n => .number (.unsigned n)⟩

variable {α : Type} [ToValue α]

instance : ToValue (Option α) := ⟨fun x => (x.map ToValue.toValue).getD .null⟩
instance : ToValue (List α) := ⟨fun xs => .sequence (xs.map ToValue.toValue)⟩
instance : ToValue (Array α) := ⟨fun xs => .sequence (xs.toList.map ToValue.toValue)⟩

/-- A sorted set is the sequence of its elements in their order. -/
instance {order : α → α → Ordering} : ToValue (Std.TreeSet α order) :=
  ⟨fun xs => .sequence (xs.toList.map ToValue.toValue)⟩

/-- A table by strings is a map, in the order of the keys. -/
instance : ToValue (Std.HashMap String α) :=
  ⟨fun table => .map (Entries.ofList (table.toList.map fun (key, x) => (key, ToValue.toValue x)))⟩

end RecordFilter
