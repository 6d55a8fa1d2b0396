import RecordFilter.Record.Document

set_option autoImplicit false

/-!
# Shapes of records

A `Shape` says how the records of a type answer for their fields: documents by walking them, structs
field by field, pointers as what they point to, and optional records by their content or, when
absent, by what their type knows of its fields. `Shape.get?` asks a record, `Shape.has` asks the
type alone.

A pointer's type knows nothing of the fields behind it: it has every field. This shows only when
an optional pointer is absent.
-/

namespace RecordFilter

mutual

/-- How the records of a type answer for their fields. -/
inductive Shape where
  | document
  | struct (fields : Fields)
  | pointer (target : Shape)
  | optional (target : Shape)

/-- The fields of a struct in their order: plain ones hold a value, nested ones a record of
their own, and hidden ones have no name in rules. -/
inductive Fields where
  | nil
  | plain (name : String) (rest : Fields)
  | nested (name : String) (shape : Shape) (rest : Fields)
  | hidden (rest : Fields)

end

mutual

/-- The records of a shape. -/
def Shape.Record : Shape → Type
  | .document => Json
  | .struct fields => fields.Row
  | .pointer target => target.Record
  | .optional target => Option target.Record

/-- The contents of the fields of a struct. -/
def Fields.Row : Fields → Type
  | .nil => Unit
  | .plain _ rest => Value × rest.Row
  | .nested _ shape rest => shape.Record × rest.Row
  | .hidden rest => Value × rest.Row

end

namespace Shape

/-- The value of a record that a rule addresses as a whole. -/
def selfValue : (shape : Shape) → shape.Record → Value
  | .document, doc => .ofJson doc
  | .struct _, _ => .unsupported
  | .pointer target, record => target.selfValue record
  | .optional _, none => .null
  | .optional target, some record => target.selfValue record

end Shape

/-! ## What a type knows -/

mutual

/-- Whether the type has the field that a path with the given segments names. -/
def Shape.has : Shape → String → List String → Bool
  | .document, _, _ => true
  | .struct fields, first, rest => fields.has first rest
  | .pointer _, _, _ => true
  | .optional target, first, rest => target.has first rest

/-- Whether one of the fields answers to the segments. -/
def Fields.has : Fields → String → List String → Bool
  | .nil, _, _ => false
  | .plain name fields, first, rest => (name = first && rest.isEmpty) || fields.has first rest
  | .nested name shape fields, first, rest =>
    if name = first then
      match rest with
      | [] => true
      | next :: more => shape.has next more
    else fields.has first rest
  | .hidden fields, first, rest => fields.has first rest

end

/-! ## What a record answers -/

mutual

/-- The value of the field that a path with the given segments names, if there is one. -/
def Shape.get? : (shape : Shape) → shape.Record → String → List String → Option Value
  | .document, doc, first, rest => (Json.walk doc (first :: rest)).map Value.ofJson
  | .struct fields, row, first, rest => fields.get? row first rest
  | .pointer target, record, first, rest => target.get? record first rest
  | .optional target, none, first, rest => if target.has first rest then some .null else none
  | .optional target, some record, first, rest => target.get? record first rest

/-- The value of the first field that answers to the segments. -/
def Fields.get? : (fields : Fields) → fields.Row → String → List String → Option Value
  | .nil, _, _, _ => none
  | .plain name fields, (value, row), first, rest =>
    if name = first && rest.isEmpty then some value else fields.get? row first rest
  | .nested name shape fields, (record, row), first, rest =>
    if name = first then
      match rest with
      | [] => some (shape.selfValue record)
      | next :: more => shape.get? record next more
    else fields.get? row first rest
  | .hidden fields, (_, row), first, rest => fields.get? row first rest

end

namespace Shape

/-- Whether the type has the field that a path names. -/
def hasField (shape : Shape) (path : String) : Except Error Bool := do
  let (first, rest) ← Path.segments path
  return shape.has first rest

/-- The value of the field that a path names. -/
def fieldValue (shape : Shape) : Accessor shape.Record := fun record path => do
  let (first, rest) ← Path.segments path
  return shape.get? record first rest

end Shape

end RecordFilter
