import RecordFilter.Record.Path

set_option autoImplicit false

/-!
# Fields of documents

A path leads through a document member by member. Only objects have members, so a path through
anything else leads nowhere. Records of other types can be read through the document they are
serialized to.
-/

namespace RecordFilter

/-- The document that the segments lead to. -/
def Json.walk : Json → List String → Option Json
  | doc, [] => some doc
  | doc, segment :: rest => (doc.member? segment).bind fun child => child.walk rest

namespace Record

/-- The value a path leads to in a document. -/
def lookup : Accessor Json := fun doc path => do
  let (first, rest) ← Path.segments path
  return (doc.walk (first :: rest)).map Value.ofJson

/-- The accessor of records that are serialized to documents; a failing serialization is
reported before the path is looked at. -/
def serialized {α : Type} (serialize : α → Except String Json) : Accessor α := fun record path =>
  match serialize record with
  | .ok doc => lookup doc path
  | .error reason => .error (.extraction path reason)

end Record

end RecordFilter
