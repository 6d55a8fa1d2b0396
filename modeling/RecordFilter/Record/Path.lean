import RecordFilter.Error
import RecordFilter.Value.Basic

set_option autoImplicit false

/-!
# Field paths

A path names a field, and with dots a field of a field. It is well formed when no segment
between the dots is empty; every accessor that knows paths refuses the others, and names the whole
path when it does.
-/

namespace RecordFilter

/-- A way to ask records for the values of their fields: a record may answer with a value, have no
such field, or fail with any error. -/
abbrev Accessor (α : Type) := α → String → Except Error (Option Value)

namespace Path

/-- The parts of a text between its dots, one more than there are dots. -/
def splitDots : List Char → List Char × List (List Char)
  | [] => ([], [])
  | c :: rest =>
    let (part, parts) := splitDots rest
    if c = '.' then ([], part :: parts) else (c :: part, parts)

/-- The segments of a well-formed path: the first one and the others. -/
def segments (path : String) : Except Error (String × List String) :=
  let (part, parts) := splitDots path.toList
  if (part :: parts).any List.isEmpty then .error (.malformedPath path)
  else .ok (String.ofList part, parts.map String.ofList)

/-- The path with the given segments. -/
def join (first : String) (rest : List String) : String :=
  rest.foldl (fun path segment => path ++ "." ++ segment) first

/-- The first segment of a well-formed path and the path that the others make, if there are
others. -/
def split (path : String) : Except Error (String × Option String) :=
  (segments path).map fun
    | (first, []) => (first, none)
    | (first, next :: rest) => (first, some (join next rest))

end Path

end RecordFilter
