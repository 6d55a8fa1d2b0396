import RecordFilter.Json.Source

set_option autoImplicit false

/-!
# Reading documents

`Source.toJson` walks a source tree front to back and gives its document. It refuses nesting
beyond a bound, numbers too large for a double and strings with a lone surrogate. `Json.parse`
reads a whole text.
-/

namespace RecordFilter

/-- Arrays and objects that may enclose each other in one text. -/
def nestingLimit : Nat := 127

namespace Source

/-- The end of an array or object that is read. -/
def readStop : Option Fault → Except Breakage Unit
  | none => .ok ()
  | some fault => .error fault.whenRead

/-- The string of a tree, unless a surrogate has no partner. -/
def textOf : Option String → Except Breakage String
  | some s => .ok s
  | none => .error .malformed

/-- The name of a member. -/
def nameOf : MemberName → Except Breakage String
  | .ok content => textOf content
  | .error fault => .error fault.whenRead

mutual

/-- The document of a tree nested at most `depth` deep. -/
def toJson : Nat → Source → Except Breakage Json
  | _, .null => .ok .null
  | _, .bool b => .ok (.bool b)
  | _, .number literal =>
    match literal.value? with
    | some n => .ok (.number n)
    | none => .error .malformed
  | _, .string content => do return .string (← textOf content)
  | 0, .array _ _ => .error .malformed
  | depth + 1, .array items stop => do
    let docs ← itemsToJson depth items
    readStop stop
    return .array docs
  | 0, .object _ _ => .error .malformed
  | depth + 1, .object members stop => do
    let docs ← membersToJson depth members
    readStop stop
    return .ofMembers docs
  | _, .broken fault => .error fault.whenRead

/-- The documents of the items of an array. -/
def itemsToJson : Nat → List Source → Except Breakage (List Json)
  | _, [] => .ok []
  | depth, x :: xs => do
    let doc ← toJson depth x
    return doc :: (← itemsToJson depth xs)

/-- The documents of the members of an object, in the order of the text. -/
def membersToJson :
    Nat → List (MemberName × Source) → Except Breakage (List (String × Json))
  | _, [] => .ok []
  | depth, (name, x) :: xs => do
    let key ← nameOf name
    let doc ← toJson depth x
    return (key, doc) :: (← membersToJson depth xs)

end

/-- Only blanks may follow the value of a text. -/
def readEnd : Option (List Char) → Except Breakage Unit
  | none => .error .malformed
  | some rest => if (skipBlanks rest).isEmpty then .ok () else .error .malformed

end Source

/-- The document that a text is. -/
def Json.parse (text : String) : Except Breakage Json := do
  let (tree, rest) := Source.ofText text
  let doc ← tree.toJson nestingLimit
  Source.readEnd rest
  return doc

end RecordFilter
