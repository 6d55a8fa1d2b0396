import RecordFilter.Json.Printer
import RecordFilter.Json.Reader
import RecordFilter.Text.Quoted

set_option autoImplicit false

/-!
# Decoding

Values of the library's own types are decoded from source trees, front to back: the first thing that
is wrong in the text is the error. A value of the wrong kind is reported by what was found, once
that much of it has been read: words, numbers and strings whole, arrays and objects by their
bracket.
-/

namespace RecordFilter

/-! ## Errors -/

/-- What was found where something else belongs. -/
inductive Found where
  | null
  | bool (value : Bool)
  | number (value : JsonNumber)
  | text (value : String)
  | sequence
  | map

/-- How messages name what was found. -/
def Found.description : Found → String
  | .null => "null"
  | .bool true => "boolean `true`"
  | .bool false => "boolean `false`"
  | .number (.integer i) => "integer `" ++ String.ofList (Json.renderInteger i.value) ++ "`"
  | .number (.real x _) =>
    "floating point `" ++ String.ofList (Json.realLayout.renderBinary64 x) ++ "`"
  | .text s => "string " ++ Text.quoted s
  | .sequence => "sequence"
  | .map => "map"

/-- Why a text was not decoded. Values that have the right form can still be refused, for reasons
of type `ε`. -/
inductive DecodeError (ε : Type) where
  /-- The text is not JSON. -/
  | broken (breakage : Breakage)
  /-- A value of another kind. -/
  | unexpectedType (found : Found) (expected : String)
  /-- A value of the right kind that is out of range. -/
  | unexpectedValue (found : Found) (expected : String)
  /-- An array that is too short. -/
  | invalidLength (length : Nat) (expected : String)
  /-- A name that is not one of those known; `sort` says what it names. -/
  | unknownName (sort name : String) (known : List String)
  /-- A member that has to be there. -/
  | missingMember (name : String)
  /-- A member that was there before. -/
  | duplicateMember (name : String)
  /-- A value that is refused. -/
  | rejected (reason : ε)

/-- A name as messages show it. -/
def inBackticks (name : String) : String := "`" ++ name ++ "`"

/-- The text of an error of decoding. -/
def DecodeError.message {ε : Type} (reasonMessage : ε → String) : DecodeError ε → String
  | .broken _ => "malformed JSON"
  | .unexpectedType found expected =>
    "invalid type: " ++ found.description ++ ", expected " ++ expected
  | .unexpectedValue found expected =>
    "invalid value: " ++ found.description ++ ", expected " ++ expected
  | .invalidLength length expected =>
    "invalid length " ++ String.ofList (Nat.toDigits 10 length) ++ ", expected " ++ expected
  | .unknownName sort name known =>
    "unknown " ++ sort ++ " " ++ inBackticks name ++ ", expected one of " ++
      String.intercalate ", " (known.map inBackticks)
  | .missingMember name => "missing field " ++ inBackticks name
  | .duplicateMember name => "duplicate field " ++ inBackticks name
  | .rejected reason => reasonMessage reason

/-! ## Parts -/

namespace Source

variable {ε α : Type}

/-- The result of reading, as a result of decoding. -/
def orBroken (result : Except Breakage α) : Except (DecodeError ε) α :=
  result.mapError .broken

/-- What a tree shows to one who did not expect it. -/
def found : Source → Except Breakage Found
  | .null => .ok .null
  | .bool b => .ok (.bool b)
  | .number literal =>
    match literal.value? with
    | some n => .ok (.number n)
    | none => .error .malformed
  | .string content => (textOf content).map .text
  | .array _ _ => .ok .sequence
  | .object _ _ => .ok .map
  | .broken fault => .error fault.whenRead

/-- The error for a tree where `expected` belongs. -/
def unexpected (expected : String) (tree : Source) : Except (DecodeError ε) α := do
  throw (.unexpectedType (← orBroken tree.found) expected)

/-- The string that a tree is. -/
def decodeText (expected : String) : Source → Except (DecodeError ε) String
  | .string content => orBroken (textOf content)
  | other => other.unexpected expected

/-- The unsigned 64-bit integer that a tree is. -/
def decodeSize : Source → Except (DecodeError ε) Nat
  | .number literal =>
    match literal.value? with
    | some (.integer i) =>
      if 0 ≤ i.value then .ok i.value.toNat
      else .error (.unexpectedValue (.number (.integer i)) "usize")
    | some n => .error (.unexpectedType (.number n) "usize")
    | none => .error (.broken .malformed)
  | other => other.unexpected "usize"

/-- The items of the array that a tree is, each decoded by `decode`. -/
def decodeArray (decode : Source → Except (DecodeError ε) α) :
    Source → Except (DecodeError ε) (List α)
  | .array items stop => do
    let values ← items.mapM decode
    orBroken (readStop stop)
    return values
  | other => other.unexpected "a sequence"

/-- The value that a whole text is. -/
def decodeAll (decode : Source → Except (DecodeError ε) α) (text : String) :
    Except (DecodeError ε) α := do
  let (tree, rest) := ofText text
  let value ← decode tree
  orBroken (readEnd rest)
  return value

end Source

end RecordFilter
