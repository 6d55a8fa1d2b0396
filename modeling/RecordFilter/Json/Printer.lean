import RecordFilter.Json.Basic
import RecordFilter.Number.Shortest

set_option autoImplicit false

/-!
# The written form of documents

Documents are written without blanks. Strings escape the quote, the backslash and the control
characters below the blank; all other characters stand for themselves.
-/

namespace RecordFilter.Json

/-- Doubles are written positionally from `10^-5` on and below `10^16`. -/
def realLayout : DecimalLayout := ⟨-5, 15⟩

/-- The written form of a character inside a string. -/
def escape (c : Char) : List Char :=
  if c = '"' then ['\\', '"']
  else if c = '\\' then ['\\', '\\']
  else if 0x20 ≤ c.toNat then [c]
  else if c = '\x08' then ['\\', 'b']
  else if c = '\t' then ['\\', 't']
  else if c = '\n' then ['\\', 'n']
  else if c = '\x0c' then ['\\', 'f']
  else if c = '\r' then ['\\', 'r']
  else ['\\', 'u', '0', '0', Nat.digitChar (c.toNat / 16), Nat.digitChar (c.toNat % 16)]

/-- A quoted string. -/
def quote (s : String) : List Char := '"' :: s.toList.flatMap escape ++ ['"']

/-- The digits of an integer, after a minus if it is negative. -/
def renderInteger (i : Int) : List Char :=
  if i < 0 then '-' :: Nat.toDigits 10 i.natAbs else Nat.toDigits 10 i.natAbs

/-- The written form of a number. -/
def renderNumber : JsonNumber → List Char
  | .integer i => renderInteger i.value
  | .real x _ => realLayout.renderBinary64 x

mutual

/-- The written form of a document. -/
def render : Json → List Char
  | .null => ['n', 'u', 'l', 'l']
  | .bool true => ['t', 'r', 'u', 'e']
  | .bool false => ['f', 'a', 'l', 's', 'e']
  | .number n => renderNumber n
  | .string s => quote s
  | .array items => '[' :: renderItems items ++ [']']
  | .object members => '\x7b' :: renderMembers members ++ ['\x7d']

/-- The items of an array, with commas between them. -/
def renderItems : List Json → List Char
  | [] => []
  | x :: xs => render x ++ renderMoreItems xs

/-- The items after the first, each after a comma. -/
def renderMoreItems : List Json → List Char
  | [] => []
  | x :: xs => ',' :: render x ++ renderMoreItems xs

/-- The members of an object, with commas between them. -/
def renderMembers : List (String × Json) → List Char
  | [] => []
  | (key, x) :: xs => quote key ++ ':' :: render x ++ renderMoreMembers xs

/-- The members after the first, each after a comma. -/
def renderMoreMembers : List (String × Json) → List Char
  | [] => []
  | (key, x) :: xs => ',' :: quote key ++ ':' :: render x ++ renderMoreMembers xs

end

/-- The text of a document. -/
def text (doc : Json) : String := String.ofList doc.render

end RecordFilter.Json
