import RecordFilter.Query.Form
import RecordFilter.Url.Name

set_option autoImplicit false

/-!
# Hosts

Which texts can be the host of a URL: addresses of version 6 in brackets, names, and addresses
of version 4, which is what a name that ends in a number has to be. Where the scheme says nothing
about hosts, a host is any text without characters that delimit it.
-/

namespace RecordFilter.Url

/-! ## Addresses of version 4 -/

/-- The value of a digit to the given base. -/
def digit? (base : Nat) (c : Char) : Option Nat :=
  match Form.hexDigit? (Form.byte c) with
  | some d => if c.toNat < 128 ∧ d < base then some d else none
  | none => none

/-- The number that digits to a base spell. -/
def natural? (base : Nat) (digits : List Char) : Option Nat :=
  digits.foldlM (fun n c => (digit? base c).map fun d => base * n + d) 0

/-- A number of an address: decimal, octal after a zero, or hexadecimal after `0x`. -/
def addressNumber? : List Char → Option Nat
  | [] => none
  | '0' :: x :: digits =>
    if x = 'x' ∨ x = 'X' then natural? 16 digits else natural? 8 (x :: digits)
  | digits => natural? 10 digits

/-- The labels of a name without an empty one at its end. -/
def addressParts (labels : List (List Char)) : List (List Char) :=
  if 1 < labels.length ∧ labels.getLast? = some [] then labels.dropLast else labels

/-- Whether the name of some labels has to be an address. -/
def endsInNumber (labels : List (List Char)) : Bool :=
  match (addressParts labels).getLast? with
  | some last => !last.isEmpty && (last.all Char.isDigit || (addressNumber? last).isSome)
  | none => false

/-- Whether the name of some labels is an address: at most four numbers, all but the last a byte
each, the last the bytes that are left. -/
def isAddress4 (labels : List (List Char)) : Bool :=
  let pieces := addressParts labels
  match pieces.mapM addressNumber? with
  | some numbers =>
    pieces.length ≤ 4 &&
      match numbers.getLast? with
      | some last => last < Nat.pow 256 (5 - numbers.length) && numbers.dropLast.all (· ≤ 255)
      | none => false
  | none => false

/-! ## Addresses of version 6 -/

/-- Whether a piece is one to four hexadecimal digits. -/
def isHexPiece (piece : List Char) : Bool :=
  1 ≤ piece.length && piece.length ≤ 4 && (natural? 16 piece).isSome

/-- Whether a piece is four decimal bytes, without zeros before them. -/
def isDottedQuad (piece : List Char) : Bool :=
  let numbers := parts '.' piece
  numbers.length == 4 && numbers.all fun digits =>
    (digits.length == 1 || digits.head? ≠ some '0') && digits.length ≤ 3 &&
      !digits.isEmpty && (natural? 10 digits).any (· ≤ 255)

/-- How many of eight pieces the pieces between colons fill; the last of all may be a dotted quad,
which fills two. -/
def filledPieces? (last : Bool) : List (List Char) → Option Nat
  | [] => some 0
  | [piece] =>
    if isHexPiece piece then some 1 else if last && isDottedQuad piece then some 2 else none
  | piece :: rest => if isHexPiece piece then (filledPieces? last rest).map (· + 1) else none

/-- The parts before and after the first two colons in a row. -/
def cutDoubleColon : List Char → Option (List Char × List Char)
  | [] => none
  | c :: rest =>
    match c, rest with
    | ':', ':' :: after => some ([], after)
    | _, _ => (cutDoubleColon rest).map fun (before, after) => (c :: before, after)

/-- The pieces of one side of two colons, none if the side is empty. -/
def sidePieces (text : List Char) : List (List Char) := if text.isEmpty then [] else parts ':' text

/-- Whether a text is an address: eight pieces, or fewer with two colons in a row for the missing
ones. -/
def isAddress6 (text : List Char) : Bool :=
  match cutDoubleColon text with
  | none => filledPieces? true (parts ':' text) == some 8
  | some (before, after) =>
    match filledPieces? false (sidePieces before), filledPieces? true (sidePieces after) with
    | some m, some n => m + n ≤ 7
    | _, _ => false

/-! ## Hosts -/

/-- Whether a text is a host where hosts are names and addresses. -/
def isHost (text : List Char) : Bool :=
  match text with
  | '[' :: rest => rest.getLast? = some ']' && isAddress6 rest.dropLast
  | _ =>
    let name := Utf8.decode (Form.percentDecode (Utf8.encode text))
    let plain := labels name
    isName name && plain ≠ [[]] && (!endsInNumber plain || isAddress4 plain)

/-- Whether a text is a host where the scheme says nothing about hosts. -/
def isOpaqueHost (text : List Char) : Bool :=
  match text with
  | '[' :: rest => rest.getLast? = some ']' && isAddress6 rest.dropLast
  | _ => !text.any isForbiddenInHost

end RecordFilter.Url
