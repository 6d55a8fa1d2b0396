import RecordFilter.Text.Utf8

set_option autoImplicit false

/-!
# Form data

Pairs of texts in the form `application/x-www-form-urlencoded`: pairs are joined by `&`, a key
and its value by `=`, a blank is a plus, and bytes other than those of ASCII letters, digits and a
few marks are written by their number after a percent sign. Reading takes any text.
-/

namespace RecordFilter.Form

/-! ## Percent signs -/

/-- The byte of an ASCII character. -/
def byte (c : Char) : UInt8 := UInt8.ofNat c.toNat

/-- The value of a hexadecimal digit in either case. -/
def hexDigit? (b : UInt8) : Option Nat :=
  let n := b.toNat
  if '0'.toNat ≤ n ∧ n ≤ '9'.toNat then some (n - '0'.toNat)
  else if 'a'.toNat ≤ n ∧ n ≤ 'f'.toNat then some (n - 'a'.toNat + 10)
  else if 'A'.toNat ≤ n ∧ n ≤ 'F'.toNat then some (n - 'A'.toNat + 10)
  else none

/-- Bytes with the numbers after percent signs replaced by the bytes they stand for. A percent sign
without two digits stands for itself. -/
def percentDecode : List UInt8 → List UInt8
  | [] => []
  | b :: rest =>
    match rest with
    | high :: low :: more =>
      match b == byte '%', hexDigit? high, hexDigit? low with
      | true, some h, some l => UInt8.ofNat (16 * h + l) :: percentDecode more
      | _, _, _ => b :: percentDecode (high :: low :: more)
    | short => b :: percentDecode short

/-- The number of a byte after a percent sign. -/
def percentByte (b : UInt8) : List UInt8 :=
  let digit (n : Nat) : UInt8 := byte (Nat.digitChar n).toUpper
  [byte '%', digit (b.toNat / 16), digit (b.toNat % 16)]

/-! ## Reading -/

/-- The parts before and after the first place where a byte stands. -/
def cutAt (separator : UInt8) : List UInt8 → List UInt8 × List UInt8
  | [] => ([], [])
  | b :: rest =>
    if b = separator then ([], rest)
    else
      let (before, after) := cutAt separator rest
      (b :: before, after)

/-- The parts between the places where a byte stands. -/
def splitAt (separator : UInt8) : List UInt8 → List UInt8 × List (List UInt8)
  | [] => ([], [])
  | b :: rest =>
    let (part, parts) := splitAt separator rest
    if b = separator then ([], part :: parts) else (b :: part, parts)

/-- The text of a key or value. -/
def decodePart (bytes : List UInt8) : String :=
  let blanks := bytes.map fun b => if b = byte '+' then byte ' ' else b
  String.ofList (Utf8.decode (percentDecode blanks))

/-- A key and its value, which is empty unless there is a `=`. -/
def decodePair (bytes : List UInt8) : String × String :=
  let (key, value) := cutAt (byte '=') bytes
  (decodePart key, decodePart value)

/-- The pairs of a text; nothing between two `&` is no pair. -/
def decode (text : String) : List (String × String) :=
  let (part, parts) := splitAt (byte '&') (Utf8.encode text.toList)
  ((part :: parts).filter fun bytes => !bytes.isEmpty).map decodePair

/-! ## Writing -/

/-- Whether a byte stands for itself in form data. -/
def isPlain (b : UInt8) : Bool :=
  let c := Char.ofNat b.toNat
  c.isAlphanum || c = '*' || c = '-' || c = '.' || c = '_'

/-- The written form of a byte. -/
def encodeByte (b : UInt8) : List UInt8 :=
  if isPlain b then [b] else if b = byte ' ' then [byte '+'] else percentByte b

/-- The written form of a text. -/
def encodePart (text : String) : List UInt8 := (Utf8.encode text.toList).flatMap encodeByte

/-- The written form of a pair. -/
def encodePair (pair : String × String) : List UInt8 :=
  encodePart pair.1 ++ byte '=' :: encodePart pair.2

/-- The written form of pairs. -/
def encodePairs : List (String × String) → List UInt8
  | [] => []
  | [pair] => encodePair pair
  | pair :: pairs => encodePair pair ++ byte '&' :: encodePairs pairs

/-- Pairs as a text. -/
def encode (pairs : List (String × String)) : String :=
  String.ofList (Utf8.decode (encodePairs pairs))

end RecordFilter.Form
