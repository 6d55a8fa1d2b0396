set_option autoImplicit false

/-!
# Texts as bytes

UTF-8 in both directions. Every text has its bytes; bytes that are no text are read with a
replacement character for each longest start of a character that does not go on.
-/

namespace RecordFilter.Utf8

/-- The bytes of a text. -/
def encode (text : List Char) : List UInt8 := text.flatMap String.utf8EncodeChar

/-- The character that stands for bytes that are none. -/
def replacement : Char := '\ufffd'

/-- The start of a character: the number its bytes spell so far, how many bytes are to come, and
between what bounds the next one lies. -/
structure Start where
  value : Nat
  left : Nat
  low : Nat
  high : Nat

/-- What a first byte begins: a whole character or the start of one. A byte that begins nothing is
a replacement character. -/
def begin (b : UInt8) : Except Char Start :=
  let n := b.toNat
  if n < 0x80 then .error (Char.ofNat n)
  else if 0xC2 ≤ n ∧ n ≤ 0xDF then .ok ⟨n - 0xC0, 1, 0x80, 0xBF⟩
  else if n = 0xE0 then .ok ⟨0, 2, 0xA0, 0xBF⟩
  else if n = 0xED then .ok ⟨0xD, 2, 0x80, 0x9F⟩
  else if 0xE1 ≤ n ∧ n ≤ 0xEF then .ok ⟨n - 0xE0, 2, 0x80, 0xBF⟩
  else if n = 0xF0 then .ok ⟨0, 3, 0x90, 0xBF⟩
  else if 0xF1 ≤ n ∧ n ≤ 0xF3 then .ok ⟨n - 0xF0, 3, 0x80, 0xBF⟩
  else if n = 0xF4 then .ok ⟨4, 3, 0x80, 0x8F⟩
  else .error replacement

/-- The text of bytes of which a character's start may have been read. -/
def decodeFrom : Option Start → List UInt8 → List Char
  | none, [] => []
  | some _, [] => [replacement]
  | none, b :: rest =>
    match begin b with
    | .error c => c :: decodeFrom none rest
    | .ok start => decodeFrom (some start) rest
  | some start, b :: rest =>
    let n := b.toNat
    if start.low ≤ n ∧ n ≤ start.high then
      let value := 64 * start.value + (n - 0x80)
      if start.left = 1 then Char.ofNat value :: decodeFrom none rest
      else decodeFrom (some ⟨value, start.left - 1, 0x80, 0xBF⟩) rest
    else
      match begin b with
      | .error c => replacement :: c :: decodeFrom none rest
      | .ok next => replacement :: decodeFrom (some next) rest

/-- The text of bytes. -/
def decode (bytes : List UInt8) : List Char := decodeFrom none bytes

end RecordFilter.Utf8
