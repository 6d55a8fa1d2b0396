import RecordFilter.Text.Utf8

set_option autoImplicit false

/-!
# Bytes of texts

The bytes of a text are read as that text (`decode_encode`). A character takes up to four bytes; the
first one says how many come after it and what the next one may be, so that no character is read
from more bytes than it needs and no surrogate is read at all. What remains is arithmetic: each
byte adds six bits to those before it.

Bytes below `0x80` are characters of their own (`encode_decode_of_ascii`).
-/

namespace RecordFilter.Utf8

/-! ## Bytes after the first -/

theorem toNat_ofNat_of_lt {n : Nat} (small : n < 256) : (UInt8.ofNat n).toNat = n := by
  rw [UInt8.toNat_ofNat']
  omega

/-- A byte within the bounds goes on with the character. -/
theorem decodeFrom_more {start : Start} {n : Nat} (rest : List UInt8)
    (small : n < 256) (low : start.low ≤ n) (high : n ≤ start.high) (more : start.left ≠ 1) :
    decodeFrom (some start) (UInt8.ofNat n :: rest) =
      decodeFrom (some ⟨64 * start.value + (n - 0x80), start.left - 1, 0x80, 0xBF⟩) rest := by
  simp only [decodeFrom, toNat_ofNat_of_lt small, low, high, and_self, if_true, if_neg more]

/-- A byte within the bounds ends the character. -/
theorem decodeFrom_last {start : Start} {n : Nat} (rest : List UInt8)
    (small : n < 256) (low : start.low ≤ n) (high : n ≤ start.high) (last : start.left = 1) :
    decodeFrom (some start) (UInt8.ofNat n :: rest) =
      Char.ofNat (64 * start.value + (n - 0x80)) :: decodeFrom none rest := by
  simp only [decodeFrom, toNat_ofNat_of_lt small, low, high, and_self, if_true, last]

theorem decodeFrom_begin {b : UInt8} {start : Start} (rest : List UInt8)
    (begins : begin b = .ok start) :
    decodeFrom none (b :: rest) = decodeFrom (some start) rest := by
  rw [decodeFrom, begins]

/-! ## First bytes -/

theorem begin_of_one {n : Nat} (small : n < 0x80) :
    begin (UInt8.ofNat n) = .error (Char.ofNat n) := by
  simp only [begin, toNat_ofNat_of_lt (show n < 256 by omega), if_pos small]

theorem begin_of_two {n : Nat} (low : 0x80 ≤ n) (high : n < 0x800) :
    begin (UInt8.ofNat (n / 64 % 32 + 192)) = .ok ⟨n / 64, 1, 0x80, 0xBF⟩ := by
  have value : n / 64 % 32 + 192 - 0xC0 = n / 64 := by omega
  simp only [begin, toNat_ofNat_of_lt (show n / 64 % 32 + 192 < 256 by omega)]
  rw [if_neg (by omega), if_pos (by omega), value]

/-- The first byte of three leaves out what is too small for three bytes, and the surrogates. -/
theorem begin_of_three {n : Nat} (low : 0x800 ≤ n) (high : n < 0x10000)
    (char : n < 0xD800 ∨ 0xDFFF < n) :
    ∃ start, begin (UInt8.ofNat (n / 4096 % 16 + 224)) = .ok start ∧ start.value = n / 4096 ∧
      start.left = 2 ∧ start.low ≤ n / 64 % 64 + 128 ∧ n / 64 % 64 + 128 ≤ start.high := by
  simp only [begin, toNat_ofNat_of_lt (show n / 4096 % 16 + 224 < 256 by omega)]
  rw [if_neg (by omega), if_neg (by omega)]
  by_cases first : n / 4096 % 16 + 224 = 0xE0
  · rw [if_pos first]
    exact ⟨_, rfl, by dsimp only; omega⟩
  by_cases surrogates : n / 4096 % 16 + 224 = 0xED
  · rw [if_neg first, if_pos surrogates]
    exact ⟨_, rfl, by dsimp only; omega⟩
  · rw [if_neg first, if_neg surrogates, if_pos (by omega)]
    exact ⟨_, rfl, by dsimp only; omega⟩

/-- The first byte of four leaves out what is too small for four bytes, and what is too large. -/
theorem begin_of_four {n : Nat} (low : 0x10000 ≤ n) (high : n < 0x110000) :
    ∃ start, begin (UInt8.ofNat (n / 262144 % 8 + 240)) = .ok start ∧ start.value = n / 262144 ∧
      start.left = 3 ∧ start.low ≤ n / 4096 % 64 + 128 ∧ n / 4096 % 64 + 128 ≤ start.high := by
  simp only [begin, toNat_ofNat_of_lt (show n / 262144 % 8 + 240 < 256 by omega)]
  rw [if_neg (by omega), if_neg (by omega), if_neg (by omega), if_neg (by omega), if_neg (by omega)]
  by_cases first : n / 262144 % 8 + 240 = 0xF0
  · rw [if_pos first]
    exact ⟨_, rfl, by dsimp only; omega⟩
  by_cases last : n / 262144 % 8 + 240 = 0xF4
  · rw [if_neg first, if_neg (by omega), if_pos last]
    exact ⟨_, rfl, by dsimp only; omega⟩
  · rw [if_neg first, if_pos (by omega)]
    exact ⟨_, rfl, by dsimp only; omega⟩

/-! ## Characters -/

/-- The bytes of a character are read as the character. -/
theorem decodeFrom_encodeChar (c : Char) (rest : List UInt8) :
    decodeFrom none (String.utf8EncodeChar c ++ rest) = c :: decodeFrom none rest := by
  obtain ⟨n, number⟩ : ∃ n, c.toNat = n := ⟨_, rfl⟩
  have char : Char.ofNat n = c := by rw [← number, Char.ofNat_toNat]
  have valid : n < 0xD800 ∨ 0xDFFF < n ∧ n < 0x110000 := number ▸ c.valid
  have bytes : c.val.toNat = n := number
  simp only [String.utf8EncodeChar, bytes]
  -- One, two, three or four bytes, as the number of the character is large.
  split
  case isTrue one =>
    rw [List.singleton_append, decodeFrom, begin_of_one (by omega)]
    exact congrArg (· :: _) char
  split
  case isTrue two =>
    rw [List.cons_append, decodeFrom_begin _ (begin_of_two (by omega) (by omega)),
      List.singleton_append, decodeFrom_last rest (by omega) (by dsimp only; omega)
        (by dsimp only; omega) rfl]
    have value : 64 * (n / 64) + (n % 64 + 128 - 0x80) = n := by omega
    rw [value, char]
  split
  case isTrue three =>
    obtain ⟨start, begins, value, left, low, high⟩ :=
      begin_of_three (n := n) (by omega) (by omega) (by omega)
    rw [List.cons_append, decodeFrom_begin _ begins, List.cons_append,
      decodeFrom_more _ (by omega) low high (by omega), List.singleton_append,
      decodeFrom_last rest (by omega) (by dsimp only; omega) (by dsimp only; omega)
        (by dsimp only; omega)]
    have whole :
        64 * (64 * (n / 4096) + (n / 64 % 64 + 128 - 0x80)) + (n % 64 + 128 - 0x80) = n := by
      omega
    rw [value, whole, char]
  case isFalse four =>
    obtain ⟨start, begins, value, left, low, high⟩ :=
      begin_of_four (n := n) (by omega) (by omega)
    rw [List.cons_append, decodeFrom_begin _ begins, List.cons_append,
      decodeFrom_more _ (by omega) low high (by omega), List.cons_append,
      decodeFrom_more _ (by omega) (by dsimp only; omega) (by dsimp only; omega)
        (by dsimp only; omega), List.singleton_append,
      decodeFrom_last rest (by omega) (by dsimp only; omega) (by dsimp only; omega)
        (by dsimp only; omega)]
    have whole : 64 * (64 * (64 * (n / 262144) + (n / 4096 % 64 + 128 - 0x80)) +
        (n / 64 % 64 + 128 - 0x80)) + (n % 64 + 128 - 0x80) = n := by
      omega
    rw [value, whole, char]

/-- The bytes of a text are read as the text. -/
theorem decode_encode (text : List Char) : decode (encode text) = text := by
  rw [decode, encode]
  induction text with
  | nil => rfl
  | cons c text ih => rw [List.flatMap_cons, decodeFrom_encodeChar, ih]

/-! ## Bytes that are characters -/

theorem encodeChar_ofNat {n : Nat} (small : n < 0x80) :
    String.utf8EncodeChar (Char.ofNat n) = [UInt8.ofNat n] := by
  have bytes : (Char.ofNat n).val.toNat = n := by
    have valid : n.isValidChar := .inl (by omega)
    rw [Char.ofNat, dif_pos valid]
    rfl
  simp only [String.utf8EncodeChar, bytes]
  rw [if_pos (by omega)]

/-- Bytes below `0x80` are a text that has these bytes. -/
theorem encode_decode_of_ascii {bytes : List UInt8} (ascii : ∀ b ∈ bytes, b.toNat < 0x80) :
    encode (decode bytes) = bytes := by
  rw [decode, encode]
  induction bytes with
  | nil => rfl
  | cons b bytes ih =>
    have small : b.toNat < 0x80 := ascii b (.head _)
    have begins : begin b = .error (Char.ofNat b.toNat) := by
      have one := begin_of_one small
      rwa [UInt8.ofNat_toNat] at one
    rw [decodeFrom, begins, List.flatMap_cons, encodeChar_ofNat small, UInt8.ofNat_toNat,
      ih fun other mem => ascii other (.tail _ mem)]
    rfl

end RecordFilter.Utf8
