import RecordFilter.Proofs.Text.Utf8
import RecordFilter.Query.Form

set_option autoImplicit false

/-!
# Form data that is read back

Pairs of texts that are written as form data are read as the same pairs (`decode_encode`). Every
byte is written so that it is read back behind whatever was read before
(`percentDecode_encodeByte`), with bytes that stand for no separator (`encodeByte_plain`); so the
separators in the written form are those that were put between keys, values and pairs, and the
reader cuts it where it was joined.
-/

namespace RecordFilter.Form

/-! ## Bytes -/

/-- What holds of the bytes of all numbers below 256 holds of all bytes. -/
theorem forall_byte {P : UInt8 → Prop} (each : ∀ n, n < 256 → P (UInt8.ofNat n)) (b : UInt8) :
    P b := by
  have holds := each b.toNat b.toNat_lt
  rwa [UInt8.ofNat_toNat] at holds

/-- The bytes that a byte is written with are characters, and none of them is a separator or a
question mark. -/
theorem encodeByte_plain (b : UInt8) : ∀ x ∈ encodeByte b,
    x.toNat < 0x80 ∧ x ≠ byte '&' ∧ x ≠ byte '=' ∧ x ≠ byte '?' := by
  -- Decided as one search through the written bytes, not for every byte there is.
  have each : ∀ b, (encodeByte b).all (fun x => decide (x.toNat < 0x80) && x != byte '&' &&
      x != byte '=' && x != byte '?') = true := by
    apply forall_byte
    decide +kernel
  intro x mem
  have plain := List.all_eq_true.1 (each b) x mem
  simpa only [Bool.and_eq_true, decide_eq_true_iff, bne_iff_ne, and_assoc] using plain

/-- What the reader takes for a byte before it looks for percent signs. -/
def plusToBlank (b : UInt8) : UInt8 := if b = byte '+' then byte ' ' else b

theorem plusToBlank_of_isPlain (b : UInt8) :
    isPlain b = true → plusToBlank b = b ∧ b ≠ byte '%' := by
  revert b
  apply forall_byte
  decide +kernel

theorem plusToBlank_percentByte (b : UInt8) : (percentByte b).map plusToBlank = percentByte b := by
  revert b
  apply forall_byte
  decide +kernel

/-! ## Percent signs -/

theorem hexDigit_digitChar : ∀ n, n < 16 → hexDigit? (byte (Nat.digitChar n).toUpper) = some n := by
  decide

theorem percentDecode_of_ne {b : UInt8} (ne : b ≠ byte '%') (rest : List UInt8) :
    percentDecode (b :: rest) = b :: percentDecode rest := by
  have no_sign : (b == byte '%') = false := beq_eq_false_iff_ne.2 ne
  match rest with
  | [] => rfl
  | [_] => rfl
  | high :: low :: more => rw [percentDecode, no_sign]

theorem percentDecode_percentByte (b : UInt8) (rest : List UInt8) :
    percentDecode (percentByte b ++ rest) = b :: percentDecode rest := by
  have small := b.toNat_lt
  have high := hexDigit_digitChar (b.toNat / 16) (by omega)
  have low := hexDigit_digitChar (b.toNat % 16) (by omega)
  have number : 16 * (b.toNat / 16) + b.toNat % 16 = b.toNat := Nat.div_add_mod _ _
  simp only [percentByte, List.cons_append, List.nil_append]
  rw [percentDecode, high, low, beq_self_eq_true]
  simp only [number, UInt8.ofNat_toNat]

/-- The written form of a byte is read as the byte. -/
theorem percentDecode_encodeByte (b : UInt8) (rest : List UInt8) :
    percentDecode ((encodeByte b).map plusToBlank ++ rest) = b :: percentDecode rest := by
  rw [encodeByte]
  split
  case isTrue plain =>
    obtain ⟨same, no_sign⟩ := plusToBlank_of_isPlain b plain
    rw [List.map_singleton, same, List.singleton_append, percentDecode_of_ne no_sign]
  split
  case isTrue blank =>
    subst blank
    exact percentDecode_of_ne (by decide) rest
  case isFalse coded => rw [plusToBlank_percentByte, percentDecode_percentByte]

theorem percentDecode_flatMap_encodeByte (bytes : List UInt8) :
    percentDecode ((bytes.flatMap encodeByte).map plusToBlank) = bytes := by
  induction bytes with
  | nil => rfl
  | cons b bytes ih =>
    rw [List.flatMap_cons, List.map_append, percentDecode_encodeByte, ih]

/-! ## Texts -/

/-- A written text is read as the text. -/
theorem decodePart_encodePart (text : String) : decodePart (encodePart text) = text := by
  show String.ofList (Utf8.decode (percentDecode ((encodePart text).map plusToBlank))) = text
  rw [encodePart, percentDecode_flatMap_encodeByte, Utf8.decode_encode, String.ofList_toList]

theorem encodePart_plain (text : String) : ∀ x ∈ encodePart text,
    x.toNat < 0x80 ∧ x ≠ byte '&' ∧ x ≠ byte '=' ∧ x ≠ byte '?' := by
  intro x mem
  obtain ⟨b, -, mem⟩ := List.mem_flatMap.1 mem
  exact encodeByte_plain b x mem

/-! ## Separators -/

section Separators

variable {separator : UInt8} {part : List UInt8}

theorem cutAt_append (absent : separator ∉ part) (after : List UInt8) :
    cutAt separator (part ++ separator :: after) = (part, after) := by
  induction part with
  | nil => exact if_pos rfl
  | cons b part ih =>
    have ne : b ≠ separator := fun same => absent (same ▸ .head _)
    rw [List.cons_append, cutAt, if_neg ne, ih fun mem => absent (.tail _ mem)]

theorem splitAt_self (absent : separator ∉ part) : splitAt separator part = (part, []) := by
  induction part with
  | nil => rfl
  | cons b part ih =>
    have ne : b ≠ separator := fun same => absent (same ▸ .head _)
    rw [splitAt, ih fun mem => absent (.tail _ mem)]
    exact if_neg ne

theorem splitAt_append (absent : separator ∉ part) (after : List UInt8) :
    splitAt separator (part ++ separator :: after) =
      (part, (splitAt separator after).1 :: (splitAt separator after).2) := by
  induction part with
  | nil => exact if_pos rfl
  | cons b part ih =>
    have ne : b ≠ separator := fun same => absent (same ▸ .head _)
    rw [List.cons_append, splitAt, ih fun mem => absent (.tail _ mem)]
    exact if_neg ne

end Separators

/-! ## Pairs -/

/-- A written pair is read as the pair. -/
theorem decodePair_encodePair (pair : String × String) : decodePair (encodePair pair) = pair := by
  have absent : byte '=' ∉ encodePart pair.1 := fun mem => (encodePart_plain pair.1 _ mem).2.2.1 rfl
  rw [decodePair, encodePair, cutAt_append absent]
  exact Prod.ext (decodePart_encodePart pair.1) (decodePart_encodePart pair.2)

theorem encodePair_plain (pair : String × String) : ∀ x ∈ encodePair pair,
    x.toNat < 0x80 ∧ x ≠ byte '&' ∧ x ≠ byte '?' := by
  intro x mem
  rcases List.mem_append.1 mem with mem | mem
  · obtain ⟨ascii, no_amp, -, no_mark⟩ := encodePart_plain pair.1 x mem
    exact ⟨ascii, no_amp, no_mark⟩
  rcases List.mem_cons.1 mem with rfl | mem
  · decide
  · obtain ⟨ascii, no_amp, -, no_mark⟩ := encodePart_plain pair.2 x mem
    exact ⟨ascii, no_amp, no_mark⟩

theorem encodePair_ne_nil (pair : String × String) : encodePair pair ≠ [] := by
  intro empty
  cases (List.append_eq_nil_iff.1 empty).2

/-- The reader finds the written pairs between the places where a pair ends. -/
theorem splitAt_encodePairs (pair : String × String) (pairs : List (String × String)) :
    splitAt (byte '&') (encodePairs (pair :: pairs)) = (encodePair pair, pairs.map encodePair) := by
  induction pairs generalizing pair with
  | nil => exact splitAt_self fun mem => (encodePair_plain pair _ mem).2.1 rfl
  | cons next pairs ih =>
    rw [encodePairs, splitAt_append fun mem => (encodePair_plain pair _ mem).2.1 rfl, ih next]
    · rfl
    · simp

theorem encodePairs_plain (pairs : List (String × String)) : ∀ x ∈ encodePairs pairs,
    x.toNat < 0x80 ∧ x ≠ byte '?' := by
  induction pairs with
  | nil =>
    intro x mem
    cases mem
  | cons pair pairs ih =>
    have here : ∀ x ∈ encodePair pair, x.toNat < 0x80 ∧ x ≠ byte '?' := by
      intro x mem
      obtain ⟨ascii, -, no_mark⟩ := encodePair_plain pair x mem
      exact ⟨ascii, no_mark⟩
    cases pairs with
    | nil => exact here
    | cons next pairs =>
      intro x mem
      rw [encodePairs] at mem
      · rcases List.mem_append.1 mem with mem | mem
        · exact here x mem
        rcases List.mem_cons.1 mem with rfl | mem
        · decide
        · exact ih x mem
      · simp

theorem encode_toList_encode (pairs : List (String × String)) :
    Utf8.encode (encode pairs).toList = encodePairs pairs := by
  rw [encode, String.toList_ofList]
  exact Utf8.encode_decode_of_ascii fun x mem => (encodePairs_plain pairs x mem).1

/-- Pairs that are written are read as the same pairs, whatever their texts hold. -/
theorem decode_encode (pairs : List (String × String)) : decode (encode pairs) = pairs := by
  rw [decode, encode_toList_encode]
  cases pairs with
  | nil => rfl
  | cons pair pairs =>
    have full : ((pair :: pairs).map encodePair).filter (fun bytes => !bytes.isEmpty) =
        (pair :: pairs).map encodePair := by
      refine List.filter_eq_self.2 fun bytes mem => ?_
      obtain ⟨other, -, rfl⟩ := List.mem_map.1 mem
      simpa using encodePair_ne_nil other
    rw [splitAt_encodePairs]
    show (((pair :: pairs).map encodePair).filter _).map decodePair = pair :: pairs
    rw [full, List.map_map]
    exact List.map_id'' decodePair_encodePair _

example : encode [("a b", "ü&"), ("", "1+1=2")] = "a+b=%C3%BC%26&=1%2B1%3D2" := by decide +kernel

/-! ## Question marks -/

theorem toList_mark (text : String) : ("?" ++ text).toList = '?' :: text.toList := by
  rw [String.toList_append]
  rfl

/-- A text that starts with a question mark is the mark and the rest. -/
theorem eq_mark_append {text : String} {rest : List Char} (starts : text.toList = '?' :: rest) :
    text = "?" ++ String.ofList rest := by
  apply String.toList_injective
  rw [toList_mark, String.toList_ofList, starts]

/-- Written pairs do not start with a question mark. -/
theorem toList_encode_ne_mark (pairs : List (String × String)) (rest : List Char) :
    (encode pairs).toList ≠ '?' :: rest := by
  intro starts
  have bytes := encode_toList_encode pairs
  have mark : Utf8.encode ('?' :: rest) = byte '?' :: Utf8.encode rest := rfl
  rw [starts, mark] at bytes
  exact (encodePairs_plain pairs (byte '?') (bytes ▸ .head _)).2 rfl

end RecordFilter.Form
