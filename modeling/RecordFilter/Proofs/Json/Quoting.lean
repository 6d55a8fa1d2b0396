import RecordFilter.Json.Printer
import RecordFilter.Proofs.Json.Grammar

set_option autoImplicit false

/-!
# Reading strings

A string ends at its quote wherever it stands (`readText_written`), and what is read as a string
whose surrogates pair up is in the grammar (`written_of_readText`). The reader waits for the second
half of a pair once it has the first; that nothing but this half can follow is `pair_of_readText`.

Quoted strings are written as the grammar says (`text_quote`).
-/

namespace RecordFilter.Grammar

open Source Json

/-! ## Written strings -/

theorem readText_codeUnit {unit : Nat} {digits : List Char} (written : CodeUnit unit digits)
    (soFar : TextSoFar) (rest : List Char) :
    readText .plain soFar ('\\' :: 'u' :: (digits ++ rest)) =
      readText .plain (soFar.pushUnit unit) rest := by
  obtain ⟨first, second, third, fourth⟩ := written
  simp only [List.cons_append, List.nil_append, readText, Char.reduceEq, if_true, if_false, first,
    second, third, fourth, Nat.reduceSub, Nat.reduceEqDiff, Nat.mul_zero, Nat.zero_add]

theorem pushUnit_high {unit : Nat} (high : IsHigh unit) (reversed : List Char) (paired : Bool) :
    (⟨reversed, none, paired⟩ : TextSoFar).pushUnit unit = ⟨reversed, some unit, paired⟩ :=
  if_pos high

theorem pushUnit_pair {high low : Nat} (is_low : IsLow low) (reversed : List Char) (paired : Bool) :
    (⟨reversed, some high, paired⟩ : TextSoFar).pushUnit low =
      ⟨Char.ofNat (0x10000 + (high - 0xD800) * 0x400 + (low - 0xDC00)) :: reversed, none, paired⟩ :=
  if_pos is_low

theorem pushUnit_lone {high unit : Nat} (not_low : ¬IsLow unit) (reversed : List Char)
    (paired : Bool) :
    (⟨reversed, some high, paired⟩ : TextSoFar).pushUnit unit = ⟨reversed, none, false⟩ :=
  if_neg not_low

theorem pushUnit_low {unit : Nat} (low : IsLow unit) (reversed : List Char) (paired : Bool) :
    (⟨reversed, none, paired⟩ : TextSoFar).pushUnit unit = ⟨reversed, none, false⟩ := by
  have not_high : ¬IsHigh unit := fun high => absurd low.1 (Nat.not_le.2 high.2)
  exact (if_neg not_high).trans (if_pos low)

theorem pushUnit_character {unit : Nat} (not_high : ¬IsHigh unit) (not_low : ¬IsLow unit)
    (reversed : List Char) (paired : Bool) :
    (⟨reversed, none, paired⟩ : TextSoFar).pushUnit unit =
      ⟨Char.ofNat unit :: reversed, none, paired⟩ :=
  (if_neg not_high).trans (if_neg not_low)

theorem readText_character {c : Char} {text : List Char} (written : Character c text)
    (reversed rest : List Char) :
    readText .plain ⟨reversed, none, true⟩ (text ++ rest) =
      readText .plain ⟨c :: reversed, none, true⟩ rest := by
  cases written with
  | itself not_quote not_backslash plain =>
    rw [List.singleton_append, readText, if_neg not_quote, if_neg not_backslash,
      if_neg (Nat.not_lt.2 plain)]
    rfl
  | letter stands =>
    have not_u : ∀ letter, unescape? letter = some c → letter ≠ 'u' := by
      rintro letter stands rfl
      cases stands
    simp only [List.cons_append, List.nil_append, readText, Char.reduceEq, if_true, if_false,
      if_neg (not_u _ stands), stands]
    rfl
  | unit code not_high not_low =>
    rw [List.cons_append, List.cons_append, readText_codeUnit code,
      pushUnit_character not_high not_low]
  | pair first high second low =>
    rw [List.cons_append, List.cons_append, List.append_assoc, readText_codeUnit first,
      pushUnit_high high, List.cons_append, List.cons_append, readText_codeUnit second,
      pushUnit_pair low]

theorem readText_characters {cs body : List Char} (written : Characters cs body)
    (reversed rest : List Char) :
    readText .plain ⟨reversed, none, true⟩ (body ++ rest) =
      readText .plain ⟨cs.reverse ++ reversed, none, true⟩ rest := by
  induction written generalizing reversed with
  | nil => rfl
  | cons first _ ih =>
    rw [List.append_assoc, readText_character first, ih, List.reverse_cons, List.append_assoc,
      List.singleton_append]

/-- A string is read, whatever follows its closing quote. -/
theorem readText_written {cs body : List Char} (written : Characters cs body) (rest : List Char) :
    readText .plain .start (body ++ '"' :: rest) = .ok (some (String.ofList cs), rest) := by
  rw [TextSoFar.start, readText_characters written, List.append_nil, readText, if_pos rfl]
  simp [TextSoFar.content]

/-! ## Strings that were read -/

theorem digit_of_readText {left value : Nat} {soFar : TextSoFar} {text : List Char}
    {result : Option String × List Char}
    (taken : readText (.hex left value) soFar text = .ok result) :
    ∃ c d tail, text = c :: tail ∧ hexDigit? c = some d ∧
      (if left = 1 then readText .plain (soFar.pushUnit (16 * value + d)) tail
        else readText (.hex (left - 1) (16 * value + d)) soFar tail) = .ok result := by
  cases text with
  | nil => cases taken
  | cons c tail =>
    rw [readText] at taken
    split at taken
    case h_1 d digit => exact ⟨c, d, tail, rfl, digit, taken⟩
    case h_2 => cases taken

theorem codeUnit_of_readText {soFar : TextSoFar} {text : List Char}
    {result : Option String × List Char} (taken : readText (.hex 4 0) soFar text = .ok result) :
    ∃ unit digits more, CodeUnit unit digits ∧ text = digits ++ more ∧
      readText .plain (soFar.pushUnit unit) more = .ok result := by
  obtain ⟨a, i, behind, rfl, first, taken⟩ := digit_of_readText taken
  obtain ⟨b, j, behind, rfl, second, taken⟩ := digit_of_readText taken
  obtain ⟨c, k, behind, rfl, third, taken⟩ := digit_of_readText taken
  obtain ⟨d, l, behind, rfl, fourth, taken⟩ := digit_of_readText taken
  refine ⟨_, _, behind, .digits first second third fourth, rfl, ?_⟩
  rwa [Nat.mul_zero, Nat.zero_add] at taken

/-- A string ends, or goes on with a character, or with an escape by number. -/
theorem readText_cases {soFar : TextSoFar} {text rest : List Char} {content : Option String}
    (taken : readText .plain soFar text = .ok (content, rest)) :
    (text = '"' :: rest ∧ content = soFar.content) ∨
      (∃ c written more, Character c written ∧ text = written ++ more ∧
        readText .plain (soFar.push c) more = .ok (content, rest)) ∨
      ∃ unit digits more, CodeUnit unit digits ∧ text = '\\' :: 'u' :: (digits ++ more) ∧
        readText .plain (soFar.pushUnit unit) more = .ok (content, rest) := by
  cases text with
  | nil => cases taken
  | cons c tail =>
    rw [readText] at taken
    split at taken
    case isTrue quote =>
      cases taken
      exact .inl ⟨by rw [quote], rfl⟩
    case isFalse not_quote =>
      split at taken
      case isTrue backslash =>
        subst backslash
        cases tail with
        | nil => cases taken
        | cons letter tail =>
          rw [readText] at taken
          split at taken
          case isTrue is_u =>
            subst is_u
            obtain ⟨unit, digits, more, code, rfl, goes_on⟩ := codeUnit_of_readText taken
            exact .inr (.inr ⟨unit, digits, more, code, rfl, goes_on⟩)
          case isFalse =>
            split at taken
            case h_1 d stands => exact .inr (.inl ⟨d, _, tail, .letter stands, rfl, taken⟩)
            case h_2 => cases taken
      case isFalse not_backslash =>
        split at taken
        case isTrue => cases taken
        case isFalse plain =>
          exact .inr (.inl ⟨c, [c], tail, .itself not_quote not_backslash (Nat.not_lt.1 plain), rfl,
            taken⟩)

theorem Character.length_pos {c : Char} {text : List Char} (written : Character c text) :
    0 < text.length := by
  cases written <;> exact Nat.succ_pos _

theorem pushUnit_unpaired {soFar : TextSoFar} (unpaired : soFar.paired = false) (unit : Nat) :
    (soFar.pushUnit unit).paired = false := by
  unfold TextSoFar.pushUnit
  split
  · split
    · exact unpaired
    · rfl
  · split
    · exact unpaired
    · split
      · rfl
      · exact unpaired

/-- A string with a lone surrogate is absent, however it goes on. -/
theorem content_of_unpaired {soFar : TextSoFar} {text rest : List Char} {content : Option String}
    (unpaired : soFar.paired = false) (taken : readText .plain soFar text = .ok (content, rest)) :
    content = none := by
  induction size : text.length using Nat.strongRecOn generalizing soFar text with
  | ind n ih =>
    subst size
    rcases readText_cases taken with ⟨-, rfl⟩ | ⟨c, written, more, character, rfl, goes_on⟩ |
      ⟨unit, digits, more, code, rfl, goes_on⟩
    · simp [TextSoFar.content, unpaired]
    · have shorter := character.length_pos
      refine ih _ ?_ (by simp [TextSoFar.push, unpaired]) goes_on rfl
      rw [List.length_append]
      omega
    · refine ih _ ?_ (pushUnit_unpaired unpaired unit) goes_on rfl
      rw [List.length_cons, List.length_cons, List.length_append]
      omega

/-- Only the second half of a pair can follow the first. -/
theorem pair_of_readText {high : Nat} {reversed text rest : List Char} {s : String}
    (taken : readText .plain ⟨reversed, some high, true⟩ text = .ok (some s, rest)) :
    ∃ low digits more, CodeUnit low digits ∧ IsLow low ∧ text = '\\' :: 'u' :: (digits ++ more) ∧
      readText .plain ⟨Char.ofNat (0x10000 + (high - 0xD800) * 0x400 + (low - 0xDC00)) :: reversed,
        none, true⟩ more = .ok (some s, rest) := by
  rcases readText_cases taken with ⟨-, done⟩ | ⟨c, written, more, -, -, taken⟩ |
    ⟨low, digits, more, code, parts, taken⟩
  · cases done
  · cases content_of_unpaired rfl taken
  · by_cases is_low : IsLow low
    · rw [pushUnit_pair is_low] at taken
      exact ⟨low, digits, more, code, is_low, parts, taken⟩
    · rw [pushUnit_lone is_low] at taken
      cases content_of_unpaired rfl taken

theorem characters_of_readText {reversed text rest : List Char} {s : String}
    (taken : readText .plain ⟨reversed, none, true⟩ text = .ok (some s, rest)) :
    ∃ cs body, Characters cs body ∧ text = body ++ '"' :: rest ∧
      s = String.ofList (reversed.reverse ++ cs) := by
  induction size : text.length using Nat.strongRecOn generalizing reversed text with
  | ind n ih =>
    subst size
    -- One more character in front of those that follow it.
    have step {c : Char} {written more : List Char} (character : Character c written)
        (parts : text = written ++ more)
        (taken : readText .plain ⟨c :: reversed, none, true⟩ more = .ok (some s, rest)) :
        ∃ cs body, Characters cs body ∧ text = body ++ '"' :: rest ∧
          s = String.ofList (reversed.reverse ++ cs) := by
      have shorter : more.length < text.length := by
        have := character.length_pos
        rw [parts, List.length_append]
        omega
      obtain ⟨cs, body, characters, rfl, rfl⟩ := ih _ shorter taken rfl
      refine ⟨c :: cs, written ++ body, .cons character characters, ?_, ?_⟩
      · rw [parts, List.append_assoc]
      · rw [List.reverse_cons, List.append_assoc, List.singleton_append]
    rcases readText_cases taken with ⟨parts, done⟩ | ⟨c, written, more, character, parts, taken⟩ |
      ⟨unit, digits, more, code, parts, taken⟩
    · cases done
      exact ⟨[], [], .nil, parts, by rw [List.append_nil]⟩
    · exact step character parts taken
    by_cases high : IsHigh unit
    · rw [pushUnit_high high] at taken
      obtain ⟨low, lowDigits, more, second, is_low, rfl, goes_on⟩ := pair_of_readText taken
      refine step (.pair code high second is_low) ?_ goes_on
      rw [parts, List.cons_append, List.cons_append, List.append_assoc]
      rfl
    by_cases low : IsLow unit
    · rw [pushUnit_low low] at taken
      cases content_of_unpaired rfl taken
    · rw [pushUnit_character high low] at taken
      exact step (.unit code high low) parts taken

/-- What is read as a string whose surrogates are in pairs is written as one. -/
theorem written_of_readText {text rest : List Char} {s : String}
    (taken : readText .plain .start text = .ok (some s, rest)) :
    ∃ written, Text s written ∧ '"' :: text = written ++ rest := by
  obtain ⟨cs, body, characters, rfl, rfl⟩ := characters_of_readText taken
  refine ⟨_, .quoted characters, ?_⟩
  rw [List.cons_append, List.append_assoc, List.singleton_append]

/-! ## Quoted strings -/

theorem hexDigit_digitChar : ∀ d, d < 16 → hexDigit? (Nat.digitChar d) = some d := by
  decide

/-- A character stands for itself, or is written by a letter, or by its number. -/
theorem escape_cases (c : Char) :
    (escape c = [c] ∧ c ≠ '"' ∧ c ≠ '\\' ∧ 0x20 ≤ c.toNat) ∨
      (∃ letter, escape c = ['\\', letter] ∧ letter ≠ 'u' ∧ unescape? letter = some c) ∨
      (escape c = ['\\', 'u', '0', '0', Nat.digitChar (c.toNat / 16),
          Nat.digitChar (c.toNat % 16)] ∧ c.toNat < 0x20) := by
  -- The cases are in the order of the tests in `escape`.
  by_cases quote : c = '"'
  · subst quote
    exact .inr (.inl ⟨'"', rfl, by decide, rfl⟩)
  by_cases backslash : c = '\\'
  · subst backslash
    exact .inr (.inl ⟨'\\', rfl, by decide, rfl⟩)
  by_cases plain : 0x20 ≤ c.toNat
  · exact .inl
      ⟨by rw [escape, if_neg quote, if_neg backslash, if_pos plain], quote, backslash, plain⟩
  by_cases b : c = '\x08'
  · subst b
    exact .inr (.inl ⟨'b', rfl, by decide, rfl⟩)
  by_cases t : c = '\t'
  · subst t
    exact .inr (.inl ⟨'t', rfl, by decide, rfl⟩)
  by_cases n : c = '\n'
  · subst n
    exact .inr (.inl ⟨'n', rfl, by decide, rfl⟩)
  by_cases f : c = '\x0c'
  · subst f
    exact .inr (.inl ⟨'f', rfl, by decide, rfl⟩)
  by_cases r : c = '\r'
  · subst r
    exact .inr (.inl ⟨'r', rfl, by decide, rfl⟩)
  · refine .inr (.inr ⟨?_, by omega⟩)
    rw [escape, if_neg quote, if_neg backslash, if_neg plain, if_neg b, if_neg t, if_neg n,
      if_neg f, if_neg r]

/-- The written form of a character is one of the forms of the grammar. -/
theorem character_escape (c : Char) : Character c (escape c) := by
  rcases escape_cases c with ⟨itself, not_quote, not_backslash, plain⟩ |
    ⟨letter, short, -, stands⟩ | ⟨coded, control⟩
  · rw [itself]
    exact .itself not_quote not_backslash plain
  · rw [short]
    exact .letter stands
  · -- The four digits are the number of the character, which no surrogate has.
    have zero : hexDigit? '0' = some 0 := hexDigit_digitChar 0 (by omega)
    have code := CodeUnit.digits zero zero (hexDigit_digitChar (c.toNat / 16) (by omega))
      (hexDigit_digitChar (c.toNat % 16) (by omega))
    have unit : 16 * (16 * (16 * 0 + 0) + c.toNat / 16) + c.toNat % 16 = c.toNat := by omega
    rw [unit] at code
    have not_high : ¬IsHigh c.toNat := fun high => absurd high.1 (by omega)
    have not_low : ¬IsLow c.toNat := fun low => absurd low.1 (by omega)
    have written := Character.unit code not_high not_low
    rwa [Char.ofNat_toNat, ← coded] at written

theorem characters_flatMap_escape (cs : List Char) : Characters cs (cs.flatMap escape) := by
  induction cs with
  | nil => exact .nil
  | cons c cs ih => exact .cons (character_escape c) ih

/-- A quoted string is a string of the grammar. -/
theorem text_quote (s : String) : Text s (quote s) := by
  have written := Text.quoted (characters_flatMap_escape s.toList)
  rwa [String.ofList_toList] at written

end RecordFilter.Grammar
