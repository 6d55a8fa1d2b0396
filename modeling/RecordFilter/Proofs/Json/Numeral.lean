import RecordFilter.Proofs.Json.Grammar
import RecordFilter.Proofs.Outcome

set_option autoImplicit false

/-!
# Reading numbers

A reader of numbers takes as much as it can, so a written number is read back only in front of a
character that does not continue it (`Grammar.readNumber_written`). What it takes is in the grammar
(`Grammar.written_of_readNumber`).
-/

namespace RecordFilter

open Outcome

namespace Source

/-! ## The parts of a number -/

/-- The text does not start with a digit. -/
def NoDigit (text : List Char) : Prop := ∀ c tail, text = c :: tail → c.isDigit = false

/-- Digits are taken up to the first character that is none. -/
theorem readDigits_eq_ok_iff {text digits rest : List Char} :
    readDigits text = .ok (digits, rest) ↔
      digits ≠ [] ∧ (∀ c ∈ digits, c.isDigit = true) ∧ NoDigit rest ∧ text = digits ++ rest := by
  constructor
  · intro taken
    rw [readDigits] at taken
    split at taken
    · cases taken
    case isFalse some_digit =>
      cases taken
      refine ⟨by simpa using some_digit, ?_, ?_, List.takeWhile_append_dropWhile.symm⟩
      · intro c mem
        exact List.all_eq_true.1 List.all_takeWhile c mem
      · intro c tail starts
        have stop := List.head?_dropWhile_not Char.isDigit text
        rw [starts] at stop
        simpa using stop
  · rintro ⟨some_digit, all_digits, no_digit, rfl⟩
    have taken : (digits ++ rest).takeWhile Char.isDigit = digits := by
      rw [List.takeWhile_append_of_pos all_digits]
      cases rest with
      | nil => simp
      | cons c tail => simp [no_digit c tail rfl]
    have left : (digits ++ rest).dropWhile Char.isDigit = rest := by
      rw [List.dropWhile_append_of_pos all_digits]
      cases rest with
      | nil => rfl
      | cons c tail => simp [no_digit c tail rfl]
    simp only [readDigits, taken, left, List.isEmpty_iff, if_neg some_digit]

theorem readFraction_point (text : List Char) :
    readFraction ('.' :: text) =
      (readDigits text).map fun (digits, rest) => (some digits, rest) :=
  rfl

theorem readFraction_of_ne {c : Char} (text : List Char) (ne : c ≠ '.') :
    readFraction (c :: text) = .ok (none, c :: text) := by
  unfold readFraction
  split
  case h_1 starts =>
    cases starts
    exact absurd rfl ne
  case h_2 => rfl

theorem readExponent_of_not {c : Char} (text : List Char) (not_mark : ¬(c = 'e' ∨ c = 'E')) :
    readExponent (c :: text) = .ok (none, c :: text) := by
  rw [readExponent, if_neg not_mark]

/-- The exponent behind its mark and its sign. -/
def readPower (negative : Bool) (text : List Char) : Except Fault (Option Int × List Char) :=
  (readDigits text).map fun (digits, rest) =>
    (some (if negative then -(NumberLiteral.natural digits : Int)
      else NumberLiteral.natural digits), rest)

theorem readExponent_mark {c : Char} (text : List Char) (mark : c = 'e' ∨ c = 'E') :
    readExponent (c :: text) = readPower (readSign text).1 (readSign text).2 := by
  rw [readExponent, if_pos mark]
  rfl

/-- The number behind its whole digits. -/
def readBehindWhole (negative : Bool) (whole text : List Char) :
    Except Fault (NumberLiteral × List Char) :=
  if whole.head? = some '0' ∧ whole.length ≠ 1 then .error .malformed
  else (readFraction text).bind fun (fraction, rest) =>
    (readExponent rest).bind fun (exponent, rest) =>
      .ok (⟨negative, whole, fraction, exponent⟩, rest)

theorem readNumber_eq_bind (negative : Bool) (text : List Char) :
    readNumber negative text =
      (readDigits text).bind fun (whole, rest) => readBehindWhole negative whole rest := by
  rw [readNumber]
  cases readDigits text with
  | error fault => rfl
  | ok pair =>
    obtain ⟨whole, rest⟩ := pair
    by_cases zero : whole.head? = some '0' ∧ whole.length ≠ 1
    · simp only [bind, Except.bind, readBehindWhole, if_pos zero]
      rfl
    · simp only [bind, Except.bind, readBehindWhole, if_neg zero]
      rfl

/-! ## Numbers as trees -/

theorem skipBlanks_cons {c : Char} (not_blank : isBlank c = false) (text : List Char) :
    skipBlanks (c :: text) = c :: text := by
  simp [skipBlanks, not_blank]

theorem read_minus (fuel : Nat) (text : List Char) :
    read (fuel + 1) ('-' :: text) = afterSign true text :=
  rfl

theorem digit_ne {c d : Char} (digit : c.isDigit = true) (other : d.isDigit = false) : c ≠ d := by
  rintro rfl
  rw [digit] at other
  cases other

theorem isBlank_of_isDigit {c : Char} (digit : c.isDigit = true) : isBlank c = false := by
  simp [isBlank, digit_ne digit (d := ' '), digit_ne digit (d := '\n'),
    digit_ne digit (d := '\t'), digit_ne digit (d := '\r')]

theorem read_digit (fuel : Nat) {c : Char} (digit : c.isDigit = true) (text : List Char) :
    read (fuel + 1) (c :: text) = afterSign false (c :: text) := by
  have ne : ∀ d : Char, d.isDigit = false → c ≠ d := fun d => digit_ne digit
  rw [read, skipBlanks_cons (isBlank_of_isDigit digit)]
  simp only [if_neg (ne '"' rfl), if_neg (ne '[' rfl), if_neg (ne '\x7b' rfl), if_neg (ne 'n' rfl),
    if_neg (ne 't' rfl), if_neg (ne 'f' rfl), if_neg (ne '-' rfl), if_pos digit]

theorem afterSign_eq_number_iff {negative : Bool} {text : List Char} {literal : NumberLiteral}
    {rest : Option (List Char)} :
    afterSign negative text = (.number literal, rest) ↔
      ∃ tail, rest = some tail ∧ readNumber negative text = .ok (literal, tail) := by
  rw [afterSign]
  cases readNumber negative text with
  | error fault => simp
  | ok pair =>
    obtain ⟨found, tail⟩ := pair
    constructor
    · intro number
      cases number
      exact ⟨tail, rfl, rfl⟩
    · rintro ⟨tail', rfl, same⟩
      cases same
      rfl

end Source

namespace Grammar

open Source

/-! ## Written numbers -/

theorem readPower_written (negative : Bool) {digits rest : List Char} (all_digits : Digits digits)
    (stops : Stops rest) :
    readPower negative (digits ++ rest) =
      .ok (some (if negative then -(NumberLiteral.natural digits : Int)
        else NumberLiteral.natural digits), rest) := by
  have no_digit : NoDigit rest := by
    rintro c tail rfl
    exact stops.head.1
  rw [readPower, readDigits_eq_ok_iff.2 ⟨all_digits.1, all_digits.2, no_digit, rfl⟩]
  rfl

theorem readSign_digits {digits : List Char} (all_digits : Digits digits) (rest : List Char) :
    readSign (digits ++ rest) = (false, digits ++ rest) := by
  cases digits with
  | nil => exact absurd rfl all_digits.1
  | cons d ds =>
    have digit := all_digits.2 d (.head _)
    simp [readSign, digit_ne digit (d := '+') rfl, digit_ne digit (d := '-') rfl]

theorem readExponent_written {exponent : Option Int} {text rest : List Char}
    (written : Exponent exponent text) (stops : Stops rest) :
    readExponent (text ++ rest) = .ok (exponent, rest) := by
  cases written with
  | absent =>
    cases rest with
    | nil => rfl
    | cons c tail => exact readExponent_of_not tail stops.head.2.2
  | unsigned mark all_digits =>
    rw [List.cons_append, readExponent_mark _ mark, readSign_digits all_digits]
    exact readPower_written false all_digits stops
  | plus mark all_digits =>
    rw [List.cons_append, readExponent_mark _ mark]
    exact readPower_written false all_digits stops
  | minus mark all_digits =>
    rw [List.cons_append, readExponent_mark _ mark]
    exact readPower_written true all_digits stops

/-- An exponent and what ends a number do not continue a fraction or the digits before it. -/
theorem Exponent.head {exponent : Option Int} {text rest : List Char}
    (written : Exponent exponent text) (stops : Stops rest) {c : Char} {tail : List Char}
    (starts : text ++ rest = c :: tail) : c.isDigit = false ∧ c ≠ '.' := by
  have of_mark {d : Char} (mark : IsMark d) : d.isDigit = false ∧ d ≠ '.' := by
    rcases mark with rfl | rfl
    all_goals exact ⟨rfl, by decide⟩
  cases written with
  | absent =>
    obtain rfl : rest = c :: tail := starts
    exact ⟨stops.head.1, stops.head.2.1⟩
  | unsigned mark _ | plus mark _ | minus mark _ =>
    cases starts
    exact of_mark mark

theorem readFraction_written {fraction : Option (List Char)} {text rest : List Char}
    (written : Fraction fraction text)
    (ends : ∀ c tail, rest = c :: tail → c.isDigit = false ∧ c ≠ '.') :
    readFraction (text ++ rest) = .ok (fraction, rest) := by
  cases written with
  | absent =>
    cases rest with
    | nil => rfl
    | cons c tail => exact readFraction_of_ne tail (ends c tail rfl).2
  | present all_digits =>
    have no_digit : NoDigit rest := fun c tail starts => (ends c tail starts).1
    rw [List.cons_append, readFraction_point,
      readDigits_eq_ok_iff.2 ⟨all_digits.1, all_digits.2, no_digit, rfl⟩]
    rfl

/-- A number is read in front of what ends a value. -/
theorem readNumber_written {negative : Bool} {literal : NumberLiteral} {text rest : List Char}
    (written : Magnitude negative literal text) (stops : Stops rest) :
    readNumber negative (text ++ rest) = .ok (literal, rest) := by
  obtain @⟨whole, fractionText, exponentText, fraction, exponent, digits, zero, fractional,
    exponential⟩ := written
  have ends : ∀ c tail, exponentText ++ rest = c :: tail → c.isDigit = false ∧ c ≠ '.' :=
    fun c tail starts => exponential.head stops starts
  have no_digit : NoDigit (fractionText ++ (exponentText ++ rest)) := by
    intro c tail starts
    cases fractional with
    | absent => exact (ends c tail starts).1
    | present => cases starts; rfl
  have plain : ¬(whole.head? = some '0' ∧ whole.length ≠ 1) :=
    fun leading => leading.2 (zero leading.1)
  have taken : readDigits (whole ++ (fractionText ++ (exponentText ++ rest))) = .ok (whole, _) :=
    readDigits_eq_ok_iff.2 ⟨digits.1, digits.2, no_digit, rfl⟩
  rw [List.append_assoc, List.append_assoc, readNumber_eq_bind, taken]
  show readBehindWhole negative whole _ = _
  rw [readBehindWhole, if_neg plain, readFraction_written fractional ends]
  show (readExponent _).bind _ = _
  rw [readExponent_written exponential stops]
  rfl

theorem digits_of_readDigits {text digits rest : List Char}
    (taken : readDigits text = .ok (digits, rest)) : Digits digits ∧ text = digits ++ rest := by
  obtain ⟨some_digit, all_digits, -, parts⟩ := readDigits_eq_ok_iff.1 taken
  exact ⟨⟨some_digit, all_digits⟩, parts⟩

theorem written_of_readFraction {text rest : List Char} {fraction : Option (List Char)}
    (taken : readFraction text = .ok (fraction, rest)) :
    ∃ written, Fraction fraction written ∧ text = written ++ rest := by
  cases text with
  | nil =>
    cases taken
    exact ⟨[], .absent, rfl⟩
  | cons c tail =>
    by_cases point : c = '.'
    · subst point
      rw [readFraction_point, map_eq_ok_iff] at taken
      obtain ⟨⟨digits, rest'⟩, taken, same⟩ := taken
      cases same
      obtain ⟨digits, rfl⟩ := digits_of_readDigits taken
      exact ⟨_, .present digits, rfl⟩
    · rw [readFraction_of_ne tail point] at taken
      cases taken
      exact ⟨[], .absent, rfl⟩

theorem written_of_readExponent {text rest : List Char} {exponent : Option Int}
    (taken : readExponent text = .ok (exponent, rest)) :
    ∃ written, Exponent exponent written ∧ text = written ++ rest := by
  cases text with
  | nil =>
    cases taken
    exact ⟨[], .absent, rfl⟩
  | cons c tail =>
    by_cases mark : IsMark c
    · rw [readExponent_mark tail mark, readPower, map_eq_ok_iff] at taken
      obtain ⟨⟨digits, rest'⟩, taken, same⟩ := taken
      cases same
      obtain ⟨all_digits, unsigned⟩ := digits_of_readDigits taken
      -- What the digits stand behind is a sign or the mark itself.
      unfold readSign at unsigned ⊢
      split at unsigned
      · exact ⟨_, .plus mark all_digits, congrArg (c :: '+' :: ·) unsigned⟩
      · exact ⟨_, .minus mark all_digits, congrArg (c :: '-' :: ·) unsigned⟩
      · exact ⟨_, .unsigned mark all_digits, congrArg (c :: ·) unsigned⟩
    · rw [readExponent_of_not tail mark] at taken
      cases taken
      exact ⟨[], .absent, rfl⟩

/-- What is read as a number is written as one. -/
theorem written_of_readNumber {negative : Bool} {text rest : List Char} {literal : NumberLiteral}
    (taken : readNumber negative text = .ok (literal, rest)) :
    ∃ written, Magnitude negative literal written ∧ text = written ++ rest := by
  rw [readNumber_eq_bind] at taken
  obtain ⟨⟨whole, behind⟩, first, others⟩ := bind_eq_ok_iff.1 taken
  obtain ⟨digits, rfl⟩ := digits_of_readDigits first
  change readBehindWhole negative whole behind = _ at others
  rw [readBehindWhole] at others
  split at others
  case isTrue => cases others
  case isFalse plain =>
    obtain ⟨⟨fraction, behind⟩, second, others⟩ := bind_eq_ok_iff.1 others
    obtain ⟨⟨exponent, behind⟩, third, last⟩ := bind_eq_ok_iff.1 others
    cases last
    obtain ⟨fractionText, fractional, rfl⟩ := written_of_readFraction second
    obtain ⟨exponentText, exponential, rfl⟩ := written_of_readExponent third
    have zero : whole.head? = some '0' → whole.length = 1 :=
      fun leading => Decidable.byContradiction fun long => plain ⟨leading, long⟩
    exact ⟨_, .parts digits zero fractional exponential, by simp only [List.append_assoc]⟩

end Grammar

end RecordFilter
