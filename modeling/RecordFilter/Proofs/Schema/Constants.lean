import Mathlib
import RecordFilter.Proofs.Schema.Refusal

set_option autoImplicit false

/-!
# Names and their constants

A constant is made of a name character by character: small letters become capitals, hyphens become
underscores, and underscores are put between words. None of this makes an identifier of a text that
is none, but for the hyphens (`isIdentifier_constantOf`). A declared name is an identifier, so its
constant is one. The text of a renamed field need not be: attributes only ask that it is not empty
and has no dot. If it has a blank, say, or begins with a digit, the expansion breaks off without an
error, and this is the only way in which it does (`Declaration.breaks_off_iff`).
-/

namespace RecordFilter.Schema

open Outcome Unicode.Current

/-! ## Characters -/

section Characters

variable {c : Char}

theorem toNat_lt_of_isAlpha (letter : c.isAlpha = true) : c.toNat < 0x80 := by
  simp only [Char.isAlpha, Char.isUpper, Char.isLower, UInt32.le_iff_toNat_le, Bool.or_eq_true,
    Bool.and_eq_true, decide_eq_true_eq, ge_iff_le] at letter
  simp only [Char.toNat]
  rcases letter with ⟨-, upper⟩ | ⟨-, upper⟩
  · exact Nat.lt_of_le_of_lt upper (by decide)
  · exact Nat.lt_of_le_of_lt upper (by decide)

theorem startsIdentifier_of_isAlpha (letter : c.isAlpha = true) : startsIdentifier c = true := by
  rw [startsIdentifier, if_pos (toNat_lt_of_isAlpha letter), letter, Bool.true_or]

theorem continuesIdentifier_of_isAlpha (letter : c.isAlpha = true) :
    continuesIdentifier c = true := by
  rw [continuesIdentifier, if_pos (toNat_lt_of_isAlpha letter), Char.isAlphanum, letter,
    Bool.true_or, Bool.true_or]

/-- A character is a letter with a capital of its own, or it is kept. -/
theorem toUpper_cases (c : Char) : c.isAlpha = true ∧ c.toUpper.isAlpha = true ∨ c.toUpper = c := by
  by_cases small : c.isLower = true
  · have letter : c.isAlpha = true := by rw [Char.isAlpha, small, Bool.or_true]
    exact .inl ⟨letter, (Char.isAlpha_toUpper_eq_isAlpha c).trans letter⟩
  · exact .inr (Char.toUpper_eq_of_not_isLower small)

theorem startsIdentifier_toUpper (c : Char) : startsIdentifier c.toUpper = startsIdentifier c := by
  rcases toUpper_cases c with ⟨letter, capital⟩ | same
  · rw [startsIdentifier_of_isAlpha letter, startsIdentifier_of_isAlpha capital]
  · rw [same]

theorem continuesIdentifier_toUpper (c : Char) :
    continuesIdentifier c.toUpper = continuesIdentifier c := by
  rcases toUpper_cases c with ⟨letter, capital⟩ | same
  · rw [continuesIdentifier_of_isAlpha letter, continuesIdentifier_of_isAlpha capital]
  · rw [same]

/-- An underscore for a hyphen. -/
def underscore (c : Char) : Char := if c = '-' then '_' else c

theorem underscore_of_ne (other : c ≠ '-') : underscore c = c := if_neg other

theorem ne_hyphen_of_isUppercase (capital : isUppercase c = true) : c ≠ '-' := by
  rintro rfl
  cases capital

end Characters

/-! ## Texts -/

/-- The text with underscores for its hyphens. -/
def underscored (text : String) : String := String.ofList (text.toList.map underscore)

theorem isIdentifier_ofList_cons (c : Char) (rest : List Char) :
    isIdentifier (String.ofList (c :: rest)) =
      (startsIdentifier c && rest.all continuesIdentifier) := by
  rw [isIdentifier, String.toList_ofList]

/-- What a character becomes, and what is put before it, continues an identifier if the character
does, or is a hyphen. -/
theorem all_continue_constantChars (chars : List Char) (afterSmall : Bool) :
    (constantChars afterSmall chars).all continuesIdentifier =
      (chars.map underscore).all continuesIdentifier := by
  have continues_underscore : continuesIdentifier '_' = true := rfl
  -- The flag changes from character to character but only says whether an underscore is put in
  -- between.
  induction chars generalizing afterSmall with
  | nil => rfl
  | cons c rest ih =>
    rw [constantChars, List.map_cons, List.all_cons]
    split
    case isTrue capital =>
      rw [underscore_of_ne (ne_hyphen_of_isUppercase capital), List.all_append, ih]
      cases afterSmall <;> simp [continues_underscore]
    case isFalse =>
      split
      case isTrue mark =>
        rw [List.all_cons, ih]
        rcases mark with rfl | rfl
        · rfl
        · rfl
      case isFalse other =>
        rw [List.all_cons, ih, continuesIdentifier_toUpper, underscore_of_ne (not_or.1 other).2]

/-- The constant of a name is an identifier exactly if the name is, with underscores for its
hyphens. -/
theorem isIdentifier_constantOf (name : String) :
    isIdentifier (constantOf name) = isIdentifier (underscored name) := by
  rw [constantOf, underscored]
  cases name.toList with
  | nil => rfl
  | cons c rest =>
    rw [List.map_cons, isIdentifier_ofList_cons, constantChars]
    split
    case isTrue capital =>
      rw [if_neg Bool.false_ne_true, List.singleton_append, isIdentifier_ofList_cons,
        all_continue_constantChars, underscore_of_ne (ne_hyphen_of_isUppercase capital)]
    case isFalse =>
      split
      case isTrue mark =>
        rw [isIdentifier_ofList_cons, all_continue_constantChars]
        rcases mark with rfl | rfl
        · rfl
        · rfl
      case isFalse other =>
        rw [isIdentifier_ofList_cons, all_continue_constantChars, startsIdentifier_toUpper,
          underscore_of_ne (not_or.1 other).2]

/-- An identifier has no hyphens. -/
theorem underscored_of_isIdentifier {name : String} (identifier : isIdentifier name = true) :
    underscored name = name := by
  have plain : '-' ∉ name.toList := not_mem_of_isIdentifier identifier rfl rfl
  have kept : name.toList.map underscore = name.toList.map id := by
    apply List.map_congr_left
    rintro c mem
    apply underscore_of_ne
    rintro rfl
    exact plain mem
  rw [underscored, kept, List.map_id, String.ofList_toList]

/-! ## Where the expansion breaks off -/

/-- An exposed field has readable attributes that do not hide it, and the name that they say. -/
theorem exists_filter_of_slot {field : FieldDeclaration} {e : ExposedField}
    (exposed : field.slot = some e) : ∃ filter, field.filter = .ok filter ∧ filter.hidden = false ∧
      e.name = filter.name.getD field.plainName := by
  cases read : field.filter with
  | error error =>
    rw [FieldDeclaration.slot, read] at exposed
    cases exposed
  | ok filter =>
    cases hidden : filter.hidden with
    | true => cases (slot_of_hidden read hidden).symm.trans exposed
    | false =>
      cases (slot_of_shown read hidden).symm.trans exposed
      exact ⟨filter, rfl, hidden, rfl⟩

namespace Declaration

variable {declaration : Declaration}

theorem named_of_badConstant {constant : String}
    (broken : declaration.expand = .error (.badConstant constant)) :
    declaration.form = .namedFields := by
  rw [expand] at broken
  split at broken
  case h_1 form => exact form
  all_goals cases broken

/-- Where the declared names are identifiers, the expansion of a declaration breaks off exactly at a
renamed field, the first field that stops it, whose name in rules is new but no identifier, even
with underscores for its hyphens. -/
theorem breaks_off_iff
    (identifiers : ∀ field ∈ declaration.fields, isIdentifier field.plainName = true)
    (constant : String) :
    declaration.expand = .error (.badConstant constant) ↔
      declaration.form = .namedFields ∧ ∃ before field after filter text,
        declaration.fields = before ++ field :: after ∧ Proceed before ∧
        field.filter = .ok filter ∧ filter.hidden = false ∧ filter.name = some text ∧
        (∀ other ∈ before.filterMap FieldDeclaration.slot,
          other.name ≠ text ∧ other.constant ≠ constant) ∧
        constant = constantOf text ∧ isIdentifier (underscored text) = false := by
  constructor
  · intro broken
    have named := named_of_badConstant broken
    obtain ⟨before, field, after, parts, proceed, stops⟩ := (expand_eq_error_iff named).1 broken
    cases stops with
    | @broken e exposed apart bad =>
      obtain ⟨filter, read, shown, name⟩ := exists_filter_of_slot exposed
      have made := (slot_facts exposed).1
      rw [made, isIdentifier_constantOf] at bad
      cases renamed : filter.name with
      | none =>
        -- A declared name has no hyphens and is an identifier, so its constant would be one.
        have identifier : isIdentifier field.plainName = true := by
          apply identifiers
          rw [parts]
          exact List.mem_append_right before (.head after)
        rw [renamed, Option.getD_none] at name
        rw [name, underscored_of_isIdentifier identifier, identifier] at bad
        cases bad
      | some text =>
        rw [renamed, Option.getD_some] at name
        subst name
        exact ⟨named, before, field, after, filter, _, parts, proceed, read, shown, renamed,
          apart, made, bad⟩
  · rintro ⟨named, before, field, after, filter, text, parts, proceed, read, shown, renamed, apart,
      rfl, bad⟩
    have exposed := slot_of_shown read shown
    rw [renamed, Option.getD_some] at exposed
    rw [← isIdentifier_constantOf] at bad
    exact (expand_eq_error_iff named).2
      ⟨before, field, after, parts, proceed, .broken exposed apart bad⟩

/-! ## A name with a blank -/

/-- Notes, whose second field has a name of two words in rules. -/
def note : Declaration :=
  Example.record "Note"
    [Example.declared "title" "String" [],
     Example.declared "body" "String" [Example.renamed "note-body text"]]

/-- The attributes of notes can be read, but the blank stays in the constant. -/
theorem breaks_off_iff_note :
    (∀ field ∈ note.fields, isIdentifier field.plainName = true) ∧
      note.expand = .error (.badConstant "NOTE_BODY TEXT") := by
  have identifiers : ∀ field ∈ note.fields, isIdentifier field.plainName = true :=
    List.forall_mem_cons.2 ⟨rfl, List.forall_mem_singleton.2 rfl⟩
  have proceed : Proceed [Example.declared "title" "String" []] := exists_exposeAll_iff.1 ⟨_, rfl⟩
  have title : [Example.declared "title" "String" []].filterMap FieldDeclaration.slot =
      [⟨"title", "TITLE", "title", "String", false⟩] := rfl
  refine ⟨identifiers, (breaks_off_iff identifiers _).2 ⟨rfl, _, _, [], ⟨false, false, some _⟩, _,
    rfl, proceed, rfl, rfl, rfl, ?_, rfl, rfl⟩⟩
  rw [title]
  decide

/-- An expansion may end with neither a result nor an error that says what is wrong. -/
theorem breaks_off_note :
    ¬∀ declaration : Declaration, (∃ expansion, declaration.expand = .ok expansion) ∨
      ∃ error, declaration.expand = .error (.refused error) := by
  intro ends
  have broken : note.expand = .error (.badConstant "NOTE_BODY TEXT") := rfl
  rcases ends note with ⟨expansion, found⟩ | ⟨error, found⟩
  · cases broken.symm.trans found
  · cases broken.symm.trans found

end Declaration

end RecordFilter.Schema
