import RecordFilter.Proofs.Rule.Compilation
import RecordFilter.Proofs.Rule.RoundTrip
import RecordFilter.Proofs.Text.CaseForms

set_option autoImplicit false

/-!
# Rules with texts

A rule with a string for its reference relates the text of a field to it. The reference can be the
beginning of the text, its end, or any part of it (`TextRelation.holds_iff`).

Equality up to case compares the lowercase forms of both, which is stricter than equality under case
folding. A text that differs from the reference in case only matches unless a stray stands where
they differ, one of the few lowercase letters to which their own capitals are not turned back
(`Rule.equalFold_of_variants`).
-/

namespace RecordFilter

/-! ## Relations -/

theorem occursIn_iff {part text : List Char} : occursIn part text = true ↔ part <:+: text := by
  induction text with
  | nil => rw [occursIn, List.isEmpty_iff, List.infix_nil]
  | cons c rest ih =>
    rw [occursIn, Bool.or_eq_true, List.isPrefixOf_iff_prefix, ih, List.infix_cons_iff]

namespace TextRelation

/-- What a relation says of a text and a reference. -/
def Relates (reference text : String) : TextRelation → Prop
  | .equalFold => Unicode.lowercaseText text = Unicode.lowercaseText reference
  | .startsWith => reference.toList <+: text.toList
  | .endsWith => reference.toList <:+ text.toList
  | .contains => reference.toList <:+: text.toList

variable {relation : TextRelation} {reference text : String}

theorem holds_iff : relation.holds reference text = true ↔ relation.Relates reference text := by
  cases relation with
  | equalFold => exact beq_iff_eq
  | startsWith => exact List.isPrefixOf_iff_prefix
  | endsWith => exact List.isSuffixOf_iff_suffix
  | contains => exact occursIn_iff

/-- Every text has all the relations to itself. -/
theorem relates_self (relation : TextRelation) (text : String) : relation.Relates text text := by
  cases relation with
  | equalFold => exact rfl
  | startsWith => exact List.prefix_rfl
  | endsWith => exact List.suffix_rfl
  | contains => exact List.infix_rfl

end TextRelation

/-! ## Rules -/

namespace Rule

/-- The rule that a field has a relation to a text. -/
def textual (relation : TextRelation) (field reference : String) : Rule :=
  ⟨field, relation.operator, .string reference, .text relation reference,
    Matcher.compile_eq_ok_iff.2 (.text relation reference)⟩

variable {relation : TextRelation} {field reference text : String}

theorem make_textual :
    make field relation.operator (.string reference) = .ok (textual relation field reference) :=
  make_self (textual relation field reference)

theorem evaluate_textual_iff :
    (textual relation field reference).evaluate (.text text) = true ↔
      relation.Relates reference text :=
  TextRelation.holds_iff

/-! ## Equality up to case -/

open Unicode

theorem evaluate_equalFold_iff (variants : List.Forall₂ CaseVariants reference.toList text.toList) :
    (textual .equalFold field reference).evaluate (.text text) = true ↔
      List.Forall₂ (fun c d => c = d ∨ c ∉ strays ∧ d ∉ strays) reference.toList text.toList := by
  rw [evaluate_textual_iff, TextRelation.Relates, eq_comm]
  exact lowercaseText_eq_iff variants

/-- A text that differs from the reference in case only equals it up to case exactly if no stray
stands where they differ. Every stray differs in case only from some character that it is not found
equal to. -/
theorem equalFold_of_variants (field : String) :
    (∀ reference text : String, List.Forall₂ CaseVariants reference.toList text.toList →
      make field .eqFold (.string reference) = .ok (textual .equalFold field reference) ∧
        ((textual .equalFold field reference).evaluate (.text text) = true ↔
          List.Forall₂ (fun c d => c = d ∨ c ∉ strays ∧ d ∉ strays) reference.toList text.toList)) ∧
    ∀ c ∈ strays, ∃ d, CaseVariants c d ∧
      (textual .equalFold field (String.singleton c)).evaluate (.text (String.singleton d)) =
        false := by
  constructor
  · intro reference text variants
    exact ⟨make_self (textual .equalFold field reference), evaluate_equalFold_iff variants⟩
  · intro c stray
    obtain ⟨d, variants, other⟩ := exists_variant_of_stray stray
    refine ⟨d, variants, ?_⟩
    have both :
        List.Forall₂ CaseVariants (String.singleton c).toList (String.singleton d).toList := by
      rw [String.toList_singleton, String.toList_singleton]
      exact .cons variants .nil
    rw [Bool.eq_false_iff, ne_eq, evaluate_equalFold_iff both, String.toList_singleton,
      String.toList_singleton, List.forall₂_cons]
    rintro ⟨same | regular, -⟩
    · exact other same
    · exact regular.1 stray

/-- A text with the capital of the sharp s, and with a letter that has a longer lowercase form. The
final sigma is not found equal to another character. -/
theorem equalFold_of_variants_street :
    List.Forall₂ CaseVariants "İ-STRAẞE".toList "İ-Straße".toList ∧
      (textual .equalFold "street" "İ-STRAẞE").evaluate (.text "İ-Straße") = true ∧
      'ς' ∈ strays ∧ ∃ d, CaseVariants 'ς' d ∧
        (textual .equalFold "street" "ς").evaluate (.text (String.singleton d)) = false := by
  have folded : List.Forall₂ (fun c d => Current.simpleFold c = Current.simpleFold d)
      "İ-STRAẞE".toList "İ-Straße".toList := by
    decide +kernel
  have variants := folded.imp fun c d => CaseVariants.folding
  have stray : 'ς' ∈ strays := by decide
  obtain ⟨texts, missed⟩ := equalFold_of_variants "street"
  exact ⟨variants, (texts _ _ variants).2.2 (by decide +kernel), stray, missed 'ς' stray⟩

/-- A word that ends in a sigma, which has a small form of its own there. -/
theorem equalFold_final_sigma :
    List.Forall₂ (fun c d => Current.simpleFold c = Current.simpleFold d)
      "ΟΔΟΣ".toList "οδος".toList ∧
      List.Forall₂ IsUppercase "οδος".toList "ΟΔΟΣ".toList ∧
      make "word" .eqFold (.string "ΟΔΟΣ") = .ok (textual .equalFold "word" "ΟΔΟΣ") ∧
      (textual .equalFold "word" "ΟΔΟΣ").evaluate (.text "οδος") = false := by
  refine ⟨?folding, ?uppercase, make_self (textual .equalFold "word" "ΟΔΟΣ"), ?missed⟩
  all_goals decide +kernel

end Rule

end RecordFilter
