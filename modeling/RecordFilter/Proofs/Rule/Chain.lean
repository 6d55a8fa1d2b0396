import RecordFilter.Proofs.Rule.Membership
import RecordFilter.Proofs.Rule.Numbers
import RecordFilter.Proofs.Value.Equality

set_option autoImplicit false

/-!
# Chains of equal values

Two values that are equal to a third have the same shape, so they can differ only in numbers at the
same place. Integers of one kind that round alike are both equal to their common double and differ
from each other. Where there are none of them, loose equality is transitive, and nowhere else
(`Value.looselyEquals_chain_iff`).

A rule of equality accepts a value that equals its reference, so the same holds of the rules for two
equal references (`Rule.equality_chain`).
-/

namespace RecordFilter

/-! ## Values -/

namespace Value

/-- At some place, the two values have integers of one kind that differ and round alike. -/
inductive PartsRoundAlike : Value → Value → Prop where
  | number {v w : Number} (alike : v.RoundsAlike w) : PartsRoundAlike (.number v) (.number w)
  | item {xs ys : List Value} {x y : Value} (pair : (x, y) ∈ xs.zip ys)
      (alike : PartsRoundAlike x y) : PartsRoundAlike (.sequence xs) (.sequence ys)
  | entry {xs ys : List (String × Value)} {x y : String × Value} (pair : (x, y) ∈ xs.zip ys)
      (key : x.1 = y.1) (alike : PartsRoundAlike x.2 y.2) : PartsRoundAlike (.map xs) (.map ys)

theorem not_looselyEquals_of_partsRoundAlike {a b : Value} (alike : PartsRoundAlike a b) :
    ¬a.looselyEquals b = true := by
  intro equal
  induction alike with
  | number alike =>
    cases looselyEquals_iff.1 equal with
    | number compared => exact (Number.compare?_eq_iff.1 compared).2 alike
  | item pair alike ih =>
    cases looselyEquals_iff.1 equal with
    | sequence items => exact ih (List.forall₂_zip items pair)
  | entry pair key alike ih =>
    cases looselyEquals_iff.1 equal with
    | map entries => exact ih (List.forall₂_zip entries pair).2

theorem looselyEquals_trans {a b c : Value} (first : a.looselyEquals b = true)
    (second : b.looselyEquals c = true) (apart : ¬PartsRoundAlike a c) :
    a.looselyEquals c = true := by
  rw [looselyEquals_iff]
  -- All three are of one kind, so only numbers at one place can tell the first and the last apart.
  induction a using induct generalizing b c with
  | null =>
    cases looselyEquals_iff.1 first
    exact looselyEquals_iff.1 second
  | bool p =>
    cases looselyEquals_iff.1 first
    exact looselyEquals_iff.1 second
  | number v =>
    cases looselyEquals_iff.1 first with
    | number left =>
      cases looselyEquals_iff.1 second with
      | number right =>
        apply Agrees.number
        rw [Number.compare?_chain_iff left right]
        exact fun alike => apart (.number alike)
  | text s =>
    cases looselyEquals_iff.1 first
    exact looselyEquals_iff.1 second
  | sequence xs ih =>
    cases looselyEquals_iff.1 first with
    | sequence left =>
      cases looselyEquals_iff.1 second with
      | sequence right =>
        obtain ⟨length, chains⟩ := List.forall₂_iff_zip.1 (forall₂_chain left right)
        apply Agrees.sequence
        refine List.forall₂_iff_zip.2 ⟨length, ?_⟩
        intro x z pair
        obtain ⟨y, first, second⟩ := chains pair
        have mem : x ∈ xs := (List.of_mem_zip pair).1
        apply looselyEquals_iff.2
        exact ih x mem first second fun alike => apart (.item pair alike)
  | map xs ih =>
    cases looselyEquals_iff.1 first with
    | map left =>
      cases looselyEquals_iff.1 second with
      | map right =>
        obtain ⟨length, chains⟩ := List.forall₂_iff_zip.1 (forall₂_chain left right)
        apply Agrees.map
        refine List.forall₂_iff_zip.2 ⟨length, ?_⟩
        intro x z pair
        obtain ⟨y, ⟨key, first⟩, key', second⟩ := chains pair
        have mem : x ∈ xs := (List.of_mem_zip pair).1
        have same : x.1 = z.1 := key.trans key'
        refine ⟨same, looselyEquals_iff.2 ?_⟩
        exact ih x mem first second fun alike => apart (.entry pair same alike)
  | unsupported => cases looselyEquals_iff.1 first

/-- Two values that are equal to a third are equal unless they have integers at one place that round
alike. -/
theorem looselyEquals_chain_iff {a b c : Value} (first : a.looselyEquals b = true)
    (second : b.looselyEquals c = true) : a.looselyEquals c = true ↔ ¬PartsRoundAlike a c := by
  constructor
  · exact fun equal alike => not_looselyEquals_of_partsRoundAlike alike equal
  · exact looselyEquals_trans first second

end Value

/-! ## Rules -/

namespace Rule

/-- Of three values in a chain of equal ones, the first equals the last exactly if nowhere in them
two different integers of one kind stand at the same place and round alike. So a value that
satisfies the rule of equality for one reference satisfies the rule for an equal reference, with the
same exception. -/
theorem equality_chain (a b c : Value) (first : a.looselyEquals b = true)
    (second : b.looselyEquals c = true) :
    (a.looselyEquals c = true ↔ ¬Value.PartsRoundAlike a c) ∧
    ∀ field (r s : OrderedJson) one other, b = .ofJson r → c = .ofJson s →
      make field .eq r = .ok one →
      make field .eq s = .ok other →
        one.evaluate a = true ∧ (other.evaluate a = true ↔ ¬Value.PartsRoundAlike a c) := by
  have chain := Value.looselyEquals_chain_iff first second
  refine ⟨chain, ?_⟩
  rintro field r s one other rfl rfl made made'
  rw [evaluate_of_equality made, evaluate_of_equality made']
  exact ⟨first, chain⟩

/-! ## Neighbours of one double -/

/-- The same number as a double. -/
def twoTo53Real : JsonNumber := .real ⟨0x4340000000000000⟩ (by decide +kernel)

theorem twoTo53Real_looselyEquals :
    (Value.ofJson (.number twoTo53Real)).looselyEquals (.ofJson (.number twoTo53)) = true := by
  decide +kernel

/-- The successor equals the double, the double equals the integer, and the successor differs from
the integer. -/
theorem equality_chain_breaks :
    make "n" .eq (.number twoTo53Real) = .ok (equality "n" twoTo53Real) ∧
      make "n" .eq (.number twoTo53) = .ok (equality "n" twoTo53) ∧
      (equality "n" twoTo53Real).evaluate (.number nextSigned) = true ∧
      (Value.ofJson (.number twoTo53Real)).looselyEquals (.ofJson (.number twoTo53)) = true ∧
      (equality "n" twoTo53).evaluate (.number nextSigned) = false ∧
      ¬∀ a b c : Value, a.looselyEquals b = true → b.looselyEquals c = true →
        a.looselyEquals c = true := by
  have first : (Value.number nextSigned).looselyEquals (.ofJson (.number twoTo53Real)) = true := by
    decide +kernel
  have last : (Value.number nextSigned).looselyEquals (.ofJson (.number twoTo53)) = false := by
    decide +kernel
  refine ⟨make_equality, make_equality, first, twoTo53Real_looselyEquals, last, ?_⟩
  intro transitive
  rw [transitive _ _ _ first twoTo53Real_looselyEquals] at last
  cases last

/-- A successor of another kind equals the double and the integer, too. -/
theorem equality_chain_nextUnsigned :
    (Value.number nextUnsigned).looselyEquals (.ofJson (.number twoTo53Real)) = true ∧
      (Value.ofJson (.number twoTo53Real)).looselyEquals (.ofJson (.number twoTo53)) = true ∧
      (Value.number nextUnsigned).looselyEquals (.ofJson (.number twoTo53)) = true ∧
      (equality "n" twoTo53).evaluate (.number nextUnsigned) = true := by
  have first :
      (Value.number nextUnsigned).looselyEquals (.ofJson (.number twoTo53Real)) = true := by
    decide +kernel
  have apart : ¬Value.PartsRoundAlike (.number nextUnsigned) (.ofJson (.number twoTo53)) := by
    rintro (alike | - | -)
    exact alike.oneKind
  obtain ⟨values, rules⟩ := equality_chain _ _ _ first twoTo53Real_looselyEquals
  have accepted := rules "n" _ _ _ _ rfl rfl make_equality make_equality
  exact ⟨first, twoTo53Real_looselyEquals, values.2 apart, accepted.2.2 apart⟩

end Rule

end RecordFilter
