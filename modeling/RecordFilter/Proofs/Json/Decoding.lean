import RecordFilter.Json.Decoding
import RecordFilter.Proofs.Outcome

set_option autoImplicit false

/-!
# Whole texts and their parts

A text is read or decoded exactly if its tree is, with nothing but blanks behind it
(`Json.parse_eq_ok_iff`, `Source.decodeAll_eq_ok_iff`). What is decoded from an array was decoded
item by item.
-/

namespace RecordFilter

open Outcome

/-! ## Whole texts -/

theorem Source.readEnd_eq_ok_iff {rest : Option (List Char)} {done : Unit} :
    readEnd rest = .ok done ↔ ∃ blanks, rest = some blanks ∧ skipBlanks blanks = [] := by
  constructor
  · intro ended
    cases rest with
    | none => cases ended
    | some blanks =>
      refine ⟨blanks, rfl, ?_⟩
      rw [readEnd] at ended
      split at ended
      case isTrue blank => exact List.isEmpty_iff.1 blank
      case isFalse => cases ended
  · rintro ⟨blanks, rfl, blank⟩
    rw [readEnd, blank]
    rfl

/-- A document is read if its tree is, with nothing but blanks behind it. -/
theorem Json.parse_eq_ok_iff {text : String} {doc : Json} :
    Json.parse text = .ok doc ↔
      ∃ tree blanks, Source.ofText text = (tree, some blanks) ∧
        tree.toJson nestingLimit = .ok doc ∧ Source.skipBlanks blanks = [] := by
  rw [Json.parse]
  obtain ⟨tree, rest⟩ := Source.ofText text
  simp only [bind_eq_ok_iff, pure_eq_ok_iff, Source.readEnd_eq_ok_iff]
  constructor
  · rintro ⟨doc', read, _, ⟨blanks, rfl, blank⟩, rfl⟩
    exact ⟨tree, blanks, rfl, read, blank⟩
  · rintro ⟨tree', blanks, same, read, blank⟩
    cases same
    exact ⟨doc, read, (), ⟨blanks, rfl, blank⟩, rfl⟩

namespace Source

variable {ε α : Type} {decode : Source → Except (DecodeError ε) α}

/-- A value is decoded if its tree is, with nothing but blanks behind it. -/
theorem decodeAll_eq_ok_iff {text : String} {value : α} :
    decodeAll decode text = .ok value ↔
      ∃ tree blanks, ofText text = (tree, some blanks) ∧ decode tree = .ok value ∧
        skipBlanks blanks = [] := by
  rw [decodeAll]
  obtain ⟨tree, rest⟩ := ofText text
  simp only [bind_eq_ok_iff, pure_eq_ok_iff, orBroken, mapError_eq_ok_iff, readEnd_eq_ok_iff]
  constructor
  · rintro ⟨value', found, _, ⟨blanks, rfl, blank⟩, rfl⟩
    exact ⟨tree, blanks, rfl, found, blank⟩
  · rintro ⟨tree', blanks, same, found, blank⟩
    cases same
    exact ⟨value, found, (), ⟨blanks, rfl, blank⟩, rfl⟩

/-! ## Parts -/

theorem unexpected_ne_ok {tree : Source} {expected : String} {value : α} :
    (tree.unexpected expected : Except (DecodeError ε) α) ≠ .ok value := by
  intro done
  obtain ⟨shown, -, done⟩ := bind_eq_ok_iff.1 done
  cases done

/-- Each value that is decoded from an array is decoded from an item. -/
theorem mem_of_decodeArray {tree : Source} {values : List α}
    (done : tree.decodeArray decode = .ok values) {value : α} (mem : value ∈ values) :
    ∃ item, decode item = .ok value := by
  unfold decodeArray at done
  split at done
  · obtain ⟨decoded, each, done⟩ := bind_eq_ok_iff.1 done
    obtain ⟨-, -, done⟩ := bind_eq_ok_iff.1 done
    cases done
    obtain ⟨item, -, same⟩ := mem_of_mapM_eq_ok each mem
    exact ⟨item, same⟩
  · exact absurd done unexpected_ne_ok

end Source

end RecordFilter
