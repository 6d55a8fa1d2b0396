import Mathlib.Data.List.Perm.Subperm
import RecordFilter.Entries

set_option autoImplicit false

/-!
# Entries in order

Entries that are in order already are made from themselves (`ofList_of_increasing`). In order, the
entries are the results of looking their keys up (`get?_eq_some_iff`), and two lists of one
length have the same keys if one of them has the keys of the other (`keys_eq_of_subset`).
-/

namespace RecordFilter.Entries

variable {α : Type}

theorem insert_last {key : String} {value : α} {entries : Entries α}
    (greater : ∀ entry ∈ entries, entry.1 < key) :
    insert key value entries = entries ++ [(key, value)] := by
  induction entries with
  | nil => rfl
  | cons entry entries ih =>
    have less : entry.1 < key := greater entry (.head _)
    have not_greater : ¬key < entry.1 := String.lt_asymm less
    have ne : key ≠ entry.1 := by
      intro same
      rw [same] at less
      exact String.lt_irrefl _ less
    rw [insert, if_neg not_greater, if_neg ne, ih fun other mem => greater other (.tail _ mem),
      List.cons_append]

theorem foldl_insert {done rest : Entries α} (increasing : Increasing (done ++ rest)) :
    rest.foldl (fun sorted entry => insert entry.1 entry.2 sorted) done = done ++ rest := by
  -- What has been inserted is the front of the list, so every entry that follows belongs at its
  -- end.
  induction rest generalizing done with
  | nil => exact (List.append_nil done).symm
  | cons entry rest ih =>
    have greater : ∀ other ∈ done, other.1 < entry.1 :=
      fun other mem => (List.pairwise_append.1 increasing).2.2 other mem entry (.head _)
    rw [List.foldl_cons, insert_last greater, ih (by rwa [List.append_assoc]), List.append_assoc]
    rfl

/-- Entries in order are as they would be made. -/
theorem ofList_of_increasing {entries : Entries α} (increasing : Increasing entries) :
    ofList entries = entries :=
  foldl_insert increasing

/-! ## Looking up -/

theorem get?_eq_some_iff {entries : Entries α} (increasing : Increasing entries) {key : String}
    {value : α} : get? key entries = some value ↔ (key, value) ∈ entries := by
  induction entries with
  | nil => simp [get?]
  | cons first entries ih =>
    obtain ⟨less, rest⟩ := List.pairwise_cons.1 increasing
    rw [get?, List.mem_cons]
    split
    case isTrue same =>
      subst same
      constructor
      · rintro ⟨⟩
        exact .inl rfl
      · rintro (same | mem)
        · rw [← same]
        · exact absurd (less _ mem) (String.lt_irrefl _)
    case isFalse other =>
      rw [ih rest]
      constructor
      · exact .inr
      · rintro (same | mem)
        · exact absurd (congrArg Prod.fst same).symm other
        · exact mem

/-! ## Keys -/

variable {β : Type}

theorem pairwise_keys {entries : Entries α} (increasing : Increasing entries) :
    (entries.map Prod.fst).Pairwise (· < ·) :=
  List.pairwise_map.2 increasing

/-- Two lists of one length have the same keys if every key of the first is one of the second: no
key stands twice in the first, so none of the second is left over. -/
theorem keys_eq_of_subset {xs : Entries α} {ys : Entries β} (left : Increasing xs)
    (right : Increasing ys) (length : xs.length = ys.length)
    (subset : ∀ entry ∈ xs, ∃ value, (entry.1, value) ∈ ys) :
    xs.map Prod.fst = ys.map Prod.fst := by
  have distinct : (xs.map Prod.fst).Nodup := by
    apply (pairwise_keys left).imp
    intro j k less same
    rw [same] at less
    exact String.lt_irrefl k less
  have inside : xs.map Prod.fst ⊆ ys.map Prod.fst := by
    intro key mem
    obtain ⟨entry, entry_mem, rfl⟩ := List.mem_map.1 mem
    obtain ⟨value, found⟩ := subset entry entry_mem
    exact List.mem_map.2 ⟨_, found, rfl⟩
  have enough : (ys.map Prod.fst).length ≤ (xs.map Prod.fst).length := by
    rw [List.length_map, List.length_map]
    exact Nat.le_of_eq length.symm
  have perm := (List.subperm_of_subset distinct inside).perm_of_length_le enough
  apply List.Perm.eq_of_pairwise _ (pairwise_keys left) (pairwise_keys right) perm
  intro j k _ _ less greater
  exact absurd greater (String.lt_asymm less)

end RecordFilter.Entries
