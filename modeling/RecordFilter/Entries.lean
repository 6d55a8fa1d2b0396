set_option autoImplicit false

/-!
# Entries by key

Objects and maps are lists of entries with increasing keys, so two of them with the same keys
have them in the same order. `Entries.ofList` sorts a list of entries and keeps the last of those
with one key: what it makes is in order (`increasing_ofList`) and adds nothing to the list
(`mem_ofList`).
-/

namespace RecordFilter

/-- Entries, by key. -/
abbrev Entries (α : Type) := List (String × α)

namespace Entries

variable {α β : Type}

/-- The value at a key. -/
def get? (key : String) : Entries α → Option α
  | [] => none
  | (k, v) :: rest => if k = key then some v else get? key rest

/-- The entries with the value at a key replaced, or put in its place in the order. -/
def insert (key : String) (value : α) : Entries α → Entries α
  | [] => [(key, value)]
  | (k, v) :: rest =>
    if key < k then (key, value) :: (k, v) :: rest
    else if key = k then (key, value) :: rest
    else (k, v) :: insert key value rest

/-- The entries in the order of their keys; of several with one key the last counts. -/
def ofList (entries : List (String × α)) : Entries α :=
  entries.foldl (fun sorted entry => insert entry.1 entry.2 sorted) []

/-- Whether the keys increase. -/
def Increasing (entries : Entries α) : Prop := entries.Pairwise fun a b => a.1 < b.1

instance (entries : Entries α) : Decidable (Increasing entries) :=
  inferInstanceAs (Decidable (entries.Pairwise fun a b => a.1 < b.1))

/-! ## Order -/

theorem mem_insert {key : String} {value : α} {entries : Entries α} {entry : String × α}
    (mem : entry ∈ insert key value entries) : entry = (key, value) ∨ entry ∈ entries := by
  induction entries with
  | nil => exact .inl (List.mem_singleton.1 mem)
  | cons first entries ih =>
    rw [insert] at mem
    split at mem
    · exact List.mem_cons.1 mem
    split at mem
    · rcases List.mem_cons.1 mem with rfl | mem
      · exact .inl rfl
      · exact .inr (.tail _ mem)
    · rcases List.mem_cons.1 mem with rfl | mem
      · exact .inr (.head _)
      · exact (ih mem).imp id (.tail _)

theorem increasing_insert {entries : Entries α} (key : String) (value : α)
    (increasing : Increasing entries) : Increasing (insert key value entries) := by
  induction entries with
  | nil => exact List.pairwise_singleton _ _
  | cons first entries ih =>
    obtain ⟨first_less, rest⟩ := List.pairwise_cons.1 increasing
    rw [insert]
    split
    case isTrue less =>
      refine List.pairwise_cons.2 ⟨?_, increasing⟩
      intro entry mem
      rcases List.mem_cons.1 mem with rfl | mem
      · exact less
      · exact String.lt_trans less (first_less entry mem)
    case isFalse not_less =>
    split
    case isTrue same =>
      subst same
      exact List.pairwise_cons.2 ⟨first_less, rest⟩
    case isFalse ne =>
      refine List.pairwise_cons.2 ⟨?_, ih rest⟩
      intro entry mem
      rcases mem_insert mem with rfl | mem
      · have le : first.1 ≤ key := String.not_lt.1 not_less
        exact Decidable.byContradiction fun not_greater =>
          ne (String.le_antisymm (String.not_lt.1 not_greater) le)
      · exact first_less entry mem

/-- Entries are made in order. -/
theorem increasing_ofList (entries : List (String × α)) : Increasing (ofList entries) := by
  have step : ∀ (rest done : Entries α), Increasing done →
      Increasing (rest.foldl (fun sorted entry => insert entry.1 entry.2 sorted) done) := by
    intro rest
    induction rest with
    | nil => exact fun _ increasing => increasing
    | cons entry rest ih =>
      exact fun done increasing => ih _ (increasing_insert entry.1 entry.2 increasing)
  exact step entries [] List.Pairwise.nil

/-- Making entries adds none. -/
theorem mem_ofList {entries : List (String × α)} {entry : String × α}
    (mem : entry ∈ ofList entries) : entry ∈ entries := by
  have step : ∀ (rest done : Entries α),
      entry ∈ rest.foldl (fun sorted entry => insert entry.1 entry.2 sorted) done →
        entry ∈ done ∨ entry ∈ rest := by
    intro rest
    induction rest with
    | nil => exact fun _ mem => .inl mem
    | cons first rest ih =>
      intro done mem
      rcases ih _ mem with mem | mem
      · rcases mem_insert mem with rfl | mem
        · exact .inr (.head _)
        · exact .inl mem
      · exact .inr (.tail _ mem)
  rcases step entries [] mem with mem | mem
  · cases mem
  · exact mem

end Entries

end RecordFilter
