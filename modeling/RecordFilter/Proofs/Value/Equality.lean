import Mathlib.Data.List.Forall2
import RecordFilter.Proofs.Entries
import RecordFilter.Proofs.Number.Comparison
import RecordFilter.Value.Basic

set_option autoImplicit false

/-!
# Loose equality of values

Loose equality is symmetric (`looselyEquals_comm`) but not reflexive: a NaN differs from itself, and
so does what cannot be compared. A value equals itself exactly if neither of them occurs in it, at
any depth (`looselyEquals_self_iff`), so the value of a document always does (`comparable_ofJson`).

Maps are compared entry by entry in the order of their keys. That finds the same maps equal as
looking every key of one map up in the other, if the sizes agree (`looselyEquals_map_iff`): the keys
of the one map are then all the keys of the other.
-/

namespace RecordFilter.Value

/-! ## Values by induction -/

/-- What a value inherits from its items and entries holds of all values. -/
@[elab_as_elim]
theorem induct {motive : Value → Prop} (null : motive .null) (bool : ∀ b, motive (.bool b))
    (number : ∀ n, motive (.number n)) (text : ∀ s, motive (.text s))
    (sequence : ∀ items, (∀ x ∈ items, motive x) → motive (.sequence items))
    (map : ∀ entries, (∀ entry ∈ entries, motive entry.2) → motive (.map entries))
    (unsupported : motive .unsupported) : ∀ value, motive value
  | .null => null
  | .bool b => bool b
  | .number n => number n
  | .text s => text s
  | .sequence items =>
    sequence items fun x _ => induct null bool number text sequence map unsupported x
  | .map entries =>
    map entries fun entry _ => induct null bool number text sequence map unsupported entry.2
  | .unsupported => unsupported
termination_by value => sizeOf value
decreasing_by
  all_goals simp_wf
  · have smaller := List.sizeOf_lt_of_mem ‹x ∈ items›
    omega
  · have smaller := List.sizeOf_lt_of_mem ‹entry ∈ entries›
    have part : sizeOf entry.2 < sizeOf entry := by
      cases entry
      simp only [Prod.mk.sizeOf_spec]
      omega
    omega

/-! ## One level of two values -/

theorem itemsLooselyEqual_iff {xs ys : List Value} :
    itemsLooselyEqual xs ys = true ↔ List.Forall₂ (fun x y => x.looselyEquals y = true) xs ys := by
  induction xs generalizing ys with
  | nil => cases ys <;> simp [itemsLooselyEqual]
  | cons x xs ih => cases ys <;> simp [itemsLooselyEqual, ih]

theorem entriesLooselyEqual_iff {xs ys : List (String × Value)} :
    entriesLooselyEqual xs ys = true ↔
      List.Forall₂ (fun a b => a.1 = b.1 ∧ a.2.looselyEquals b.2 = true) xs ys := by
  induction xs generalizing ys with
  | nil => cases ys <;> simp [entriesLooselyEqual]
  | cons x xs ih => cases ys <;> simp [entriesLooselyEqual, ih]

/-- Two values of one kind with equal contents. -/
inductive Agrees : Value → Value → Prop where
  | null : Agrees .null .null
  | bool (b : Bool) : Agrees (.bool b) (.bool b)
  | number {v w : Number} (equal : v.compare? w = some .eq) : Agrees (.number v) (.number w)
  | text (s : String) : Agrees (.text s) (.text s)
  | sequence {xs ys : List Value}
      (items : List.Forall₂ (fun x y => x.looselyEquals y = true) xs ys) :
      Agrees (.sequence xs) (.sequence ys)
  | map {xs ys : List (String × Value)}
      (entries : List.Forall₂ (fun x y => x.1 = y.1 ∧ x.2.looselyEquals y.2 = true) xs ys) :
      Agrees (.map xs) (.map ys)

/-- Loose equality asks for one kind on this level and for loose equality on the next. -/
theorem looselyEquals_iff {a b : Value} : a.looselyEquals b = true ↔ Agrees a b := by
  constructor
  · intro equal
    cases a with
    | null =>
      cases b with
      | null => exact .null
      | _ => simp [looselyEquals] at equal
    | bool p =>
      cases b with
      | bool q =>
        rw [looselyEquals, beq_iff_eq] at equal
        rw [equal]
        exact .bool q
      | _ => simp [looselyEquals] at equal
    | number v =>
      cases b with
      | number w =>
        rw [looselyEquals, beq_iff_eq] at equal
        exact .number equal
      | _ => simp [looselyEquals] at equal
    | text s =>
      cases b with
      | text t =>
        rw [looselyEquals, beq_iff_eq] at equal
        rw [equal]
        exact .text t
      | _ => simp [looselyEquals] at equal
    | sequence xs =>
      cases b with
      | sequence ys =>
        rw [looselyEquals, itemsLooselyEqual_iff] at equal
        exact .sequence equal
      | _ => simp [looselyEquals] at equal
    | map xs =>
      cases b with
      | map ys =>
        rw [looselyEquals, entriesLooselyEqual_iff] at equal
        exact .map equal
      | _ => simp [looselyEquals] at equal
    | unsupported => cases b <;> simp [looselyEquals] at equal
  · intro agrees
    cases agrees with
    | null => rfl
    | bool b => rw [looselyEquals, beq_iff_eq]
    | number equal => rw [looselyEquals, equal, beq_iff_eq]
    | text s => rw [looselyEquals, beq_iff_eq]
    | sequence items => rw [looselyEquals, itemsLooselyEqual_iff.2 items]
    | map entries => rw [looselyEquals, entriesLooselyEqual_iff.2 entries]

/-! ## Lists item by item -/

theorem forall₂_swap {α : Type} {related : α → α → Prop} {xs ys : List α}
    (symm : ∀ x ∈ xs, ∀ y, related x y → related y x) (all : List.Forall₂ related xs ys) :
    List.Forall₂ related ys xs := by
  apply List.Forall₂.flip
  have both := (List.forall₂_and_left xs ys).2 ⟨symm, all⟩
  exact both.imp fun x y pair => pair.1 y pair.2

theorem forall₂_chain {α : Type} {first second : α → α → Prop} {xs ys zs : List α}
    (left : List.Forall₂ first xs ys) (right : List.Forall₂ second ys zs) :
    List.Forall₂ (fun x z => ∃ y, first x y ∧ second y z) xs zs := by
  induction left generalizing zs with
  | nil =>
    cases right
    exact .nil
  | cons head tail ih =>
    cases right with
    | cons head' tail' => exact .cons ⟨_, head, head'⟩ (ih tail')

/-! ## Symmetry -/

theorem looselyEquals_symm {a b : Value} (equal : a.looselyEquals b = true) :
    b.looselyEquals a = true := by
  rw [looselyEquals_iff]
  -- The induction is on the first value; the second one has the same kind on every level.
  induction a using induct generalizing b with
  | null =>
    cases looselyEquals_iff.1 equal
    exact .null
  | bool p =>
    cases looselyEquals_iff.1 equal
    exact .bool p
  | number v =>
    cases looselyEquals_iff.1 equal with
    | number compared =>
      apply Agrees.number
      rw [Number.compare?_swap, compared]
      rfl
  | text s =>
    cases looselyEquals_iff.1 equal
    exact .text s
  | sequence xs ih =>
    cases looselyEquals_iff.1 equal with
    | sequence items =>
      apply Agrees.sequence
      apply forall₂_swap _ items
      intro x mem y equal
      exact looselyEquals_iff.2 (ih x mem equal)
  | map xs ih =>
    cases looselyEquals_iff.1 equal with
    | map entries =>
      apply Agrees.map
      apply forall₂_swap _ entries
      rintro x mem y ⟨key, equal⟩
      exact ⟨key.symm, looselyEquals_iff.2 (ih x mem equal)⟩
  | unsupported => cases looselyEquals_iff.1 equal

theorem looselyEquals_comm (a b : Value) : a.looselyEquals b = b.looselyEquals a :=
  Bool.eq_iff_iff.2 ⟨looselyEquals_symm, looselyEquals_symm⟩

/-! ## Values that equal themselves -/

/-- A part of a value is the value itself or a part of one of its items or entries. -/
inductive Occurs (part : Value) : Value → Prop where
  | here : Occurs part part
  | item {items : List Value} {x : Value} (mem : x ∈ items) (inside : Occurs part x) :
      Occurs part (.sequence items)
  | entry {entries : List (String × Value)} {entry : String × Value} (mem : entry ∈ entries)
      (inside : Occurs part entry.2) : Occurs part (.map entries)

/-- No NaN occurs in the value, and nothing that cannot be compared. -/
structure Comparable (value : Value) : Prop where
  numbers : ∀ n : Number, Occurs (.number n) value → ¬n.IsNaN
  supported : ¬Occurs .unsupported value

theorem comparable_null : Comparable .null := ⟨nofun, nofun⟩

theorem comparable_bool (b : Bool) : Comparable (.bool b) := ⟨nofun, nofun⟩

theorem comparable_text (s : String) : Comparable (.text s) := ⟨nofun, nofun⟩

theorem not_comparable_unsupported : ¬Comparable .unsupported :=
  fun comparable => comparable.supported .here

theorem comparable_number_iff {n : Number} : Comparable (.number n) ↔ ¬n.IsNaN := by
  constructor
  · exact fun comparable => comparable.numbers n .here
  · intro number
    constructor
    · rintro m ⟨⟩
      exact number
    · rintro ⟨⟩

theorem comparable_sequence_iff {items : List Value} :
    Comparable (.sequence items) ↔ ∀ x ∈ items, x.Comparable := by
  constructor
  · intro comparable x mem
    constructor
    · exact fun n inside => comparable.numbers n (.item mem inside)
    · exact fun inside => comparable.supported (.item mem inside)
  · intro each
    constructor
    · intro n occurs
      cases occurs with
      | item mem inside => exact (each _ mem).numbers n inside
    · intro occurs
      cases occurs with
      | item mem inside => exact (each _ mem).supported inside

theorem comparable_map_iff {entries : List (String × Value)} :
    Comparable (.map entries) ↔ ∀ entry ∈ entries, entry.2.Comparable := by
  constructor
  · intro comparable entry mem
    constructor
    · exact fun n inside => comparable.numbers n (.entry mem inside)
    · exact fun inside => comparable.supported (.entry mem inside)
  · intro each
    constructor
    · intro n occurs
      cases occurs with
      | entry mem inside => exact (each _ mem).numbers n inside
    · intro occurs
      cases occurs with
      | entry mem inside => exact (each _ mem).supported inside

/-- A value equals itself unless a NaN or something that cannot be compared occurs in it. -/
theorem looselyEquals_self_iff (value : Value) :
    value.looselyEquals value = true ↔ value.Comparable := by
  induction value using induct with
  | null => simp [looselyEquals, comparable_null]
  | bool b => simp [looselyEquals, comparable_bool]
  | number n => rw [looselyEquals, beq_iff_eq, Number.compare?_self_iff, comparable_number_iff]
  | text s => simp [looselyEquals, comparable_text]
  | sequence items ih =>
    rw [looselyEquals, itemsLooselyEqual_iff, List.forall₂_same, comparable_sequence_iff]
    exact forall₂_congr ih
  | map entries ih =>
    rw [looselyEquals, entriesLooselyEqual_iff, List.forall₂_same, comparable_map_iff]
    apply forall₂_congr
    intro entry mem
    rw [← ih entry mem]
    exact and_iff_right rfl
  | unsupported => simp [looselyEquals, not_comparable_unsupported]

mutual

/-- Documents have no NaNs and nothing that cannot be compared. -/
theorem comparable_ofJson : ∀ doc : Json, (ofJson doc).Comparable
  | .null => comparable_null
  | .bool b => comparable_bool b
  | .number n => by
    rw [ofJson, comparable_number_iff, Number.isNaN_iff, JsonNumber.toBinary64_toNumber,
      JsonNumber.isNaN_toBinary64]
    exact Bool.false_ne_true
  | .string s => comparable_text s
  | .array items => comparable_sequence_iff.2 (comparable_ofItems items)
  | .object members => comparable_map_iff.2 (comparable_ofMembers members)

theorem comparable_ofItems : ∀ items : List Json, ∀ x ∈ ofItems items, x.Comparable
  | [] => List.forall_mem_nil _
  | doc :: docs => List.forall_mem_cons.2 ⟨comparable_ofJson doc, comparable_ofItems docs⟩

theorem comparable_ofMembers : ∀ members : List (String × Json),
    ∀ entry ∈ ofMembers members, entry.2.Comparable
  | [] => List.forall_mem_nil _
  | (_, doc) :: members =>
    List.forall_mem_cons.2 ⟨comparable_ofJson doc, comparable_ofMembers members⟩

end

/-! ## Maps by their keys -/

/-- Maps are equal exactly if they are of one size and every key of the first is one of the second,
with an equal value. -/
theorem looselyEquals_map_iff {xs ys : List (String × Value)} (left : Entries.Increasing xs)
    (right : Entries.Increasing ys) :
    (Value.map xs).looselyEquals (.map ys) = true ↔
      xs.length = ys.length ∧ ∀ entry ∈ xs, ∃ y, Entries.get? entry.1 ys = some y ∧
        entry.2.looselyEquals y = true := by
  rw [looselyEquals, entriesLooselyEqual_iff]
  constructor
  · intro equal
    obtain ⟨length, pairs⟩ := List.forall₂_iff_zip.1 equal
    refine ⟨length, ?_⟩
    intro entry mem
    rw [← List.map_fst_zip (Nat.le_of_eq length)] at mem
    obtain ⟨⟨x, y⟩, pair, rfl⟩ := List.mem_map.1 mem
    obtain ⟨key, values⟩ := pairs pair
    refine ⟨y.2, ?_, values⟩
    rw [Entries.get?_eq_some_iff right, key]
    exact (List.of_mem_zip pair).2
  · rintro ⟨length, found⟩
    -- Of two maps of one size, the second has no key besides those of the first.
    have keys : List.Forall₂ (· = ·) (xs.map Prod.fst) (ys.map Prod.fst) := by
      rw [List.forall₂_eq_eq_eq]
      apply Entries.keys_eq_of_subset left right length
      intro entry mem
      obtain ⟨y, got, -⟩ := found entry mem
      exact ⟨y, (Entries.get?_eq_some_iff right).1 got⟩
    rw [List.forall₂_map_left_iff, List.forall₂_map_right_iff] at keys
    refine List.forall₂_iff_zip.2 ⟨length, ?_⟩
    intro x y pair
    have key := List.forall₂_zip keys pair
    obtain ⟨x_mem, y_mem⟩ := List.of_mem_zip pair
    obtain ⟨value, got, equal⟩ := found x x_mem
    rw [key, (Entries.get?_eq_some_iff right).2 y_mem] at got
    cases got
    exact ⟨key, equal⟩

/-! ## Equality that is not reflexive -/

/-- Loose equality is symmetric, whatever stands inside the values. A value equals itself exactly if
no NaN and nothing that cannot be compared occurs in it, at any depth; the value of a document does.
Comparing maps in the order of their keys finds out whether they are of one size and every key of
the first is one of the second, with an equal value. -/
theorem looselyEquals_symmetric :
    (∀ a b : Value, a.looselyEquals b = b.looselyEquals a) ∧
    (∀ a : Value, a.looselyEquals a = true ↔ a.Comparable) ∧
    (∀ doc : Json, (ofJson doc).looselyEquals (ofJson doc) = true) ∧
    ∀ xs ys : List (String × Value), Entries.Increasing xs → Entries.Increasing ys →
      ((Value.map xs).looselyEquals (.map ys) = true ↔
        xs.length = ys.length ∧ ∀ entry ∈ xs, ∃ y, Entries.get? entry.1 ys = some y ∧
          entry.2.looselyEquals y = true) := by
  refine ⟨looselyEquals_comm, looselyEquals_self_iff, ?_, fun xs ys => looselyEquals_map_iff⟩
  intro doc
  rw [looselyEquals_self_iff]
  exact comparable_ofJson doc

/-- Two maps with numbers of different kinds, found equal by their keys. -/
theorem looselyEquals_symmetric_ages :
    let signed : List (String × Value) := [("age", .number (.signed 7)), ("name", .text "Ada")]
    let unsigned : List (String × Value) := [("age", .number (.unsigned 7)), ("name", .text "Ada")]
    Entries.Increasing signed ∧ Entries.Increasing unsigned ∧
      (Value.map signed).looselyEquals (.map unsigned) = true := by
  intro signed unsigned
  have left : Entries.Increasing signed := by
    unfold Entries.Increasing
    decide
  have right : Entries.Increasing unsigned := by
    unfold Entries.Increasing
    decide
  have equal : (Value.number (.signed 7)).looselyEquals (.number (.unsigned 7)) = true := by
    decide +kernel
  refine ⟨left, right, (looselyEquals_symmetric.2.2.2 signed unsigned left right).2 ⟨rfl, ?_⟩⟩
  intro entry mem
  rcases List.mem_cons.1 mem with rfl | mem
  · exact ⟨_, rfl, equal⟩
  · cases List.mem_singleton.1 mem
    exact ⟨_, rfl, rfl⟩

end RecordFilter.Value
