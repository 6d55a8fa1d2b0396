import RecordFilter.Proofs.Json.RoundTrip

set_option autoImplicit false

/-!
# Limits of documents

A tree that is written in a text can be read as a document if it is not nested too deep and has no
number that is too large for a double, and only then (`Source.readable_iff_of_value`). So a text of
the grammar is a document within these limits (`Source.readable_iff_of_document`).
-/

namespace RecordFilter

namespace Source

open Grammar

/-! ## Nesting and numbers -/

mutual

/-- How many arrays and objects enclose the innermost part of a tree. -/
def depth : Source → Nat
  | .array items _ => depthItems items + 1
  | .object members _ => depthMembers members + 1
  | _ => 0

/-- The greatest depth of the items of an array. -/
def depthItems : List Source → Nat
  | [] => 0
  | x :: xs => max (depth x) (depthItems xs)

/-- The greatest depth of the members of an object. -/
def depthMembers : List (MemberName × Source) → Nat
  | [] => 0
  | (_, x) :: xs => max (depth x) (depthMembers xs)

end

mutual

/-- The number literals of a tree, in the order of the text. -/
def literals : Source → List NumberLiteral
  | .number literal => [literal]
  | .array items _ => literalsItems items
  | .object members _ => literalsMembers members
  | _ => []

/-- The number literals of the items of an array. -/
def literalsItems : List Source → List NumberLiteral
  | [] => []
  | x :: xs => literals x ++ literalsItems xs

/-- The number literals of the members of an object. -/
def literalsMembers : List (MemberName × Source) → List NumberLiteral
  | [] => []
  | (_, x) :: xs => literals x ++ literalsMembers xs

end

/-- No number is too large for a double. -/
def Finite (literals : List NumberLiteral) : Prop := ∀ literal ∈ literals, literal.value? ≠ none

theorem finite_append_iff {xs ys : List NumberLiteral} :
    Finite (xs ++ ys) ↔ Finite xs ∧ Finite ys :=
  List.forall_mem_append

theorem mem_of_following {α : Type} {Entry : α → List Char → Prop} {entries : List α}
    {more : List Char} (written : Following Entry entries more) :
    ∀ entry ∈ entries, ∃ text, Entry entry text := by
  induction written with
  | nil => exact List.forall_mem_nil _
  | cons _ entry _ _ ih => exact List.forall_mem_cons.2 ⟨⟨_, entry⟩, ih⟩

theorem mem_of_listed {α : Type} {Entry : α → List Char → Prop} {entries : List α}
    {body : List Char} (written : Listed Entry entries body) :
    ∀ entry ∈ entries, ∃ text, Entry entry text := by
  cases written with
  | empty => exact List.forall_mem_nil _
  | cons _ entry _ following =>
    exact List.forall_mem_cons.2 ⟨⟨_, entry⟩, mem_of_following following⟩

mutual

/-- A tree that is written can be read if it is not nested too deep and its numbers are not too
large. -/
theorem readable_iff_of_value : ∀ (tree : Source) {text : List Char} {limit : Nat},
    Value tree text → (tree.Readable limit ↔ tree.depth ≤ limit ∧ Finite tree.literals)
  | .null, _, _, _ => ⟨fun _ => ⟨Nat.zero_le _, List.forall_mem_nil _⟩, fun _ => ⟨.null, rfl⟩⟩
  | .bool b, _, _, _ => ⟨fun _ => ⟨Nat.zero_le _, List.forall_mem_nil _⟩, fun _ => ⟨.bool b, rfl⟩⟩
  | .number literal, _, limit, _ => by
    rw [readable_number_iff, literals, Finite, List.forall_mem_singleton]
    exact ⟨fun value => ⟨Nat.zero_le _, value⟩, And.right⟩
  | .string _, _, _, .string (s := s) _ =>
    ⟨fun _ => ⟨Nat.zero_le _, List.forall_mem_nil _⟩, fun _ => readable_string_iff.2 ⟨s, rfl⟩⟩
  | .array items _, _, limit, .array listed => by
    have each := fun inner => readableItems_iff_of_value items inner (mem_of_listed listed)
    rw [readable_array_iff, depth, literals]
    constructor
    · rintro ⟨-, inner, rfl, readable⟩
      obtain ⟨shallow, finite⟩ := (each inner).1 readable
      exact ⟨Nat.succ_le_succ shallow, finite⟩
    · rintro ⟨shallow, finite⟩
      obtain ⟨inner, rfl⟩ : ∃ inner, limit = inner + 1 := ⟨limit - 1, by omega⟩
      exact ⟨rfl, inner, rfl, (each inner).2 ⟨Nat.le_of_succ_le_succ shallow, finite⟩⟩
  | .object members _, _, limit, .object listed => by
    have each := fun inner => readableMembers_iff_of_value members inner (mem_of_listed listed)
    rw [readable_object_iff, depth, literals]
    constructor
    · rintro ⟨-, inner, rfl, readable⟩
      obtain ⟨shallow, finite⟩ := (each inner).1 readable
      exact ⟨Nat.succ_le_succ shallow, finite⟩
    · rintro ⟨shallow, finite⟩
      obtain ⟨inner, rfl⟩ : ∃ inner, limit = inner + 1 := ⟨limit - 1, by omega⟩
      exact ⟨rfl, inner, rfl, (each inner).2 ⟨Nat.le_of_succ_le_succ shallow, finite⟩⟩

theorem readableItems_iff_of_value : ∀ (items : List Source) (limit : Nat),
    (∀ item ∈ items, ∃ text, Value item text) →
      ((∀ item ∈ items, Readable limit item) ↔
        depthItems items ≤ limit ∧ Finite (literalsItems items))
  | [], _, _ =>
    ⟨fun _ => ⟨Nat.zero_le _, List.forall_mem_nil _⟩, fun _ => List.forall_mem_nil _⟩
  | item :: items, limit, written => by
    obtain ⟨⟨text, first⟩, others⟩ := List.forall_mem_cons.1 written
    rw [List.forall_mem_cons, readable_iff_of_value item first,
      readableItems_iff_of_value items limit others, depthItems, literalsItems, finite_append_iff,
      Nat.max_le]
    exact and_and_and_comm

theorem readableMembers_iff_of_value : ∀ (members : List (MemberName × Source)) (limit : Nat),
    (∀ member ∈ members, ∃ text, Member Value member text) →
      ((∀ member ∈ members, (∃ key, member.1 = .ok (some key)) ∧ Readable limit member.2) ↔
        depthMembers members ≤ limit ∧ Finite (literalsMembers members))
  | [], _, _ =>
    ⟨fun _ => ⟨Nat.zero_le _, List.forall_mem_nil _⟩, fun _ => List.forall_mem_nil _⟩
  | (name, value) :: members, limit, written => by
    obtain ⟨⟨text, first⟩, others⟩ := List.forall_mem_cons.1 written
    obtain @⟨key, _, _, _, _, _, named, -, -, value_written⟩ := first
    have has_key : ∃ other, (.ok (some key) : MemberName) = .ok (some other) := ⟨key, rfl⟩
    rw [List.forall_mem_cons, and_iff_right has_key, readable_iff_of_value value value_written,
      readableMembers_iff_of_value members limit others, depthMembers, literalsMembers,
      finite_append_iff, Nat.max_le]
    exact and_and_and_comm

end

theorem readable_iff_of_document {tree : Source} {text : List Char} {limit : Nat}
    (document : Document tree text) :
    tree.Readable limit ↔ tree.depth ≤ limit ∧ Finite tree.literals := by
  cases document with
  | padded _ value _ => exact readable_iff_of_value tree value

end Source

/-- The written form of a document is in the grammar, if it can be read. -/
theorem Json.document_text {doc : Json} {limit : Nat} (readBack : NumbersReadBack doc.numbers)
    (readable : doc.tree.Readable limit) : Grammar.Document doc.tree doc.text.toList :=
  Grammar.document_of_ofText (ofText_render readBack) readable rfl

end RecordFilter
