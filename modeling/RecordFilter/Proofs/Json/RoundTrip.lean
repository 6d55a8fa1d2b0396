import RecordFilter.Proofs.Entries
import RecordFilter.Proofs.Json.WrittenNumber

set_option autoImplicit false

/-!
# Written documents

The written form of a document is in the grammar, as the tree of that document (`value_render`), so
the reader finds the tree in it (`ofText_render`); and the tree gives the document back if its
numbers read back, its objects are in the order of their keys and it is not nested too deep
(`toJson_tree`).
-/

namespace RecordFilter

open Outcome

namespace Json

open Grammar Source

/-! ## Documents that can be written and read -/

mutual

/-- The numbers of a document. -/
def numbers : Json → List JsonNumber
  | .number n => [n]
  | .array items => numbersItems items
  | .object members => numbersMembers members
  | _ => []

/-- The numbers of the items of an array. -/
def numbersItems : List Json → List JsonNumber
  | [] => []
  | x :: xs => numbers x ++ numbersItems xs

/-- The numbers of the members of an object. -/
def numbersMembers : List (String × Json) → List JsonNumber
  | [] => []
  | (_, x) :: xs => numbers x ++ numbersMembers xs

end

/-- The numbers of a document read back. -/
def NumbersReadBack (numbers : List JsonNumber) : Prop := ∀ n ∈ numbers, n.ReadsBack

mutual

/-- The tree of the written form of a document. -/
def tree : Json → Source
  | .null => .null
  | .bool b => .bool b
  | .number n => (read 1 (renderNumber n)).1
  | .string s => .string (some s)
  | .array items => .array (treeItems items) none
  | .object members => .object (treeMembers members) none

/-- The trees of the items of an array. -/
def treeItems : List Json → List Source
  | [] => []
  | x :: xs => tree x :: treeItems xs

/-- The trees of the members of an object. -/
def treeMembers : List (String × Json) → List (MemberName × Source)
  | [] => []
  | (key, x) :: xs => (.ok (some key), tree x) :: treeMembers xs

end

theorem treeItems_eq_map (docs : List Json) : treeItems docs = docs.map tree := by
  induction docs with
  | nil => rfl
  | cons doc docs ih => rw [treeItems, ih, List.map_cons]

theorem mem_numbersItems {n : JsonNumber} {docs : List Json} :
    n ∈ numbersItems docs ↔ ∃ doc ∈ docs, n ∈ doc.numbers := by
  induction docs with
  | nil => simp [numbersItems]
  | cons doc docs ih =>
    rw [numbersItems, List.mem_append, ih]
    simp only [List.mem_cons, exists_eq_or_imp]

/-! ## The written form -/

/-- The tree of a number is its literal. -/
theorem tree_number {n : JsonNumber} (readsBack : n.ReadsBack) :
    ∃ literal, tree (.number n) = .number literal ∧ literal.value? = some n ∧
      Grammar.Number literal (renderNumber n) := by
  obtain ⟨literal, value, written⟩ := JsonNumber.exists_literal readsBack
  have alone := read_number written stops_nil 0
  rw [List.append_nil] at alone
  exact ⟨literal, by rw [tree, alone], value, written⟩

theorem NumbersReadBack.left {xs ys : List JsonNumber} (readBack : NumbersReadBack (xs ++ ys)) :
    NumbersReadBack xs :=
  fun n mem => readBack n (List.mem_append_left _ mem)

theorem NumbersReadBack.right {xs ys : List JsonNumber} (readBack : NumbersReadBack (xs ++ ys)) :
    NumbersReadBack ys :=
  fun n mem => readBack n (List.mem_append_right _ mem)

/-- An entry without blanks around it, in front of the others. -/
theorem following_cons {α : Type} {Entry : α → List Char → Prop} {entry : α} {entries : List α}
    {text more : List Char} (first : Entry entry text) (others : Following Entry entries more) :
    Following Entry (entry :: entries) (',' :: (text ++ more)) :=
  .cons blanks_nil first blanks_nil others

theorem listed_cons {α : Type} {Entry : α → List Char → Prop} {entry : α} {entries : List α}
    {text more : List Char} (first : Entry entry text) (others : Following Entry entries more) :
    Listed Entry (entry :: entries) (text ++ more) :=
  .cons blanks_nil first blanks_nil others

theorem member_quote {key : String} {value : Source} {text : List Char}
    (written : Value value text) :
    Member Value (.ok (some key), value) (quote key ++ ':' :: text) :=
  .named (text_quote key) blanks_nil blanks_nil written

mutual

/-- A document is written as the grammar says. -/
theorem value_render : ∀ doc : Json, NumbersReadBack doc.numbers → Value doc.tree doc.render
  | .null, _ => by
    rw [render, tree]
    exact .null
  | .bool true, _ => by
    rw [render, tree]
    exact .yes
  | .bool false, _ => by
    rw [render, tree]
    exact .no
  | .number n, readBack => by
    obtain ⟨literal, literal_tree, -, written⟩ := tree_number (readBack n (.head _))
    rw [render, literal_tree]
    exact .number written
  | .string s, _ => by
    rw [render, tree]
    exact .string (text_quote s)
  | .array items, readBack => by
    rw [render, tree]
    exact .array (listed_renderItems items readBack)
  | .object members, readBack => by
    rw [render, tree]
    exact .object (listed_renderMembers members readBack)

theorem listed_renderItems : ∀ items : List Json, NumbersReadBack (numbersItems items) →
    Listed Value (treeItems items) (renderItems items)
  | [], _ => .empty blanks_nil
  | x :: xs, readBack => by
    rw [renderItems, treeItems]
    exact listed_cons (value_render x readBack.left) (following_renderMoreItems xs readBack.right)

theorem following_renderMoreItems : ∀ items : List Json, NumbersReadBack (numbersItems items) →
    Following Value (treeItems items) (renderMoreItems items)
  | [], _ => .nil
  | x :: xs, readBack => by
    rw [renderMoreItems, treeItems]
    exact following_cons (value_render x readBack.left)
      (following_renderMoreItems xs readBack.right)

theorem listed_renderMembers : ∀ members : List (String × Json),
    NumbersReadBack (numbersMembers members) →
      Listed (Member Value) (treeMembers members) (renderMembers members)
  | [], _ => .empty blanks_nil
  | (key, x) :: xs, readBack => by
    rw [renderMembers, treeMembers]
    exact listed_cons (member_quote (value_render x readBack.left))
      (following_renderMoreMembers xs readBack.right)

theorem following_renderMoreMembers : ∀ members : List (String × Json),
    NumbersReadBack (numbersMembers members) →
      Following (Member Value) (treeMembers members) (renderMoreMembers members)
  | [], _ => .nil
  | (key, x) :: xs, readBack => by
    rw [renderMoreMembers, treeMembers]
    exact following_cons (member_quote (value_render x readBack.left))
      (following_renderMoreMembers xs readBack.right)

end

/-! ## Documents of trees -/

mutual

/-- The tree of a document in order is read as the document. -/
theorem toJson_tree : ∀ (doc : Json) (limit : Nat),
    doc.depth ≤ limit → doc.Ordered → NumbersReadBack doc.numbers →
      doc.tree.toJson limit = .ok doc
  | .null, limit, _, _, _ => by rw [tree, toJson]
  | .bool b, limit, _, _, _ => by rw [tree, toJson]
  | .number n, limit, _, _, readBack => by
    obtain ⟨literal, literal_tree, value, -⟩ := tree_number (readBack n (.head _))
    rw [literal_tree, toJson, value]
  | .string s, limit, _, _, _ => by
    rw [tree, toJson]
    rfl
  | .array items, limit, shallow, ordered, readBack => by
    rw [depth] at shallow
    obtain ⟨limit, rfl⟩ : ∃ inner, limit = inner + 1 := ⟨limit - 1, by omega⟩
    have docs := itemsToJson_tree items limit (by omega) ordered readBack
    rw [tree, toJson, docs]
    rfl
  | .object members, limit, shallow, ordered, readBack => by
    rw [depth] at shallow
    obtain ⟨limit, rfl⟩ : ∃ inner, limit = inner + 1 := ⟨limit - 1, by omega⟩
    have docs := membersToJson_tree members limit (by omega) ordered.2 readBack
    rw [tree, toJson, docs]
    show Except.ok (ofMembers members) = .ok (.object members)
    -- Members that are in order already are put in order once more.
    rw [ofMembers, Entries.ofList_of_increasing ordered.1]

theorem itemsToJson_tree : ∀ (items : List Json) (limit : Nat),
    depthItems items ≤ limit → OrderedItems items → NumbersReadBack (numbersItems items) →
      itemsToJson limit (treeItems items) = .ok items
  | [], limit, _, _, _ => by rw [treeItems, itemsToJson]
  | x :: xs, limit, shallow, ordered, readBack => by
    rw [depthItems] at shallow
    rw [treeItems, itemsToJson, toJson_tree x limit (by omega) ordered.1 readBack.left,
      itemsToJson_tree xs limit (by omega) ordered.2 readBack.right]
    rfl

theorem membersToJson_tree : ∀ (members : List (String × Json)) (limit : Nat),
    depthMembers members ≤ limit → OrderedMembers members →
      NumbersReadBack (numbersMembers members) →
        membersToJson limit (treeMembers members) = .ok members
  | [], limit, _, _, _ => by rw [treeMembers, membersToJson]
  | (key, x) :: xs, limit, shallow, ordered, readBack => by
    rw [depthMembers] at shallow
    rw [treeMembers, membersToJson, toJson_tree x limit (by omega) ordered.1 readBack.left,
      membersToJson_tree xs limit (by omega) ordered.2 readBack.right]
    rfl

end

/-- An array is decoded as the values that its items were written from, if each of them is. -/
theorem decodeArray_tree {ε α : Type} {decode : Source → Except (DecodeError ε) α}
    {written : α → Json} {values : List α}
    (each : ∀ value ∈ values, decode (written value).tree = .ok value) :
    decodeArray decode (Json.array (values.map written)).tree = .ok values := by
  have found : (values.map fun value => (written value).tree).mapM decode = .ok values :=
    mapM_map_eq_ok each
  rw [tree, treeItems_eq_map, List.map_map, decodeArray, Function.comp_def, found]
  rfl

/-! ## Round trips -/

/-- A text that is a written document has the tree of the document, with nothing behind it. -/
theorem ofText_render {doc : Json} (readBack : NumbersReadBack doc.numbers) :
    ofText (String.ofList doc.render) = (doc.tree, some []) :=
  ofText_value (value_render doc readBack)

end Json

end RecordFilter
