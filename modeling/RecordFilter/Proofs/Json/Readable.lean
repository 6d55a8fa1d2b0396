import RecordFilter.Json.Decoding
import RecordFilter.Json.Ordered
import RecordFilter.Proofs.Outcome

set_option autoImplicit false

/-!
# Trees that are read

Which trees can be read as documents (`Source.Readable`), one equivalence for each kind of tree. How
deep they may be nested does not change the document (`toJson_mono`), and whatever can be read can
be skipped (`skip_of_readable`).
-/

namespace RecordFilter.Source

open Outcome

/-- The tree can be read as a document by one who allows `depth` arrays and objects. -/
def Readable (depth : Nat) (tree : Source) : Prop := ∃ doc, tree.toJson depth = .ok doc

instance decidableReadable (depth : Nat) (tree : Source) : Decidable (tree.Readable depth) :=
  match read : tree.toJson depth with
  | .ok doc => isTrue ⟨doc, read⟩
  | .error breakage => isFalse fun ⟨doc, same⟩ => by
    rw [read] at same
    cases same

/-- The tree stands for the document, whatever nesting is allowed. -/
def Denotes (tree : Source) (doc : OrderedJson) : Prop := ∃ depth, tree.toOrdered depth = .ok doc

/-! ## Kinds of trees -/

theorem readStop_eq_ok_iff {stop : Option Fault} {done : Unit} :
    readStop stop = .ok done ↔ stop = none := by
  cases stop with
  | none => exact ⟨fun _ => rfl, fun _ => rfl⟩
  | some fault => constructor <;> rintro ⟨⟩

theorem textOf_eq_ok_iff {content : Option String} {s : String} :
    textOf content = .ok s ↔ content = some s := by
  cases content with
  | none => constructor <;> rintro ⟨⟩
  | some t =>
    constructor
    · rintro ⟨⟩
      rfl
    · rintro ⟨⟩
      rfl

theorem nameOf_eq_ok_iff {name : MemberName} {key : String} :
    nameOf name = .ok key ↔ name = .ok (some key) := by
  cases name with
  | error fault => constructor <;> rintro ⟨⟩
  | ok content =>
    rw [nameOf, textOf_eq_ok_iff]
    constructor
    · rintro rfl
      rfl
    · rintro ⟨⟩
      rfl

/-- The document of one member. -/
def memberToJson (depth : Nat) (member : MemberName × Source) :
    Except Breakage (String × Json) := do
  let key ← nameOf member.1
  let doc ← member.2.toJson depth
  return (key, doc)

theorem memberToJson_eq_ok_iff {depth : Nat} {member : MemberName × Source} {key : String}
    {doc : Json} :
    memberToJson depth member = .ok (key, doc) ↔
      member.1 = .ok (some key) ∧ member.2.toJson depth = .ok doc := by
  simp only [memberToJson, bind_eq_ok_iff, pure_eq_ok_iff, nameOf_eq_ok_iff]
  constructor
  · rintro ⟨key', named, doc', read, same⟩
    cases same
    exact ⟨named, read⟩
  · rintro ⟨named, read⟩
    exact ⟨key, named, doc, read, rfl⟩

theorem itemsToJson_eq_mapM (depth : Nat) (items : List Source) :
    itemsToJson depth items = items.mapM (toJson depth) := by
  induction items with
  | nil => rw [itemsToJson]; rfl
  | cons item items ih => rw [itemsToJson, ih, List.mapM_cons]

theorem membersToJson_eq_mapM (depth : Nat) (members : List (MemberName × Source)) :
    membersToJson depth members = members.mapM (memberToJson depth) := by
  induction members with
  | nil => rw [membersToJson]; rfl
  | cons member members ih =>
    obtain ⟨name, value⟩ := member
    rw [membersToJson, ih, List.mapM_cons, memberToJson]
    cases nameOf name with
    | error breakage => rfl
    | ok key =>
      cases value.toJson depth with
      | error breakage => rfl
      | ok doc => rfl

theorem toJson_array_eq_ok_iff {depth : Nat} {items : List Source} {stop : Option Fault}
    {doc : Json} :
    toJson depth (.array items stop) = .ok doc ↔
      stop = none ∧ ∃ inner docs, depth = inner + 1 ∧ items.mapM (toJson inner) = .ok docs ∧
        doc = .array docs := by
  cases depth with
  | zero =>
    rw [toJson]
    constructor
    · rintro ⟨⟩
    · rintro ⟨-, inner, docs, ⟨⟩, -⟩
  | succ depth =>
    simp only [toJson, bind_eq_ok_iff, pure_eq_ok_iff, readStop_eq_ok_iff, itemsToJson_eq_mapM]
    constructor
    · rintro ⟨docs, read, _, closed, rfl⟩
      exact ⟨closed, depth, docs, rfl, read, rfl⟩
    · rintro ⟨closed, inner, docs, same, read, rfl⟩
      cases same
      exact ⟨docs, read, (), closed, rfl⟩

theorem toJson_object_eq_ok_iff {depth : Nat} {members : List (MemberName × Source)}
    {stop : Option Fault} {doc : Json} :
    toJson depth (.object members stop) = .ok doc ↔
      stop = none ∧ ∃ inner docs, depth = inner + 1 ∧
        members.mapM (memberToJson inner) = .ok docs ∧ doc = .ofMembers docs := by
  cases depth with
  | zero =>
    rw [toJson]
    constructor
    · rintro ⟨⟩
    · rintro ⟨-, inner, docs, ⟨⟩, -⟩
  | succ depth =>
    simp only [toJson, bind_eq_ok_iff, pure_eq_ok_iff, readStop_eq_ok_iff, membersToJson_eq_mapM]
    constructor
    · rintro ⟨docs, read, _, closed, rfl⟩
      exact ⟨closed, depth, docs, rfl, read, rfl⟩
    · rintro ⟨closed, inner, docs, same, read, rfl⟩
      cases same
      exact ⟨docs, read, (), closed, rfl⟩

theorem readable_number_iff {depth : Nat} {literal : NumberLiteral} :
    Readable depth (.number literal) ↔ literal.value? ≠ none := by
  rw [Readable, toJson]
  cases literal.value? with
  | none =>
    constructor
    · rintro ⟨doc, ⟨⟩⟩
    · exact fun some => absurd rfl some
  | some n => exact ⟨fun _ => Option.some_ne_none n, fun _ => ⟨_, rfl⟩⟩

theorem readable_string_iff {depth : Nat} {content : Option String} :
    Readable depth (.string content) ↔ ∃ s, content = some s := by
  simp only [Readable, toJson, bind_eq_ok_iff, textOf_eq_ok_iff]
  constructor
  · rintro ⟨doc, s, same, -⟩
    exact ⟨s, same⟩
  · rintro ⟨s, same⟩
    exact ⟨_, s, same, rfl⟩

theorem readable_array_iff {depth : Nat} {items : List Source} {stop : Option Fault} :
    Readable depth (.array items stop) ↔
      stop = none ∧ ∃ inner, depth = inner + 1 ∧ ∀ item ∈ items, Readable inner item := by
  simp only [Readable, toJson_array_eq_ok_iff, ← exists_mapM_eq_ok_iff]
  constructor
  · rintro ⟨doc, closed, inner, docs, deep, read, -⟩
    exact ⟨closed, inner, deep, docs, read⟩
  · rintro ⟨closed, inner, deep, docs, read⟩
    exact ⟨_, closed, inner, docs, deep, read, rfl⟩

theorem readable_object_iff {depth : Nat} {members : List (MemberName × Source)}
    {stop : Option Fault} :
    Readable depth (.object members stop) ↔
      stop = none ∧ ∃ inner, depth = inner + 1 ∧ ∀ member ∈ members,
        (∃ key, member.1 = .ok (some key)) ∧ Readable inner member.2 := by
  have one (inner : Nat) (member : MemberName × Source) :
      (∃ entry, memberToJson inner member = .ok entry) ↔
        (∃ key, member.1 = .ok (some key)) ∧ Readable inner member.2 := by
    simp only [Prod.exists, memberToJson_eq_ok_iff, Readable, exists_and_left, exists_and_right]
  simp only [← one, ← exists_mapM_eq_ok_iff]
  simp only [Readable, toJson_object_eq_ok_iff]
  constructor
  · rintro ⟨doc, closed, inner, docs, deep, read, -⟩
    exact ⟨closed, inner, deep, docs, read⟩
  · rintro ⟨closed, inner, deep, docs, read⟩
    exact ⟨_, closed, inner, docs, deep, read, rfl⟩

theorem not_readable_broken {depth : Nat} {fault : Fault} : ¬Readable depth (.broken fault) := by
  rintro ⟨doc, read⟩
  rw [toJson] at read
  cases read

/-! ## Nesting -/

mutual

/-- One who allows more nesting reads the same document. -/
theorem toJson_mono {less more : Nat} (le : less ≤ more) :
    ∀ (tree : Source) {doc : Json}, tree.toJson less = .ok doc → tree.toJson more = .ok doc
  | .null, _, read => by rw [toJson] at read ⊢; exact read
  | .bool _, _, read => by rw [toJson] at read ⊢; exact read
  | .number _, _, read => by rw [toJson] at read ⊢; exact read
  | .string _, _, read => by rw [toJson] at read ⊢; exact read
  | .array items stop, doc, read => by
    obtain ⟨closed, inner, docs, rfl, each, rfl⟩ := toJson_array_eq_ok_iff.1 read
    obtain ⟨outer, rfl⟩ : ∃ outer, more = outer + 1 := ⟨more - 1, by omega⟩
    have same := itemsToJson_mono (Nat.le_of_succ_le_succ le) items each
    exact toJson_array_eq_ok_iff.2 ⟨closed, outer, docs, rfl, same, rfl⟩
  | .object members stop, doc, read => by
    obtain ⟨closed, inner, docs, rfl, each, rfl⟩ := toJson_object_eq_ok_iff.1 read
    obtain ⟨outer, rfl⟩ : ∃ outer, more = outer + 1 := ⟨more - 1, by omega⟩
    have same := membersToJson_mono (Nat.le_of_succ_le_succ le) members each
    exact toJson_object_eq_ok_iff.2 ⟨closed, outer, docs, rfl, same, rfl⟩
  | .broken _, _, read => by rw [toJson] at read ⊢; exact read

theorem itemsToJson_mono {less more : Nat} (le : less ≤ more) :
    ∀ (items : List Source) {docs : List Json}, items.mapM (toJson less) = .ok docs →
      items.mapM (toJson more) = .ok docs
  | [], _, read => read
  | item :: items, docs, read => by
    rw [List.mapM_cons, bind_eq_ok_iff] at read
    obtain ⟨doc, first, read⟩ := read
    obtain ⟨others, rest, read⟩ := bind_eq_ok_iff.1 read
    rw [List.mapM_cons, toJson_mono le item first, itemsToJson_mono le items rest]
    exact read

theorem membersToJson_mono {less more : Nat} (le : less ≤ more) :
    ∀ (members : List (MemberName × Source)) {docs : List (String × Json)},
      members.mapM (memberToJson less) = .ok docs → members.mapM (memberToJson more) = .ok docs
  | [], _, read => read
  | (name, value) :: members, docs, read => by
    rw [List.mapM_cons, bind_eq_ok_iff] at read
    obtain ⟨⟨key, doc⟩, first, read⟩ := read
    obtain ⟨others, rest, read⟩ := bind_eq_ok_iff.1 read
    obtain ⟨named, value_read⟩ := memberToJson_eq_ok_iff.1 first
    have first := memberToJson_eq_ok_iff.2 ⟨named, toJson_mono le value value_read⟩
    rw [List.mapM_cons, first, membersToJson_mono le members rest]
    exact read

end

theorem toOrdered_mono {less more : Nat} (le : less ≤ more) {tree : Source} {doc : OrderedJson}
    (read : tree.toOrdered less = .ok doc) : tree.toOrdered more = .ok doc :=
  toOrdered_eq_ok_iff.2 (toJson_mono le tree (toOrdered_eq_ok_iff.1 read))

/-- A tree stands for one document only. -/
theorem Denotes.unique {tree : Source} {doc other : OrderedJson} (denotes : tree.Denotes doc)
    (denotes_other : tree.Denotes other) : doc = other := by
  obtain ⟨depth, read⟩ := denotes
  obtain ⟨depth', read_other⟩ := denotes_other
  have larger := toOrdered_mono (Nat.le_max_left depth depth') read
  have larger_other := toOrdered_mono (Nat.le_max_right depth depth') read_other
  cases larger.symm.trans larger_other
  rfl

/-- What a readable tree stands for is what is read. -/
theorem denotes_iff_of_readable {depth : Nat} {tree : Source} (readable : tree.Readable depth)
    {doc : OrderedJson} : tree.Denotes doc ↔ tree.toOrdered depth = .ok doc := by
  constructor
  · intro denotes
    obtain ⟨other, read⟩ := exists_toOrdered_iff.2 readable
    obtain rfl := denotes.unique ⟨depth, read⟩
    exact read
  · exact fun read => ⟨depth, read⟩

/-! ## Skipping -/

mutual

/-- What can be read can be skipped. -/
theorem skip_of_readable : ∀ (tree : Source) {depth : Nat}, tree.Readable depth → tree.skip = .ok ()
  | .null, _, _ | .bool _, _, _ | .number _, _, _ | .string _, _, _ => rfl
  | .array items stop, depth, readable => by
    obtain ⟨rfl, inner, -, each⟩ := readable_array_iff.1 readable
    rw [skip, skipItems_of_readable items each]
    rfl
  | .object members stop, depth, readable => by
    obtain ⟨rfl, inner, -, each⟩ := readable_object_iff.1 readable
    rw [skip, skipMembers_of_readable members each]
    rfl
  | .broken _, _, readable => absurd readable not_readable_broken

theorem skipItems_of_readable : ∀ (items : List Source) {depth : Nat},
    (∀ item ∈ items, Readable depth item) → skipItems items = .ok ()
  | [], _, _ => by rw [skipItems]
  | item :: items, depth, each => by
    obtain ⟨first, others⟩ := List.forall_mem_cons.1 each
    rw [skipItems, skip_of_readable item first, skipItems_of_readable items others]
    rfl

theorem skipMembers_of_readable : ∀ (members : List (MemberName × Source)) {depth : Nat},
    (∀ member ∈ members, (∃ key, member.1 = .ok (some key)) ∧ Readable depth member.2) →
      skipMembers members = .ok ()
  | [], _, _ => by rw [skipMembers]
  | (name, value) :: members, depth, each => by
    obtain ⟨⟨⟨key, rfl⟩, first⟩, others⟩ := List.forall_mem_cons.1 each
    rw [skipMembers, skip_of_readable value first, skipMembers_of_readable members others]
    rfl

end

end RecordFilter.Source
