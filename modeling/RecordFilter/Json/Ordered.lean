import RecordFilter.Json.Reader
import RecordFilter.Proofs.Outcome

set_option autoImplicit false

/-!
# Documents that are read

The document of a tree is in the order of its keys and not nested deeper than was allowed
(`facts_of_toJson`), so `Source.toOrdered` reads it as an ordered document.
-/

namespace RecordFilter

open Outcome

namespace Json

open Source

theorem depthMembers_le_iff {members : List (String × Json)} {limit : Nat} :
    depthMembers members ≤ limit ↔ ∀ member ∈ members, member.2.depth ≤ limit := by
  induction members with
  | nil => simp [depthMembers]
  | cons member members ih =>
    rw [depthMembers, Nat.max_le, ih, List.forall_mem_cons]

/-- An object is as deep and as much in order as the members it is made from. -/
theorem ofMembers_facts {members : List (String × Json)} {limit : Nat}
    (shallow : depthMembers members ≤ limit) (ordered : OrderedMembers members) :
    (ofMembers members).depth ≤ limit + 1 ∧ (ofMembers members).Ordered := by
  rw [depthMembers_le_iff] at shallow
  rw [orderedMembers_iff] at ordered
  rw [ofMembers, depth, Ordered]
  refine ⟨Nat.succ_le_succ (depthMembers_le_iff.2 ?_), Entries.increasing_ofList members,
    orderedMembers_iff.2 ?_⟩
  · exact fun member mem => shallow member (Entries.mem_ofList mem)
  · exact fun member mem => ordered member (Entries.mem_ofList mem)

mutual

/-- A document that is read is in order and not nested deeper than was allowed. -/
theorem facts_of_toJson : ∀ (tree : Source) (limit : Nat) {doc : Json},
    tree.toJson limit = .ok doc → doc.depth ≤ limit ∧ doc.Ordered
  | .null, limit, doc, found => by
    rw [toJson] at found
    cases found
    exact ⟨Nat.zero_le _, trivial⟩
  | .bool b, limit, doc, found => by
    rw [toJson] at found
    cases found
    exact ⟨Nat.zero_le _, trivial⟩
  | .number literal, limit, doc, found => by
    rw [toJson] at found
    split at found
    · cases found
      exact ⟨Nat.zero_le _, trivial⟩
    · cases found
  | .string content, limit, doc, found => by
    rw [toJson, bind_eq_ok_iff] at found
    obtain ⟨s, -, found⟩ := found
    cases found
    exact ⟨Nat.zero_le _, trivial⟩
  -- At the limit no array and no object is read.
  | .array items stop, 0, doc, found => by
    rw [toJson] at found
    cases found
  | .array items stop, limit + 1, doc, found => by
    rw [toJson, bind_eq_ok_iff] at found
    obtain ⟨docs, inner, found⟩ := found
    obtain ⟨-, -, found⟩ := bind_eq_ok_iff.1 found
    cases found
    obtain ⟨shallow, ordered⟩ := facts_of_itemsToJson items limit inner
    rw [depth]
    exact ⟨Nat.succ_le_succ shallow, ordered⟩
  | .object members stop, 0, doc, found => by
    rw [toJson] at found
    cases found
  | .object members stop, limit + 1, doc, found => by
    rw [toJson, bind_eq_ok_iff] at found
    obtain ⟨docs, inner, found⟩ := found
    obtain ⟨-, -, found⟩ := bind_eq_ok_iff.1 found
    cases found
    obtain ⟨shallow, ordered⟩ := facts_of_membersToJson members limit inner
    exact ofMembers_facts shallow ordered
  | .broken fault, limit, doc, found => by
    rw [toJson] at found
    cases found

theorem facts_of_itemsToJson : ∀ (items : List Source) (limit : Nat) {docs : List Json},
    itemsToJson limit items = .ok docs → depthItems docs ≤ limit ∧ OrderedItems docs
  | [], limit, docs, found => by
    rw [itemsToJson] at found
    cases found
    exact ⟨Nat.zero_le _, trivial⟩
  | x :: xs, limit, docs, found => by
    rw [itemsToJson, bind_eq_ok_iff] at found
    obtain ⟨doc, first, found⟩ := found
    obtain ⟨others, inner, found⟩ := bind_eq_ok_iff.1 found
    cases found
    obtain ⟨first_shallow, first_ordered⟩ := facts_of_toJson x limit first
    obtain ⟨shallow, ordered⟩ := facts_of_itemsToJson xs limit inner
    rw [depthItems]
    exact ⟨Nat.max_le.2 ⟨first_shallow, shallow⟩, first_ordered, ordered⟩

theorem facts_of_membersToJson : ∀ (members : List (MemberName × Source)) (limit : Nat)
    {docs : List (String × Json)},
    membersToJson limit members = .ok docs → depthMembers docs ≤ limit ∧ OrderedMembers docs
  | [], limit, docs, found => by
    rw [membersToJson] at found
    cases found
    exact ⟨Nat.zero_le _, trivial⟩
  | (name, x) :: xs, limit, docs, found => by
    rw [membersToJson, bind_eq_ok_iff] at found
    obtain ⟨key, -, found⟩ := found
    obtain ⟨doc, first, found⟩ := bind_eq_ok_iff.1 found
    obtain ⟨others, inner, found⟩ := bind_eq_ok_iff.1 found
    cases found
    obtain ⟨first_shallow, first_ordered⟩ := facts_of_toJson x limit first
    obtain ⟨shallow, ordered⟩ := facts_of_membersToJson xs limit inner
    rw [depthMembers]
    exact ⟨Nat.max_le.2 ⟨first_shallow, shallow⟩, first_ordered, ordered⟩

end

end Json

namespace Source

/-- The ordered document of a tree nested at most `depth` deep. -/
def toOrdered (depth : Nat) (tree : Source) : Except Breakage OrderedJson :=
  match found : tree.toJson depth with
  | .ok document => .ok ⟨document, (Json.facts_of_toJson tree depth found).2⟩
  | .error breakage => .error breakage

theorem toOrdered_eq_ok_iff {depth : Nat} {tree : Source} {doc : OrderedJson} :
    tree.toOrdered depth = .ok doc ↔ tree.toJson depth = .ok doc.document := by
  -- The proof of the order is made from the equation that the match leaves, so the match is split
  -- before anything is known of the document.
  obtain ⟨document, ordered⟩ := doc
  unfold toOrdered
  split
  case h_1 other found =>
    constructor
    · rintro ⟨⟩
      exact found
    · intro read
      cases found.symm.trans read
      rfl
  case h_2 breakage refused =>
    constructor
    · rintro ⟨⟩
    · intro read
      cases refused.symm.trans read

theorem exists_toOrdered_iff {depth : Nat} {tree : Source} :
    (∃ doc, tree.toOrdered depth = .ok doc) ↔ ∃ doc, tree.toJson depth = .ok doc := by
  constructor
  · rintro ⟨doc, read⟩
    exact ⟨_, toOrdered_eq_ok_iff.1 read⟩
  · rintro ⟨doc, read⟩
    exact ⟨⟨doc, (Json.facts_of_toJson tree depth read).2⟩, toOrdered_eq_ok_iff.2 read⟩

theorem depth_le_of_toOrdered {depth : Nat} {tree : Source} {doc : OrderedJson}
    (read : tree.toOrdered depth = .ok doc) : doc.document.depth ≤ depth :=
  (Json.facts_of_toJson tree depth (toOrdered_eq_ok_iff.1 read)).1

end Source

end RecordFilter
