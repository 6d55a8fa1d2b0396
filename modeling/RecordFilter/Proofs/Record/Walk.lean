import RecordFilter.Proofs.Record.Descent

set_option autoImplicit false

/-!
# Where paths lead

A path is cut at every dot. If no piece is empty, the pieces lead through a document, member by
member (`Json.Leads`), and the lookup answers with the value of the document that they lead to, a
null too; it answers with nothing if they lead nowhere (`Record.lookup_eq_ok_some_iff`,
`Record.lookup_eq_ok_none_iff`).

The pieces of two paths with a dot between them are those of the one and then those of the other
(`Path.pieces_dot`), so what stands behind the dot is looked up in the document that the part before
it leads to. No piece of a well-formed path is empty or has a dot in it, so members with such keys
may as well be left out of a document, at any depth (`Json.walk_addressable`).
-/

namespace RecordFilter

open Outcome

/-! ## Pieces of paths -/

namespace Path

/-- The texts between the dots of a path, the empty ones too. -/
def pieces (path : String) : List String := (path.toList.splitOn '.').map String.ofList

instance (text : String) : Decidable (IsSegment text) :=
  inferInstanceAs (Decidable (text ≠ "" ∧ '.' ∉ text.toList))

variable {path p q : String}

theorem pieces_join {first : String} {rest : List String}
    (plain : ∀ segment ∈ first :: rest, '.' ∉ segment.toList) :
    pieces (join first rest) = first :: rest := by
  have parts : splitDots (join first rest).toList = (first.toList, rest.map String.toList) := by
    rw [toList_join]
    apply splitDots_joinDots
    rw [← List.map_cons]
    exact List.forall_mem_map.2 plain
  rw [pieces, splitOn_dot, parts]
  simp [Function.comp_def]

/-- A path without an empty piece has its pieces for segments. -/
theorem segments_eq_ok_iff_pieces {first : String} {rest : List String} :
    segments path = .ok (first, rest) ↔ ¬HasEmptySegment path ∧ pieces path = first :: rest := by
  cases found : segments path with
  | error error =>
    obtain ⟨empty, -⟩ := segments_eq_error_iff.1 found
    simp [empty]
  | ok parts =>
    obtain ⟨head, tail⟩ := parts
    obtain ⟨plain, rfl⟩ := segments_eq_ok_iff.1 found
    -- A path with an empty piece would have been refused.
    have wellFormed : ¬HasEmptySegment (join head tail) := by
      intro empty
      cases found.symm.trans (segments_eq_error_iff.2 ⟨empty, rfl⟩)
    rw [pieces_join fun segment mem => (plain segment mem).2]
    simp [wellFormed]

theorem exists_segments (wellFormed : ¬HasEmptySegment path) :
    ∃ first rest, segments path = .ok (first, rest) ∧ pieces path = first :: rest := by
  cases found : segments path with
  | error error => exact absurd (segments_eq_error_iff.1 found).1 wellFormed
  | ok parts => exact ⟨parts.1, parts.2, rfl, (segments_eq_ok_iff_pieces.1 found).2⟩

/-- The pieces of a well-formed path can stand between dots. -/
theorem isSegment_of_mem_pieces (wellFormed : ¬HasEmptySegment path) :
    ∀ piece ∈ pieces path, IsSegment piece := by
  obtain ⟨first, rest, found, same⟩ := exists_segments wellFormed
  rw [same]
  exact (segments_eq_ok_iff.1 found).1

theorem toList_dot (p q : String) : (p ++ "." ++ q).toList = p.toList ++ '.' :: q.toList := by
  rw [String.toList_append, String.toList_append, List.append_assoc]
  rfl

/-- Two paths with a dot between them have the pieces of both. -/
theorem pieces_dot (p q : String) : pieces (p ++ "." ++ q) = pieces p ++ pieces q := by
  rw [pieces, toList_dot, List.splitOn_append_cons_self, List.map_append]
  rfl

theorem hasEmptySegment_dot :
    HasEmptySegment (p ++ "." ++ q) ↔ HasEmptySegment p ∨ HasEmptySegment q := by
  rw [HasEmptySegment, toList_dot, List.splitOn_append_cons_self, List.mem_append]
  rfl

end Path

/-! ## Walks -/

namespace Json

/-- The keys lead from one document to another: each is the key of a member of the object that the
keys before it lead to. Nothing leads on from a document that is no object. -/
inductive Leads : Json → List String → Json → Prop where
  | here (doc : Json) : Leads doc [] doc
  | member {members : List (String × Json)} {key : String} {keys : List String} {child found : Json}
      (held : Entries.get? key members = some child) (behind : Leads child keys found) :
      Leads (.object members) (key :: keys) found

variable {doc found : Json} {keys : List String}

theorem leads_iff : doc.Leads keys found ↔ doc.walk keys = some found := by
  constructor
  · intro leads
    induction leads with
    | here doc => rfl
    | member held behind ih => rw [walk, member?, held, Option.bind_some, ih]
  · intro reached
    induction keys generalizing doc with
    | nil =>
      cases reached
      exact .here _
    | cons key keys ih =>
      rw [walk, Option.bind_eq_some_iff] at reached
      obtain ⟨child, held, behind⟩ := reached
      cases doc with
      | object members => exact .member held (ih behind)
      | _ => cases held

theorem walk_eq_none_iff : doc.walk keys = none ↔ ∀ found, ¬doc.Leads keys found := by
  simp only [leads_iff, Option.eq_none_iff_forall_ne_some, ne_eq]

/-- Keys behind others lead on from where those lead. -/
theorem walk_append (doc : Json) (front back : List String) :
    doc.walk (front ++ back) = (doc.walk front).bind fun child => child.walk back := by
  induction front generalizing doc with
  | nil => rfl
  | cons key keys ih =>
    rw [List.cons_append, walk, walk, Option.bind_assoc]
    congr 1
    funext child
    exact ih child

/-! ## Members that no path names -/

mutual

/-- The document without the members whose keys are empty or have dots, in its objects and the
objects that these hold. Arrays are kept as they are, since no path leads into them. -/
def addressable : Json → Json
  | .object members => .object (addressableMembers members)
  | doc => doc

/-- The members of an object with keys that can stand between dots, cut down likewise. -/
def addressableMembers : List (String × Json) → List (String × Json)
  | [] => []
  | (key, child) :: members =>
    if Path.IsSegment key then (key, child.addressable) :: addressableMembers members
    else addressableMembers members

end

theorem get?_addressableMembers {key : String} (plain : Path.IsSegment key)
    (members : List (String × Json)) :
    Entries.get? key (addressableMembers members) = (Entries.get? key members).map addressable := by
  induction members with
  | nil => rfl
  | cons member members ih =>
    obtain ⟨name, child⟩ := member
    rw [addressableMembers, Entries.get?]
    by_cases same : name = key
    · subst same
      rw [if_pos plain, Entries.get?, if_pos rfl, if_pos rfl, Option.map_some]
    · -- A member with another key is passed over, and it does not matter if it has been left out.
      rw [if_neg same, ← ih]
      split
      case isTrue => rw [Entries.get?, if_neg same]
      case isFalse => rfl

theorem member?_addressable {key : String} (plain : Path.IsSegment key) (doc : Json) :
    doc.addressable.member? key = (doc.member? key).map addressable := by
  cases doc with
  | object members =>
    rw [addressable, member?, member?]
    exact get?_addressableMembers plain members
  | _ => rfl

/-- Keys that can stand between dots lead to the same document, whether or not other members are
left out, apart from these. -/
theorem walk_addressable (plain : ∀ key ∈ keys, Path.IsSegment key) (doc : Json) :
    doc.addressable.walk keys = (doc.walk keys).map addressable := by
  induction keys generalizing doc with
  | nil => rfl
  | cons key keys ih =>
    obtain ⟨first, others⟩ := List.forall_mem_cons.1 plain
    rw [walk, walk, member?_addressable first, Option.map_bind, Option.bind_map]
    congr 1
    funext child
    exact ih others child

end Json

/-! ## Lookups -/

namespace Record

variable {doc : Json} {path p q : String}

theorem lookup_eq_error_iff {error : Error} :
    lookup doc path = .error error ↔ Path.HasEmptySegment path ∧ error = .malformedPath path :=
  Shape.fieldValue_eq_error_iff .document doc

/-- A well-formed path is answered with the value of what its pieces lead to. -/
theorem lookup_of_wellFormed (wellFormed : ¬Path.HasEmptySegment path) (doc : Json) :
    lookup doc path = .ok ((doc.walk (Path.pieces path)).map Value.ofJson) := by
  obtain ⟨first, rest, found, same⟩ := Path.exists_segments wellFormed
  rw [lookup, found, same]
  rfl

theorem wellFormed_of_lookup {answer : Option Value} (answered : lookup doc path = .ok answer) :
    ¬Path.HasEmptySegment path := by
  intro empty
  cases answered.symm.trans (lookup_eq_error_iff.2 ⟨empty, rfl⟩)

theorem lookup_eq_ok_some_iff {value : Value} :
    lookup doc path = .ok (some value) ↔
      ¬Path.HasEmptySegment path ∧
        ∃ found, doc.Leads (Path.pieces path) found ∧ value = .ofJson found := by
  constructor
  · intro answered
    have wellFormed := wellFormed_of_lookup answered
    rw [lookup_of_wellFormed wellFormed, Except.ok.injEq, Option.map_eq_some_iff] at answered
    obtain ⟨found, reached, rfl⟩ := answered
    exact ⟨wellFormed, found, Json.leads_iff.2 reached, rfl⟩
  · rintro ⟨wellFormed, found, leads, rfl⟩
    rw [lookup_of_wellFormed wellFormed, Json.leads_iff.1 leads]
    rfl

theorem lookup_eq_ok_none_iff :
    lookup doc path = .ok none ↔
      ¬Path.HasEmptySegment path ∧ ∀ found, ¬doc.Leads (Path.pieces path) found := by
  rw [← Json.walk_eq_none_iff]
  constructor
  · intro answered
    have wellFormed := wellFormed_of_lookup answered
    rw [lookup_of_wellFormed wellFormed, Except.ok.injEq, Option.map_eq_none_iff] at answered
    exact ⟨wellFormed, answered⟩
  · rintro ⟨wellFormed, nowhere⟩
    rw [lookup_of_wellFormed wellFormed, nowhere]
    rfl

/-- What stands behind a dot is looked up where the part before it leads. -/
theorem lookup_dot (left : ¬Path.HasEmptySegment p) (right : ¬Path.HasEmptySegment q) (doc : Json) :
    lookup doc (p ++ "." ++ q) =
      match doc.walk (Path.pieces p) with
      | none => .ok none
      | some child => lookup child q := by
  have wellFormed : ¬Path.HasEmptySegment (p ++ "." ++ q) := by
    rw [Path.hasEmptySegment_dot]
    exact not_or.2 ⟨left, right⟩
  rw [lookup_of_wellFormed wellFormed, Path.pieces_dot, Json.walk_append]
  cases doc.walk (Path.pieces p) with
  | none => rfl
  | some child => exact (lookup_of_wellFormed right child).symm

/-- A path with an empty piece is refused under its full name, whatever the document holds. The
pieces of any other path lead through the document, and the lookup answers with the value of what
they lead to, or with nothing if they lead nowhere; going step by step, with the rest of the path at
each step, gives the same answers. What stands behind a dot is looked up where the part before it
leads, and documents that differ only in members with empty or dotted keys lead to documents that
differ only in such. -/
theorem lookup_leads (doc : Json) :
    (∀ path error, lookup doc path = .error error ↔
      Path.HasEmptySegment path ∧ error = .malformedPath path) ∧
    (∀ path value, lookup doc path = .ok (some value) ↔
      ¬Path.HasEmptySegment path ∧
        ∃ found, doc.Leads (Path.pieces path) found ∧ value = .ofJson found) ∧
    (∀ path, lookup doc path = .ok none ↔
      ¬Path.HasEmptySegment path ∧ ∀ found, ¬doc.Leads (Path.pieces path) found) ∧
    (∀ path, doc.descend path = lookup doc path) ∧
    (∀ p q, ¬Path.HasEmptySegment p → ¬Path.HasEmptySegment q →
      (∀ child, doc.Leads (Path.pieces p) child → lookup doc (p ++ "." ++ q) = lookup child q) ∧
      ((∀ child, ¬doc.Leads (Path.pieces p) child) → lookup doc (p ++ "." ++ q) = .ok none)) ∧
    ∀ other : Json, other.addressable = doc.addressable → ∀ path, ¬Path.HasEmptySegment path →
      ∀ found, doc.Leads (Path.pieces path) found →
        ∃ same, other.Leads (Path.pieces path) same ∧ same.addressable = found.addressable := by
  refine ⟨?refused, ?found, ?missing, ?steps, ?composed, ?unread⟩
  case refused => exact fun path error => lookup_eq_error_iff
  case found => exact fun path value => lookup_eq_ok_some_iff
  case missing => exact fun path => lookup_eq_ok_none_iff
  case steps => exact doc.descend_eq_lookup
  case composed =>
    intro p q left right
    constructor
    · intro child leads
      rw [lookup_dot left right, Json.leads_iff.1 leads]
    · intro nowhere
      rw [lookup_dot left right, Json.walk_eq_none_iff.2 nowhere]
  case unread =>
    intro other alike path wellFormed found leads
    have plain := Path.isSegment_of_mem_pieces wellFormed
    -- Both documents are walked through by way of what is left of them, which is the same.
    have walks : (other.walk (Path.pieces path)).map Json.addressable = some found.addressable := by
      rw [← Json.walk_addressable plain, alike, Json.walk_addressable plain, Json.leads_iff.1 leads]
      rfl
    obtain ⟨same, reached, parts⟩ := Option.map_eq_some_iff.1 walks
    exact ⟨same, Json.leads_iff.2 reached, parts⟩

/-! ## Members that hide behind dots -/

/-- A document in which two members cannot be named: one has no key, the key of the other has a
dot. -/
def letter : Json :=
  .object [("", .bool true),
    ("sender", .object [("name", .null), ("name.first", .string "Ada")])]

/-- The name is found, though it is null; the first name is not behind it, and the member with the
dotted key is not found either. The document without such members has the same paths. -/
theorem lookup_leads_letter :
    ¬Path.HasEmptySegment "sender" ∧ ¬Path.HasEmptySegment "name" ∧
      lookup letter ("sender" ++ "." ++ "name") = .ok (some .null) ∧
      lookup letter "sender.name.first" = .ok none ∧
      ∃ same,
        letter.addressable.Leads (Path.pieces "sender.name") same ∧ same.addressable = .null := by
  have sender : ¬Path.HasEmptySegment "sender" := by
    rw [Path.HasEmptySegment]
    decide
  have name : ¬Path.HasEmptySegment "name" := by
    rw [Path.HasEmptySegment]
    decide
  have both : ¬Path.HasEmptySegment "sender.name" := by
    rw [Path.HasEmptySegment]
    decide
  obtain ⟨-, -, -, -, composed, unread⟩ := lookup_leads letter
  refine ⟨sender, name, ?found, rfl, ?unread⟩
  case found => exact (composed "sender" "name" sender name).1 _ (.member rfl (.here _))
  case unread =>
    exact unread letter.addressable rfl "sender.name" both .null
      (.member rfl (.member rfl (.here _)))

end Record

end RecordFilter
