import RecordFilter.Proofs.Record.Shape
import RecordFilter.Proofs.Schema.Tables

set_option autoImplicit false

/-!
# Records asked step by step

A path can be followed without ever having all of its segments: who is asked checks the path that it
is given, cuts the first segment off and hands the path behind it on to the field with that name. A
document does so with its members (`Json.descend`), a struct with its fields, a pointer hands on the
path as it is, and an absent record asks its type, which goes the same way (`Shape.descend`,
`Shape.descendType`).

Each step checks its path anew, and would name the part it was given in its error. All these checks
but the first are in vain: the path behind a segment of a well-formed path is well formed. So the
steps answer as records do that are asked once, with all segments (`Shape.descend_eq`,
`Shape.descendType_eq`), and a path is refused exactly if one of its segments is empty, under its
full name, whatever the record holds (`Shape.descend_malformed_iff`).
-/

namespace RecordFilter

open Outcome

namespace Path

theorem split_eq_ok_some_iff {path first rest : String} :
    split path = .ok (first, some rest) ↔
      ∃ next more, segments path = .ok (first, next :: more) ∧ rest = join next more := by
  rw [Schema.split_eq, map_eq_ok_iff]
  constructor
  · rintro ⟨⟨head, segments⟩, found, same⟩
    cases segments with
    | nil => cases same
    | cons next more =>
      cases same
      exact ⟨next, more, found, rfl⟩
  · rintro ⟨next, more, found, rfl⟩
    exact ⟨(first, next :: more), found, rfl⟩

theorem length_lt_of_split {path first rest : String} (cut : split path = .ok (first, some rest)) :
    rest.length < path.length := by
  obtain ⟨next, more, found, rfl⟩ := split_eq_ok_some_iff.1 cut
  rw [(segments_eq_ok_iff.1 found).2]
  exact length_join_cons first next more

end Path

/-! ## Steps -/

/-- The value that a path leads to in a document, one member after the other. -/
def Json.descend (doc : Json) (path : String) : Except Error (Option Value) :=
  match _cut : Path.split path with
  | .error error => .error error
  | .ok (first, none) => .ok ((doc.member? first).map Value.ofJson)
  | .ok (first, some rest) =>
    match doc.member? first with
    | none => .ok none
    | some child => child.descend rest
termination_by path.length
decreasing_by exact Path.length_lt_of_split _cut

mutual

/-- Whether the type has the field that a path names. Documents and pointers only check the path. -/
def Shape.descendType : Shape → String → Except Error Bool
  | .document, path => (Path.split path).map fun _ => true
  | .struct fields, path => do
    let (first, rest) ← Path.split path
    fields.descendType first rest
  | .pointer _, path => (Path.split path).map fun _ => true
  | .optional target, path => target.descendType path

/-- Whether one of the fields has the name, or for a nested field the path behind it. -/
def Fields.descendType : Fields → String → Option String → Except Error Bool
  | .nil, _, _ => .ok false
  | .plain name fields, first, rest =>
    if name = first && rest.isNone then .ok true else fields.descendType first rest
  | .nested name shape fields, first, rest =>
    if name = first then
      match rest with
      | none => .ok true
      | some rest => shape.descendType rest
    else fields.descendType first rest
  | .hidden fields, first, rest => fields.descendType first rest

end

mutual

/-- The value of the field that a path names. An absent record asks its type. -/
def Shape.descend :
    (shape : Shape) → shape.Record → String → Except Error (Option Value)
  | .document, doc, path => Json.descend doc path
  | .struct fields, row, path => do
    let (first, rest) ← Path.split path
    fields.descend row first rest
  | .pointer target, record, path => target.descend record path
  | .optional target, none, path =>
    (target.descendType path).map fun known => if known then some .null else none
  | .optional target, some record, path => target.descend record path

/-- The value of the first field with the name, or for a nested field of the path behind it. -/
def Fields.descend : (fields : Fields) → fields.Row → String → Option String →
    Except Error (Option Value)
  | .nil, _, _, _ => .ok none
  | .plain name fields, (value, row), first, rest =>
    if name = first && rest.isNone then .ok (some value) else fields.descend row first rest
  | .nested name shape fields, (record, row), first, rest =>
    if name = first then
      match rest with
      | none => .ok (some (shape.selfValue record))
      | some rest => shape.descend record rest
    else fields.descend row first rest
  | .hidden fields, (_, row), first, rest => fields.descend row first rest

end

/-! ## Documents -/

namespace Json

theorem descend_of_error {path : String} {error : Error} (doc : Json)
    (cut : Path.split path = .error error) : doc.descend path = .error error := by
  rw [descend]
  split <;> simp_all

theorem descend_last {path first : String} (doc : Json)
    (cut : Path.split path = .ok (first, none)) :
    doc.descend path = .ok ((doc.member? first).map Value.ofJson) := by
  rw [descend]
  split <;> simp_all

theorem descend_step {path first rest : String} (doc : Json)
    (cut : Path.split path = .ok (first, some rest)) :
    doc.descend path = match doc.member? first with
      | none => .ok none
      | some child => child.descend rest := by
  rw [descend]
  split <;> simp_all

theorem descend_of_segments {path first : String} {rest : List String} (doc : Json)
    (found : Path.segments path = .ok (first, rest)) :
    doc.descend path = .ok ((doc.walk (first :: rest)).map Value.ofJson) := by
  have cut := Schema.split_eq path
  rw [found] at cut
  induction rest generalizing doc path first with
  | nil =>
    rw [descend_last doc cut, walk]
    cases doc.member? first with
    | none => rfl
    | some child => rfl
  | cons next more ih =>
    rw [descend_step doc cut, walk]
    have behind := Path.segments_join_of_segments found
    cases doc.member? first with
    | none => rfl
    | some child =>
      have cut_behind := Schema.split_eq (Path.join next more)
      rw [behind] at cut_behind
      exact ih child behind cut_behind

/-- Following a path member by member leads where following its segments does. -/
theorem descend_eq_lookup (doc : Json) (path : String) :
    doc.descend path = Record.lookup doc path := by
  rw [Record.lookup]
  cases found : Path.segments path with
  | error error =>
    have cut := Schema.split_eq path
    rw [found] at cut
    exact descend_of_error doc cut
  | ok segments => exact descend_of_segments doc found

end Json

/-! ## Types -/

mutual

/-- A type that is asked step by step answers as one that is asked once. -/
theorem Shape.descendType_eq : ∀ (shape : Shape) (path : String),
    shape.descendType path = shape.hasField path
  | .document, path => by
    rw [Shape.descendType, Shape.hasField, Schema.split_eq]
    cases Path.segments path with
    | error error => rfl
    | ok segments => rfl
  | .struct fields, path => by
    rw [Shape.descendType, Shape.hasField, Schema.split_eq]
    cases found : Path.segments path with
    | error error => rfl
    | ok segments => exact Fields.descendType_eq fields found
  | .pointer target, path => by
    rw [Shape.descendType, Shape.hasField, Schema.split_eq]
    cases Path.segments path with
    | error error => rfl
    | ok segments => rfl
  | .optional target, path => by
    rw [Shape.descendType]
    exact Shape.descendType_eq target path

theorem Fields.descendType_eq : ∀ (fields : Fields) {path first : String} {rest : List String},
    Path.segments path = .ok (first, rest) →
      fields.descendType first (Schema.pathOf rest) = .ok (fields.has first rest)
  | .nil, _, _, _, _ => rfl
  | .plain name fields, _, first, rest, found => by
    rw [Fields.descendType, Fields.has, Fields.descendType_eq fields found]
    cases rest with
    | nil => cases decide (name = first) <;> rfl
    | cons next more => cases decide (name = first) <;> rfl
  | .nested name shape fields, _, first, [], found => by
    have others := Fields.descendType_eq fields found
    rw [Schema.pathOf] at others ⊢
    rw [Fields.descendType, Fields.has, others]
    exact (apply_ite Except.ok _ _ _).symm
  | .nested name shape fields, _, first, next :: more, found => by
    have others := Fields.descendType_eq fields found
    have inner := Shape.descendType_eq shape (Path.join next more)
    rw [Schema.hasField_join shape (Path.segments_join_of_segments found)] at inner
    rw [Schema.pathOf] at others ⊢
    rw [Fields.descendType, Fields.has, others, inner]
    exact (apply_ite Except.ok _ _ _).symm
  | .hidden fields, _, first, rest, found => by
    rw [Fields.descendType, Fields.has]
    exact Fields.descendType_eq fields found

end

/-! ## Records -/

mutual

/-- A record that is asked step by step answers as one that is asked once. -/
theorem Shape.descend_eq : ∀ (shape : Shape) (record : shape.Record) (path : String),
    shape.descend record path = shape.fieldValue record path
  | .document, doc, path => Json.descend_eq_lookup doc path
  | .struct fields, row, path => by
    rw [Shape.descend, Shape.fieldValue, Schema.split_eq]
    cases found : Path.segments path with
    | error error => rfl
    | ok segments => exact Fields.descend_eq fields row found
  | .pointer target, record, path => by
    rw [Shape.descend]
    exact Shape.descend_eq target record path
  | .optional target, none, path => by
    rw [Shape.descend, Shape.descendType_eq]
    exact (Shape.fieldValue_absent target path).symm
  | .optional target, some record, path => by
    rw [Shape.descend]
    exact Shape.descend_eq target record path

theorem Fields.descend_eq : ∀ (fields : Fields) (row : fields.Row) {path first : String}
    {rest : List String}, Path.segments path = .ok (first, rest) →
      fields.descend row first (Schema.pathOf rest) = .ok (fields.get? row first rest)
  | .nil, _, _, _, _, _ => rfl
  | .plain name fields, (value, row), _, first, rest, found => by
    rw [Fields.descend, Fields.get?, Fields.descend_eq fields row found]
    cases rest with
    | nil => cases decide (name = first) <;> rfl
    | cons next more => cases decide (name = first) <;> rfl
  | .nested name shape fields, (record, row), _, first, [], found => by
    have others := Fields.descend_eq fields row found
    rw [Schema.pathOf] at others ⊢
    rw [Fields.descend, Fields.get?, others]
    exact (apply_ite Except.ok _ _ _).symm
  | .nested name shape fields, (record, row), _, first, next :: more, found => by
    have others := Fields.descend_eq fields row found
    have inner := Shape.descend_eq shape record (Path.join next more)
    rw [Schema.fieldValue_join shape record (Path.segments_join_of_segments found)] at inner
    rw [Schema.pathOf] at others ⊢
    rw [Fields.descend, Fields.get?, others, inner]
    exact (apply_ite Except.ok _ _ _).symm
  | .hidden fields, (_, row), _, first, rest, found => by
    rw [Fields.descend, Fields.get?]
    exact Fields.descend_eq fields row found

end

/-! ## Refused paths -/

namespace Shape

variable (shape : Shape) {path : String}

theorem hasField_eq_error_iff {error : Error} :
    shape.hasField path = .error error ↔
      Path.HasEmptySegment path ∧ error = .malformedPath path := by
  rw [← Path.segments_eq_error_iff]
  exact map_eq_error_iff

theorem fieldValue_eq_error_iff (record : shape.Record) {error : Error} :
    shape.fieldValue record path = .error error ↔
      Path.HasEmptySegment path ∧ error = .malformedPath path := by
  rw [← Path.segments_eq_error_iff]
  exact map_eq_error_iff

/-- Step by step, a record refuses a path exactly if one of its segments is empty, and so does its
type; the error names the whole path, and every other path is answered. The answers are those of
records and types that are asked once. -/
theorem descend_malformed_iff (record : shape.Record) (path : String) :
    (∀ error, shape.descend record path = .error error ↔
        Path.HasEmptySegment path ∧ error = .malformedPath path) ∧
      (∀ error, shape.descendType path = .error error ↔
        Path.HasEmptySegment path ∧ error = .malformedPath path) ∧
      ((∃ answer, shape.descend record path = .ok answer) ↔ ¬Path.HasEmptySegment path) ∧
      ((∃ known, shape.descendType path = .ok known) ↔ ¬Path.HasEmptySegment path) ∧
      shape.fieldValue record path = shape.descend record path ∧
      shape.hasField path = shape.descendType path := by
  rw [descend_eq, descendType_eq]
  have values (error : Error) : shape.fieldValue record path = .error error ↔ _ :=
    shape.fieldValue_eq_error_iff record
  have types (error : Error) : shape.hasField path = .error error ↔ _ :=
    shape.hasField_eq_error_iff
  exact
    ⟨values, types, exists_ok_iff_of_error_iff values, exists_ok_iff_of_error_iff types, rfl, rfl⟩

end Shape

end RecordFilter
