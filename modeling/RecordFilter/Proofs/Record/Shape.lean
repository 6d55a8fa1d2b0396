import RecordFilter.Proofs.Outcome
import RecordFilter.Record.Shape

set_option autoImplicit false

/-!
# Types that know their fields

A type says whether it has a field, a record of it answers for the field. A type knows its fields
if it says yes exactly where its records answer (`Shape.KnowsFields`). Structs know theirs if the
types of their nested fields do, and optional types if the type inside does; from segments this goes
over to paths (`Shape.KnowsFields.hasField`), malformed ones included.

Pointers do not: their types say yes to every field, though their records answer as what they point
to (`Shape.pointer_agrees_iff`).
-/

namespace RecordFilter

open Outcome

/-- The type has the fields that its records answer for, and no others. -/
def Shape.KnowsFields (shape : Shape) : Prop :=
  ∀ (record : shape.Record) (first : String) (rest : List String),
    shape.has first rest = (shape.get? record first rest).isSome

/-- Every row answers for the fields that its type has. -/
def Fields.AreKnown (fields : Fields) : Prop :=
  ∀ (row : fields.Row) (first : String) (rest : List String),
    fields.has first rest = (fields.get? row first rest).isSome

/-! ## Fields -/

namespace Fields

theorem areKnown_nil : Fields.nil.AreKnown := by
  intro row first rest
  rfl

theorem areKnown_hidden {fields : Fields} (known : fields.AreKnown) :
    (hidden fields).AreKnown := by
  rintro ⟨value, row⟩ first rest
  exact known row first rest

theorem areKnown_plain (name : String) {fields : Fields} (known : fields.AreKnown) :
    (plain name fields).AreKnown := by
  rintro ⟨value, row⟩ first rest
  rw [has, get?, known row first rest]
  cases (decide (name = first) && rest.isEmpty) with
  | true => rfl
  | false => rfl

theorem areKnown_nested (name : String) {shape : Shape} {fields : Fields}
    (inner : shape.KnowsFields) (known : fields.AreKnown) :
    (nested name shape fields).AreKnown := by
  rintro ⟨record, row⟩ first rest
  cases rest with
  | nil =>
    rw [has, get?]
    split
    · rfl
    · exact known row first []
  | cons next more =>
    rw [has, get?]
    split
    · exact inner record next more
    · exact known row first (next :: more)

end Fields

/-! ## Types -/

namespace Shape

theorem knowsFields_struct {fields : Fields} (known : fields.AreKnown) :
    (struct fields).KnowsFields := by
  intro row first rest
  exact known row first rest

/-- An absent record answers for what its type has, a present one for what it has itself. -/
theorem knowsFields_optional {target : Shape} (known : target.KnowsFields) :
    (optional target).KnowsFields := by
  intro record first rest
  cases record with
  | none =>
    rw [has, get?]
    cases target.has first rest with
    | true => rfl
    | false => rfl
  | some record => exact known record first rest

/-! ## Paths -/

variable {shape : Shape}

theorem KnowsFields.hasField (known : shape.KnowsFields) (record : shape.Record) (path : String) :
    shape.hasField path = (shape.fieldValue record path).map Option.isSome := by
  rw [Shape.hasField, Shape.fieldValue]
  cases Path.segments path with
  | error e => rfl
  | ok segments => exact congrArg Except.ok (known record segments.1 segments.2)

theorem KnowsFields.hasField_eq_error_iff (known : shape.KnowsFields) (record : shape.Record)
    {path : String} {error : Error} :
    shape.hasField path = .error error ↔ shape.fieldValue record path = .error error := by
  rw [known.hasField record path, map_eq_error_iff]

theorem KnowsFields.hasField_eq_true_iff (known : shape.KnowsFields) (record : shape.Record)
    {path : String} :
    shape.hasField path = .ok true ↔ ∃ value, shape.fieldValue record path = .ok (some value) := by
  rw [known.hasField record path, map_eq_ok_iff]
  constructor
  · rintro ⟨answer, answered, isSome⟩
    obtain ⟨value, rfl⟩ := Option.isSome_iff_exists.1 isSome
    exact ⟨value, answered⟩
  · rintro ⟨value, answered⟩
    exact ⟨some value, answered, rfl⟩

theorem KnowsFields.hasField_eq_false_iff (known : shape.KnowsFields) (record : shape.Record)
    {path : String} :
    shape.hasField path = .ok false ↔ shape.fieldValue record path = .ok none := by
  rw [known.hasField record path, map_eq_ok_iff]
  constructor
  · rintro ⟨answer, answered, isNone⟩
    rw [Option.isSome_eq_false_iff, Option.isNone_iff_eq_none] at isNone
    rw [answered, isNone]
  · intro answered
    exact ⟨none, answered, rfl⟩

/-- An absent record answers with null for the fields of its type. -/
theorem fieldValue_absent (shape : Shape) (path : String) :
    (optional shape).fieldValue none path =
      (shape.hasField path).map fun known => if known then some .null else none := by
  unfold fieldValue hasField
  cases Path.segments path with
  | error e => rfl
  | ok segments => rfl

/-- A present record answers as it does outside the option. -/
theorem fieldValue_present (record : shape.Record) (path : String) :
    (optional shape).fieldValue (some record) path = shape.fieldValue record path := by
  rfl

/-- An absent record answers with null where a present one answers at all. -/
theorem KnowsFields.fieldValue_absent (known : shape.KnowsFields) (record : shape.Record)
    (path : String) :
    (optional shape).fieldValue none path =
      ((optional shape).fieldValue (some record) path).map (Option.map fun _ => .null) := by
  rw [Shape.fieldValue_absent, known.hasField record path, fieldValue_present]
  cases shape.fieldValue record path with
  | error e => rfl
  | ok answer =>
    cases answer with
    | none => rfl
    | some value => rfl

/-! ## Pointers -/

/-- The type of a pointer has every field that a path can name. -/
theorem hasField_pointer (shape : Shape) (path : String) :
    (pointer shape).hasField path = (shape.hasField path).map fun _ => true := by
  unfold hasField
  cases Path.segments path with
  | error e => rfl
  | ok segments => rfl

/-- An answer stays the same with yes in its place exactly if it was not a no. -/
theorem map_true_eq_self_iff {ε : Type} {answer : Except ε Bool} :
    answer.map (fun _ => true) = answer ↔ answer ≠ .ok false := by
  cases answer with
  | error e => simp [Except.map]
  | ok known => simp [Except.map]

/-- A record behind a pointer answers as the record itself. Its type says yes to every path that is
well formed, and so an absent record behind a pointer answers every such path with null; this is
what the type and its absent records answer without the pointer exactly on the paths that the type
does not say no to. -/
theorem pointer_agrees_iff (shape : Shape) (path : String) :
    (∀ record : shape.Record,
        (pointer shape).fieldValue record path = shape.fieldValue record path ∧
          (pointer shape).selfValue record = shape.selfValue record) ∧
      (pointer shape).hasField path = (shape.hasField path).map (fun _ => true) ∧
      (optional (pointer shape)).fieldValue none path =
        (shape.hasField path).map (fun _ => some .null) ∧
      ((pointer shape).hasField path = shape.hasField path ↔ shape.hasField path ≠ .ok false) ∧
      ((optional (pointer shape)).fieldValue none path = (optional shape).fieldValue none path ↔
        shape.hasField path ≠ .ok false) := by
  have absent : (optional (pointer shape)).fieldValue none path =
      (shape.hasField path).map fun _ => some .null := by
    rw [fieldValue_absent, hasField_pointer]
    cases shape.hasField path with
    | error e => rfl
    | ok known => rfl
  refine ⟨fun record => ⟨rfl, rfl⟩, hasField_pointer shape path, absent, ?types, ?absents⟩
  case types => rw [hasField_pointer, map_true_eq_self_iff]
  case absents =>
    rw [absent, fieldValue_absent]
    cases shape.hasField path with
    | error e => simp [Except.map]
    | ok known => cases known <;> simp [Except.map]

/-- A struct has no other field than its own, but the type of a pointer to it has, and an absent
record behind the pointer answers for it. -/
theorem pointer_knows_unknown :
    (struct (.plain "title" .nil)).hasField "colour" = .ok false ∧
      (pointer (struct (.plain "title" .nil))).hasField "colour" = .ok true ∧
      (optional (struct (.plain "title" .nil))).fieldValue none "colour" = .ok none ∧
      (optional (pointer (struct (.plain "title" .nil)))).fieldValue none "colour" =
        .ok (some .null) :=
  ⟨rfl, rfl, rfl, rfl⟩

end Shape

end RecordFilter
