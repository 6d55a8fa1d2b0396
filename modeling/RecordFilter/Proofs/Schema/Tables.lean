import RecordFilter.Proofs.Record.Path
import RecordFilter.Schema.Expansion

set_option autoImplicit false

/-!
# Records through the tables of their type

A declared type answers from two tables: the first line that fits a path says what is asked, the
type of a field or the field itself (`Arm.known`, `Arm.value`). Its shape answers the same, path by
path (`hasField_eq_known`, `fieldValue_eq_value`).
-/

namespace RecordFilter

open Outcome

/-! ## What records hold -/

/-- What a field of a record offers to the table of values: its content, or the answers of the
record in it. -/
inductive Held where
  | content (value : Value)
  | record (fieldValue : String → Except Error (Option Value)) (selfValue : Value)

/-- What the fields of a record offer, in their order. -/
def Fields.held : (fields : Fields) → fields.Row → List Held
  | .nil, _ => []
  | .plain _ fields, (value, row) => .content value :: fields.held row
  | .nested _ shape fields, (record, row) =>
    .record (shape.fieldValue record) (shape.selfValue record) :: fields.held row
  | .hidden fields, (value, row) => .content value :: fields.held row

namespace Schema

/-! ## Reading tables -/

/-- What a line of the table of known fields answers, where types are asked by their text and `rest`
stands behind the first segment of the path. -/
def Arm.known (typeHas : String → String → Except Error Bool) (arm : Arm)
    (rest : Option String) : Except Error Bool :=
  match arm.answer, rest with
  | .typeHasField, some rest => typeHas arm.asked rest
  | _, _ => .ok true

/-- What a line of the table of values answers, where fields are asked by their declared name. -/
def Arm.value (held : String → Held) (arm : Arm) (rest : Option String) :
    Except Error (Option Value) :=
  match arm.answer, held arm.asked, rest with
  | .fieldValue, .record ask _, some rest => ask rest
  | .selfValue, .record _ self, _ => .ok (some self)
  | .content, .content value, _ => .ok (some value)
  | _, _, _ => .ok none

section Reply

variable {β : Type} (line : Arm → Option String → Except Error β) (otherwise : β)

/-- What a table answers for a path with the given first segment: what the first line that fits
does, or `otherwise`. -/
def reply (head : String) (rest : Option String) : List Arm → Except Error β
  | [] => .ok otherwise
  | arm :: table =>
    if arm.name = head ∧ arm.goesOn = rest.isSome then line arm rest
    else reply head rest table

/-- What a table answers for a path. -/
def answer (table : List Arm) (path : String) : Except Error β := do
  let (head, rest) ← Path.split path
  reply line otherwise head rest table

end Reply

/-- The path that the segments behind the first one make, if there are some. -/
def pathOf : List String → Option String
  | [] => none
  | next :: more => some (Path.join next more)

theorem split_eq (path : String) :
    Path.split path = (Path.segments path).map fun (first, rest) => (first, pathOf rest) := by
  rw [Path.split]
  cases Path.segments path with
  | error e => rfl
  | ok segments =>
    obtain ⟨first, rest⟩ := segments
    cases rest with
    | nil => rfl
    | cons next more => rfl

theorem hasField_join (shape : Shape) {next : String} {more : List String}
    (found : Path.segments (Path.join next more) = .ok (next, more)) :
    shape.hasField (Path.join next more) = .ok (shape.has next more) := by
  rw [Shape.hasField, found]
  rfl

theorem fieldValue_join (shape : Shape) (record : shape.Record) {next : String}
    {more : List String} (found : Path.segments (Path.join next more) = .ok (next, more)) :
    shape.fieldValue record (Path.join next more) = .ok (shape.get? record next more) := by
  rw [Shape.fieldValue, found]
  rfl

variable {shapeOf : String → Shape} {first : String} {rest : List String} {table : List Arm}

/-! ## The table of known fields -/

section Known

variable {typeHas : String → String → Except Error Bool}

/-- The lines of a plain field fit its name alone. -/
theorem reply_knownArms_plain {e : ExposedField} (plain : ¬e.nested = true) :
    reply (Arm.known typeHas) false first (pathOf rest) (e.knownArms ++ table) =
      if e.name = first && rest.isEmpty then .ok true
      else reply (Arm.known typeHas) false first (pathOf rest) table := by
  rw [ExposedField.knownArms, if_neg plain]
  cases rest with
  | nil => simp [reply, Arm.known, pathOf]
  | cons next more => simp [reply, pathOf]

/-- The lines of a nested field fit its name, and ask its type for what stands behind. -/
theorem reply_knownArms_nested {e : ExposedField} (nested : e.nested = true) :
    reply (Arm.known typeHas) false first (pathOf rest) (e.knownArms ++ table) =
      if e.name = first then
        match rest with
        | [] => .ok true
        | next :: more =>
          typeHas (String.ofList (withoutBlanks e.type.toList)) (Path.join next more)
      else reply (Arm.known typeHas) false first (pathOf rest) table := by
  rw [ExposedField.knownArms, if_pos nested]
  by_cases here : e.name = first
  · cases rest with
    | nil => simp [reply, Arm.known, pathOf, here]
    | cons next more => simp [reply, Arm.known, pathOf, here]
  · simp [reply, here]

/-- The lines of all fields answer as the shape does, where the types of nested fields do. -/
theorem reply_knownArms {slots : List (Option ExposedField)}
    (agrees : ∀ e, some e ∈ slots → e.nested = true →
      typeHas (String.ofList (withoutBlanks e.type.toList)) = (shapeOf e.type).hasField)
    (behind : ∀ next more, rest = next :: more →
      Path.segments (Path.join next more) = .ok (next, more)) :
    reply (Arm.known typeHas) false first (pathOf rest)
        ((slots.filterMap id).flatMap ExposedField.knownArms) =
      .ok ((fieldsOf shapeOf slots).has first rest) := by
  induction slots with
  | nil => rfl
  | cons slot slots ih =>
    have others := ih fun e mem => agrees e (.tail _ mem)
    cases slot with
    | none => exact others
    | some e =>
      show reply _ _ _ _ (e.knownArms ++ (slots.filterMap id).flatMap ExposedField.knownArms) = _
      by_cases nested : e.nested = true
      · rw [reply_knownArms_nested nested, others, fieldsOf, if_pos nested]
        cases rest with
        | nil =>
          rw [Fields.has]
          split
          · rfl
          · rfl
        | cons next more =>
          rw [Fields.has, agrees e (.head _) nested]
          split
          · exact hasField_join (shapeOf e.type) (behind next more rfl)
          · rfl
      · rw [reply_knownArms_plain nested, others, fieldsOf, if_neg nested, Fields.has]
        cases decide (e.name = first) && rest.isEmpty with
        | true => rfl
        | false => rfl

end Known

/-! ## The table of values -/

section Values

variable {held : String → Held}

/-- The lines of a plain field fit its name alone. -/
theorem reply_valueArms_plain {e : ExposedField} {value : Value} (plain : ¬e.nested = true)
    (holds : held e.field = .content value) :
    reply (Arm.value held) none first (pathOf rest) (e.valueArms ++ table) =
      if e.name = first && rest.isEmpty then .ok (some value)
      else reply (Arm.value held) none first (pathOf rest) table := by
  rw [ExposedField.valueArms, if_neg plain]
  cases rest with
  | nil => simp [reply, Arm.value, pathOf, holds]
  | cons next more => simp [reply, pathOf]

/-- The lines of a nested field fit its name, and ask its record for what stands behind. -/
theorem reply_valueArms_nested {e : ExposedField}
    {fieldValue : String → Except Error (Option Value)} {selfValue : Value}
    (nested : e.nested = true) (holds : held e.field = .record fieldValue selfValue) :
    reply (Arm.value held) none first (pathOf rest) (e.valueArms ++ table) =
      if e.name = first then
        match rest with
        | [] => .ok (some selfValue)
        | next :: more => fieldValue (Path.join next more)
      else reply (Arm.value held) none first (pathOf rest) table := by
  rw [ExposedField.valueArms, if_pos nested]
  by_cases here : e.name = first
  · cases rest with
    | nil => simp [reply, Arm.value, pathOf, here, holds]
    | cons next more => simp [reply, Arm.value, pathOf, here, holds]
  · simp [reply, here]

/-- The lines of all fields answer as the row does, where the declared names lead to what it
holds. -/
theorem reply_valueArms {slots : List (Option ExposedField)}
    (behind : ∀ next more, rest = next :: more →
      Path.segments (Path.join next more) = .ok (next, more)) :
    ∀ row : (fieldsOf shapeOf slots).Row,
      (∀ e content, (some e, content) ∈ slots.zip ((fieldsOf shapeOf slots).held row) →
        held e.field = content) →
      reply (Arm.value held) none first (pathOf rest)
          ((slots.filterMap id).flatMap ExposedField.valueArms) =
        .ok ((fieldsOf shapeOf slots).get? row first rest) := by
  -- Each field less leaves another row, so the row is quantified in what the induction is on.
  induction slots with
  | nil =>
    intro row _
    rfl
  | cons slot slots ih =>
    cases slot with
    | none =>
      rintro ⟨value, row⟩ holds
      exact ih row fun e content mem => holds e content (.tail _ mem)
    | some e =>
      show ∀ row, _ → reply _ _ _ _
        (e.valueArms ++ (slots.filterMap id).flatMap ExposedField.valueArms) = _
      by_cases nested : e.nested = true
      · rw [fieldsOf, if_pos nested]
        rintro ⟨record, row⟩ holds
        have others := ih row fun e content mem => holds e content (.tail _ mem)
        rw [reply_valueArms_nested nested (holds e _ (.head _)), others]
        cases rest with
        | nil =>
          rw [Fields.get?]
          split
          · rfl
          · rfl
        | cons next more =>
          rw [Fields.get?]
          split
          · exact fieldValue_join (shapeOf e.type) record (behind next more rfl)
          · rfl
      · rw [fieldsOf, if_neg nested]
        rintro ⟨value, row⟩ holds
        have others := ih row fun e content mem => holds e content (.tail _ mem)
        rw [reply_valueArms_plain nested (holds e _ (.head _)), others, Fields.get?]
        cases decide (e.name = first) && rest.isEmpty with
        | true => rfl
        | false => rfl

end Values

/-! ## Whole types -/

/-- A type has a field exactly if its table of known fields says so, where the types of its nested
fields have theirs. -/
theorem hasField_eq_known (expansion : Expansion) (shapeOf : String → Shape)
    (typeHas : String → String → Except Error Bool)
    (agrees : ∀ e ∈ expansion.exposed, e.nested = true →
      typeHas (String.ofList (withoutBlanks e.type.toList)) = (shapeOf e.type).hasField)
    (path : String) :
    (expansion.shape shapeOf).hasField path =
      answer (Arm.known typeHas) false expansion.knownArms path := by
  rw [Shape.hasField, answer, split_eq]
  cases found : Path.segments path with
  | error e => rfl
  | ok segments =>
    obtain ⟨first, rest⟩ := segments
    refine (reply_knownArms ?_ ?_).symm
    · intro e mem
      exact agrees e (List.mem_filterMap.2 ⟨some e, mem, rfl⟩)
    · rintro next more rfl
      exact Path.segments_join_of_segments found

/-- A record answers for a field as its table of values says, where the table finds under the
declared names what the fields hold. -/
theorem fieldValue_eq_value (expansion : Expansion) (shapeOf : String → Shape)
    (record : (expansion.shape shapeOf).Record) (held : String → Held)
    (holds : ∀ e content,
      (some e, content) ∈ expansion.slots.zip ((fieldsOf shapeOf expansion.slots).held record) →
        held e.field = content)
    (path : String) :
    (expansion.shape shapeOf).fieldValue record path =
      answer (Arm.value held) none expansion.valueArms path := by
  rw [Shape.fieldValue, answer, split_eq]
  cases found : Path.segments path with
  | error e => rfl
  | ok segments =>
    obtain ⟨first, rest⟩ := segments
    refine (reply_valueArms ?_ record holds).symm
    rintro next more rfl
    exact Path.segments_join_of_segments found

end Schema

end RecordFilter
