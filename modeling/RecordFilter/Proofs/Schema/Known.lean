import RecordFilter.Proofs.Record.Shape
import RecordFilter.Proofs.Schema.Tables
import RecordFilter.Example.Task

set_option autoImplicit false

/-!
# Declared types know their fields

The expansion of a declaration has one table for records and one for the type alone. `Derived` are
the shapes that declarations lead to: structs whose nested fields hold records of derived types,
and optional ones, to any depth. All of them know their fields (`Derived.knowsFields`, by induction
on how a shape is derived), so that the type and its records agree on every path
(`Derived.hasField_agrees`), and so do the two tables (`Derived.tables_agree`).
-/

namespace RecordFilter.Schema

open Outcome

/-- The shapes of declared record types whose nested fields hold records of such types or optional
ones, to any depth. -/
inductive Derived : Shape → Prop where
  | declared (declaration : Declaration) (expansion : Expansion) (shapeOf : String → Shape)
      (accepted : declaration.expand = .ok expansion)
      (nested : ∀ e ∈ expansion.exposed, e.nested = true → Derived (shapeOf e.type)) :
      Derived (expansion.shape shapeOf)
  | optional (target : Shape) (derived : Derived target) : Derived (.optional target)

/-! ## Agreement -/

theorem areKnown_fieldsOf {shapeOf : String → Shape} {slots : List (Option ExposedField)}
    (nested : ∀ e, some e ∈ slots → e.nested = true → (shapeOf e.type).KnowsFields) :
    (fieldsOf shapeOf slots).AreKnown := by
  induction slots with
  | nil => exact Fields.areKnown_nil
  | cons slot slots ih =>
    have others := ih fun e mem => nested e (.tail _ mem)
    cases slot with
    | none => exact Fields.areKnown_hidden others
    | some e =>
      rw [fieldsOf]
      split
      case isTrue holds => exact Fields.areKnown_nested e.name (nested e (.head _) holds) others
      case isFalse => exact Fields.areKnown_plain e.name others

namespace Derived

variable {shape : Shape}

theorem knowsFields (derived : Derived shape) : shape.KnowsFields := by
  -- The hypothesis of the induction is about the types of the nested fields only, whatever
  -- `shapeOf` makes of the others.
  induction derived with
  | declared declaration expansion shapeOf accepted nested ih =>
    refine Shape.knowsFields_struct (areKnown_fieldsOf fun e mem holds => ?_)
    exact ih e (List.mem_filterMap.2 ⟨some e, mem, rfl⟩) holds
  | optional target derived ih => exact Shape.knowsFields_optional ih

/-- The two tables of an expansion agree on every path, where the types of its nested fields are
asked as they answer and the fields are found under their declared names. -/
theorem tables_agree {expansion : Expansion} {shapeOf : String → Shape}
    (derived : Derived (expansion.shape shapeOf))
    (typeHas : String → String → Except Error Bool)
    (agrees : ∀ e ∈ expansion.exposed, e.nested = true →
      typeHas (String.ofList (withoutBlanks e.type.toList)) = (shapeOf e.type).hasField)
    (record : (expansion.shape shapeOf).Record) (held : String → Held)
    (holds : ∀ e content,
      (some e, content) ∈ expansion.slots.zip ((fieldsOf shapeOf expansion.slots).held record) →
        held e.field = content)
    (path : String) :
    answer (Arm.known typeHas) false expansion.knownArms path =
      (answer (Arm.value held) none expansion.valueArms path).map Option.isSome := by
  rw [← hasField_eq_known expansion shapeOf typeHas agrees,
    ← fieldValue_eq_value expansion shapeOf record held holds]
  exact derived.knowsFields.hasField record path

/-- A derived type fails on a path where its records do and with their error, has a field where they
answer with a value, and has none where they answer with nothing. All records of the type agree on
this, and an absent one answers with null where a present one answers with a value. -/
theorem hasField_agrees (derived : Derived shape) (record : shape.Record) (path : String) :
    (∀ error, shape.hasField path = .error error ↔ shape.fieldValue record path = .error error) ∧
      (shape.hasField path = .ok true ↔
        ∃ value, shape.fieldValue record path = .ok (some value)) ∧
      (shape.hasField path = .ok false ↔ shape.fieldValue record path = .ok none) ∧
      (∀ other : shape.Record, (shape.fieldValue other path).map Option.isSome =
        (shape.fieldValue record path).map Option.isSome) ∧
      (Shape.optional shape).fieldValue none path =
        ((Shape.optional shape).fieldValue (some record) path).map (Option.map fun _ => .null) := by
  have known := derived.knowsFields
  refine ⟨?errors, ?answered, ?missing, ?typeOnly, ?absent⟩
  case errors => exact fun error => known.hasField_eq_error_iff record
  case answered => exact known.hasField_eq_true_iff record
  case missing => exact known.hasField_eq_false_iff record
  case typeOnly =>
    intro other
    rw [← known.hasField other path, ← known.hasField record path]
  case absent => exact known.fieldValue_absent record path

end Derived

/-! ## People with badges -/

/-- A badge: rules see its text as a label, and its number not at all. -/
def badge : Declaration :=
  Example.record "Badge"
    [Example.declared "text" "String" [Example.renamed "label"],
     Example.declared "number" "UInt64" [.word "skip"]]

/-- A person, who may have a badge, or none to have. -/
def person : Declaration :=
  Example.record "Person"
    [Example.declared "badge" "Option (Option Badge)" [Example.nested]]

/-- The expansion of badges. -/
def badgeExpansion : Expansion :=
  ⟨"Badge", [some ⟨"label", "LABEL", "text", "String", false⟩, none]⟩

/-- The expansion of persons. -/
def personExpansion : Expansion :=
  ⟨"Person", [some ⟨"badge", "BADGE", "badge", "Option (Option Badge)", true⟩]⟩

/-- How badges answer. -/
def badgeShape : Shape := badgeExpansion.shape fun _ => .document

/-- How persons answer, whose badge is an option in an option. -/
def personShape : Shape := personExpansion.shape fun _ => .optional (.optional badgeShape)

theorem derived_badgeShape : Derived badgeShape := by
  refine .declared badge badgeExpansion _ rfl ?_
  intro e mem nested
  cases List.mem_singleton.1 mem
  cases nested

theorem derived_personShape : Derived personShape := by
  refine .declared person personExpansion _ rfl ?_
  intro e mem nested
  exact .optional _ (.optional _ derived_badgeShape)

/-- The label of the badge is a field of every person, here of one without a badge. -/
theorem hasField_agrees_personShape :
    Derived personShape ∧ personShape.hasField "badge.label" = .ok true ∧
      ∃ value, personShape.fieldValue (none, ()) "badge.label" = .ok (some value) :=
  have agrees := derived_personShape.hasField_agrees (none, ()) "badge.label"
  ⟨derived_personShape, rfl, agrees.2.1.1 rfl⟩

end RecordFilter.Schema
