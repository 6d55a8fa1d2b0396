import RecordFilter.Proofs.Outcome
import RecordFilter.Proofs.Record.Path
import RecordFilter.Schema.Expansion

set_option autoImplicit false

/-!
# Accepted declarations

A declaration is expanded field by field, each against the fields seen so far. What comes out when
no field is refused is said here without that order: every field gives what its attributes say
(`FieldDeclaration.slot`), the constants are identifiers, and no two fields share a name or a
constant (`exposeAll_eq_ok_iff`). An identifier has no dot, and a constant keeps the dots of its
name, so the names of an accepted declaration are segments of paths (`isSegment_of_isIdentifier`).
-/

namespace RecordFilter.Schema

open Outcome

/-! ## Fields -/

/-- The exposed fields have different names and different constants. -/
def ExposedField.Apart (a b : ExposedField) : Prop :=
  a.name ≠ b.name ∧ a.constant ≠ b.constant

/-- What rules see of a field by its attributes, if they see it. -/
def FieldDeclaration.slot (field : FieldDeclaration) : Option ExposedField :=
  match field.filter with
  | .error _ => none
  | .ok filter =>
    if filter.hidden then none
    else
      let name := filter.name.getD field.plainName
      some ⟨name, constantOf name, field.name, field.type, filter.nested⟩

section Slot

variable {field : FieldDeclaration} {filter : FieldFilter}

theorem slot_of_hidden (read : field.filter = .ok filter) (hidden : filter.hidden = true) :
    field.slot = none := by
  simp only [FieldDeclaration.slot, read, hidden, if_true]

theorem slot_of_shown (read : field.filter = .ok filter) (shown : filter.hidden = false) :
    field.slot = some ⟨filter.name.getD field.plainName,
      constantOf (filter.name.getD field.plainName), field.name, field.type, filter.nested⟩ := by
  simp only [FieldDeclaration.slot, read, shown, Bool.false_eq_true, if_false]

theorem slot_facts {e : ExposedField} (slot : field.slot = some e) :
    e.constant = constantOf e.name ∧ e.field = field.name := by
  rw [FieldDeclaration.slot] at slot
  split at slot
  case h_1 => cases slot
  case h_2 =>
    split at slot
    case isTrue => cases slot
    case isFalse =>
      cases slot
      exact ⟨rfl, rfl⟩

end Slot

/-! ## One field after the other -/

theorem checkNew_eq_ok_iff {name constant : String} {seen : List ExposedField} :
    checkNew name constant seen = .ok () ↔
      ∀ other ∈ seen, other.name ≠ name ∧ other.constant ≠ constant := by
  induction seen with
  | nil => exact ⟨fun _ => List.forall_mem_nil _, fun _ => rfl⟩
  | cons first rest ih =>
    rw [checkNew, List.forall_mem_cons, ← ih]
    split
    case isTrue same => simp [same]
    case isFalse other =>
      split
      case isTrue same => simp [same]
      case isFalse apart => simp [other, apart]

/-- A field is expanded if its attributes can be read, its constant is an identifier, and no field
seen so far has its name or its constant. -/
theorem expose_eq_ok_iff {seen : List ExposedField} {field : FieldDeclaration}
    {slot : Option ExposedField} :
    expose seen field = .ok slot ↔
      (∃ filter, field.filter = .ok filter) ∧ field.slot = slot ∧
        ∀ e, field.slot = some e →
          isIdentifier e.constant = true ∧ ∀ other ∈ seen, other.Apart e := by
  rw [expose, bind_eq_ok_iff]
  simp only [mapError_eq_ok_iff, ← exists_and_right]
  apply exists_congr
  intro filter
  apply and_congr_right
  intro read
  cases hidden : filter.hidden with
  | true =>
    rw [slot_of_hidden read hidden]
    exact pure_eq_ok_iff.trans (by simp)
  | false =>
    rw [slot_of_shown read hidden]
    simp only [Bool.false_eq_true, if_false, bind_eq_ok_iff, mapError_eq_ok_iff]
    constructor
    · rintro ⟨⟨⟩, unseen, found⟩
      split at found
      case isTrue identifier =>
        refine ⟨pure_eq_ok_iff.1 found, ?_⟩
        rintro e ⟨⟩
        exact ⟨identifier, checkNew_eq_ok_iff.1 unseen⟩
      case isFalse => cases found
    · rintro ⟨rfl, apart⟩
      obtain ⟨identifier, unseen⟩ := apart _ rfl
      exact ⟨(), checkNew_eq_ok_iff.2 unseen, if_pos identifier⟩

/-- Fields are expanded if all their attributes can be read, all constants are identifiers, and no
two of the exposed fields, nor one of them and one seen before, share a name or a constant. -/
theorem exposeAll_eq_ok_iff {seen : List ExposedField} {fields : List FieldDeclaration}
    {slots : List (Option ExposedField)} :
    exposeAll seen fields = .ok slots ↔
      (∀ field ∈ fields, ∃ filter, field.filter = .ok filter) ∧
        fields.map FieldDeclaration.slot = slots ∧
        (∀ e ∈ fields.filterMap FieldDeclaration.slot,
          isIdentifier e.constant = true ∧ ∀ other ∈ seen, other.Apart e) ∧
        (fields.filterMap FieldDeclaration.slot).Pairwise ExposedField.Apart := by
  -- A field is seen by all behind it, so the fields seen before are in what the induction is on.
  induction fields generalizing seen slots with
  | nil =>
    rw [exposeAll]
    constructor
    · rintro ⟨⟩
      exact ⟨List.forall_mem_nil _, rfl, List.forall_mem_nil _, .nil⟩
    · rintro ⟨-, rfl, -, -⟩
      rfl
  | cons field rest ih =>
    simp only [exposeAll, bind_eq_ok_iff, pure_eq_ok_iff, expose_eq_ok_iff, ih,
      List.forall_mem_cons, List.map_cons]
    cases slot : field.slot with
    | none =>
      rw [List.filterMap_cons_none slot]
      constructor
      · rintro ⟨-, ⟨readable, rfl, -⟩, others, ⟨all, rfl, fresh, apart⟩, rfl⟩
        refine ⟨⟨readable, all⟩, rfl, ?_, apart⟩
        simpa using fresh
      · rintro ⟨⟨readable, all⟩, rfl, fresh, apart⟩
        refine ⟨none, ⟨readable, rfl, ?_⟩, _, ⟨all, rfl, ?_, apart⟩, rfl⟩
        · rintro e ⟨⟩
        · simpa using fresh
    | some e =>
      rw [List.filterMap_cons_some slot, List.forall_mem_cons, List.pairwise_cons]
      have seen_and_first (other : ExposedField) :
          (∀ before ∈ seen ++ (some e).toList, before.Apart other) ↔
            (∀ before ∈ seen, before.Apart other) ∧ e.Apart other := by
        rw [List.forall_mem_append]
        exact and_congr_right fun _ => List.forall_mem_singleton
      constructor
      · rintro ⟨-, ⟨readable, rfl, new⟩, others, ⟨all, rfl, fresh, apart⟩, rfl⟩
        refine ⟨⟨readable, all⟩, rfl, ⟨new e rfl, ?_⟩, ?_, apart⟩
        · intro other mem
          exact ⟨(fresh other mem).1, ((seen_and_first other).1 (fresh other mem).2).1⟩
        · intro other mem
          exact ((seen_and_first other).1 (fresh other mem).2).2
      · rintro ⟨⟨readable, all⟩, rfl, ⟨new, fresh⟩, apart_first, apart⟩
        refine ⟨some e, ⟨readable, rfl, ?_⟩, _, ⟨all, rfl, ?_, apart⟩, rfl⟩
        · rintro e' ⟨⟩
          exact new
        · intro other mem
          obtain ⟨identifier, old⟩ := fresh other mem
          exact ⟨identifier, (seen_and_first other).2 ⟨old, apart_first other mem⟩⟩

/-- In an accepted declaration the attributes of all fields can be read, the exposed fields are what
they say, the constants are identifiers, and no two fields share a name or a constant. -/
theorem expand_facts {declaration : Declaration} {expansion : Expansion}
    (accepted : declaration.expand = .ok expansion) :
    (∀ field ∈ declaration.fields, ∃ filter, field.filter = .ok filter) ∧
      expansion.exposed = declaration.fields.filterMap FieldDeclaration.slot ∧
      (∀ e ∈ expansion.exposed, isIdentifier e.constant = true) ∧
      expansion.exposed.Pairwise ExposedField.Apart := by
  rw [Declaration.expand] at accepted
  split at accepted
  case h_1 =>
    obtain ⟨slots, found, made⟩ := bind_eq_ok_iff.1 accepted
    obtain ⟨readable, rfl, fresh, apart⟩ := exposeAll_eq_ok_iff.1 found
    cases made
    have exposed : (declaration.fields.map FieldDeclaration.slot).filterMap id =
        declaration.fields.filterMap FieldDeclaration.slot := by
      rw [List.filterMap_map, Function.id_comp]
    simp only [Expansion.exposed, exposed]
    exact ⟨readable, trivial, fun e mem => (fresh e mem).1, apart⟩
  all_goals cases accepted

/-- The exposed fields are the slots of the declared ones. -/
theorem mem_exposed_iff {declaration : Declaration} {expansion : Expansion}
    (accepted : declaration.expand = .ok expansion) {e : ExposedField} :
    e ∈ expansion.exposed ↔ ∃ field ∈ declaration.fields, field.slot = some e := by
  rw [(expand_facts accepted).2.1]
  exact List.mem_filterMap

/-! ## Constants -/

/-- A dot is no capital and no small letter, so it is kept. -/
theorem dot_mem_constantChars {chars : List Char} (mem : '.' ∈ chars) (afterSmall : Bool) :
    '.' ∈ constantChars afterSmall chars := by
  induction chars generalizing afterSmall with
  | nil => cases mem
  | cons c rest ih =>
    rw [constantChars]
    rcases List.mem_cons.1 mem with rfl | mem
    · exact .head _
    · split
      · exact List.mem_append_right _ (ih mem false)
      · split
        · exact .tail _ (ih mem false)
        · exact .tail _ (ih mem true)

/-- A character that can stand nowhere in an identifier is in none. -/
theorem not_mem_of_isIdentifier {text : String} (identifier : isIdentifier text = true) {c : Char}
    (first : Unicode.Current.startsIdentifier c = false)
    (later : Unicode.Current.continuesIdentifier c = false) : c ∉ text.toList := by
  intro mem
  rw [isIdentifier] at identifier
  split at identifier
  case h_1 => cases identifier
  case h_2 head rest chars =>
    rw [chars] at mem
    obtain ⟨starts, continues⟩ := Bool.and_eq_true_iff.1 identifier
    rcases List.mem_cons.1 mem with rfl | mem
    · rw [first] at starts
      cases starts
    · rw [List.all_eq_true.1 continues c mem] at later
      cases later

/-- A name whose constant is an identifier can stand between the dots of a path. -/
theorem isSegment_of_isIdentifier {name : String}
    (identifier : isIdentifier (constantOf name) = true) : Path.IsSegment name := by
  constructor
  · rintro rfl
    cases identifier
  · intro mem
    have dotless : '.' ∉ (constantOf name).toList := not_mem_of_isIdentifier identifier rfl rfl
    apply dotless
    rw [constantOf, String.toList_ofList]
    exact dot_mem_constantChars mem false

theorem isSegment_of_mem_exposed {declaration : Declaration} {expansion : Expansion}
    (accepted : declaration.expand = .ok expansion) {e : ExposedField}
    (mem : e ∈ expansion.exposed) : Path.IsSegment e.name := by
  obtain ⟨field, -, slot⟩ := (mem_exposed_iff accepted).1 mem
  obtain ⟨-, -, identifiers, -⟩ := expand_facts accepted
  apply isSegment_of_isIdentifier
  rw [← (slot_facts slot).1]
  exact identifiers e mem

end RecordFilter.Schema
