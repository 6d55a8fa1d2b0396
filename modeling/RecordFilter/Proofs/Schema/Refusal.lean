import RecordFilter.Example.Task
import RecordFilter.Proofs.Schema.Acceptance
import RecordFilter.Proofs.Schema.Faults

set_option autoImplicit false

/-!
# Refused declarations

The fields of a declaration are looked at in their order, and the first that stops the expansion
decides the error (`Declaration.expand_eq_error_iff`). A field stops it if its attributes are
faulty, if it collides with a field that was exposed before it, or if its constant cannot be
declared (`FieldDeclaration.Stops`). The earlier fields are scanned for the name and for the
constant at once. As they have different constants, and equal names have equal constants, the scan
never finds a constant before it finds a name, so a repeated name is always reported as such
(`checkNew_eq_error_iff`).

Whether a declaration is accepted does not depend on the order of its fields.
-/

namespace RecordFilter.Schema

open Outcome

/-! ## Collisions -/

/-- An exposed field collides with one before it, by its name or else by its constant. -/
inductive ExposedField.Collides (earlier : List ExposedField) (e : ExposedField) :
    DeclarationError → Prop where
  | name {other : ExposedField} (mem : other ∈ earlier) (same : other.name = e.name) :
      Collides earlier e (.duplicateName e.name)
  | constant {other : ExposedField} (mem : other ∈ earlier) (same : other.constant = e.constant)
      (new : ∀ before ∈ earlier, before.name ≠ e.name) :
      Collides earlier e (.constantClash e.name other.name e.constant)

theorem ExposedField.Apart.symm {a b : ExposedField} (apart : a.Apart b) : b.Apart a :=
  ⟨apart.1.symm, apart.2.symm⟩

/-- The constants are those of the names, so equal names have equal constants. -/
def Named (exposed : List ExposedField) : Prop := ∀ e ∈ exposed, e.constant = constantOf e.name

theorem named_slots (fields : List FieldDeclaration) :
    Named (fields.filterMap FieldDeclaration.slot) := by
  intro e mem
  obtain ⟨field, -, slot⟩ := List.mem_filterMap.1 mem
  exact (slot_facts slot).1

/-- A field that is apart from the first of the earlier ones collides with one of the others or not
at all. -/
theorem ExposedField.collides_cons_iff {first e : ExposedField} {rest : List ExposedField}
    {error : DeclarationError} (apart : first.Apart e) :
    e.Collides (first :: rest) error ↔ e.Collides rest error := by
  constructor
  · rintro (⟨mem, same⟩ | ⟨mem, same, new⟩)
    · rcases List.mem_cons.1 mem with rfl | mem
      · exact absurd same apart.1
      · exact .name mem same
    · rcases List.mem_cons.1 mem with rfl | mem
      · exact absurd same apart.2
      · exact .constant mem same (List.forall_mem_cons.1 new).2
  · rintro (⟨mem, same⟩ | ⟨mem, same, new⟩)
    · exact .name (.tail _ mem) same
    · exact .constant (.tail _ mem) same (List.forall_mem_cons.2 ⟨apart.1, new⟩)

/-- Where no two earlier fields share a constant, the scan finds a repeated name, or else the one
field that has the constant. -/
theorem checkNew_eq_error_iff {earlier : List ExposedField} {e : ExposedField}
    {error : DeclarationError} (named : Named (e :: earlier))
    (apart : earlier.Pairwise ExposedField.Apart) :
    checkNew e.name e.constant earlier = .error error ↔ e.Collides earlier error := by
  induction earlier with
  | nil =>
    constructor
    · nofun
    · rintro (⟨⟨⟩, -⟩ | ⟨⟨⟩, -, -⟩)
  | cons first rest ih =>
    obtain ⟨own, named⟩ := List.forall_mem_cons.1 named
    obtain ⟨first_named, named⟩ := List.forall_mem_cons.1 named
    obtain ⟨first_apart, apart⟩ := List.pairwise_cons.1 apart
    rw [checkNew]
    by_cases name : first.name = e.name
    · rw [if_pos name]
      constructor
      · rintro ⟨⟩
        exact .name (.head _) name
      · rintro (- | ⟨-, -, new⟩)
        · rfl
        · exact absurd name (new first (.head _))
    · rw [if_neg name]
      by_cases constant : first.constant = e.constant
      · -- A later field with the name would have the constant, too, but the first one has it.
        have new : ∀ other ∈ rest, other.name ≠ e.name := by
          intro other mem same
          apply (first_apart other mem).2
          rw [constant, own, ← same, named other mem]
        rw [if_pos constant]
        constructor
        · rintro ⟨⟩
          exact .constant (.head _) constant (List.forall_mem_cons.2 ⟨name, new⟩)
        · rintro (⟨mem, same⟩ | ⟨mem, same, -⟩)
          · rcases List.mem_cons.1 mem with rfl | mem
            · exact absurd same name
            · exact absurd same (new _ mem)
          · rcases List.mem_cons.1 mem with rfl | mem
            · rfl
            · exact absurd (constant.trans same.symm) (first_apart _ mem).2
      · rw [if_neg constant, ExposedField.collides_cons_iff ⟨name, constant⟩]
        exact ih (List.forall_mem_cons.2 ⟨own, named⟩) apart

/-! ## Fields that stop the expansion -/

namespace FieldDeclaration

variable {earlier : List FieldDeclaration} {field : FieldDeclaration}

/-- What is wrong with a field behind others: its own attributes, or that it collides with what was
exposed before it. -/
inductive Offends (earlier : List FieldDeclaration) (field : FieldDeclaration) :
    DeclarationError → Prop where
  | fault {error : DeclarationError} (faulty : field.Fault error) : Offends earlier field error
  | collision {e : ExposedField} {error : DeclarationError} (exposed : field.slot = some e)
      (collides : e.Collides (earlier.filterMap slot) error) : Offends earlier field error

/-- What stops the expansion at a field behind others: an offence, or a constant that cannot be
declared. -/
inductive Stops (earlier : List FieldDeclaration) (field : FieldDeclaration) : Failure → Prop where
  | refused {error : DeclarationError} (offends : field.Offends earlier error) :
      Stops earlier field (.refused error)
  | broken {e : ExposedField} (exposed : field.slot = some e)
      (apart : ∀ other ∈ earlier.filterMap slot, other.Apart e)
      (bad : isIdentifier e.constant = false) : Stops earlier field (.badConstant e.constant)

variable {failure : Failure}

/-- A field that is not exposed stops the expansion by its attributes only. -/
theorem stops_iff_of_slot_none (unseen : field.slot = none) :
    field.Stops earlier failure ↔ ∃ error, field.Fault error ∧ failure = .refused error := by
  constructor
  · rintro (⟨⟨faulty⟩ | ⟨exposed, -⟩⟩ | ⟨exposed, -, -⟩)
    · exact ⟨_, faulty, rfl⟩
    · cases unseen.symm.trans exposed
    · cases unseen.symm.trans exposed
  · rintro ⟨error, faulty, rfl⟩
    exact .refused (.fault faulty)

/-- A field that is exposed has readable attributes. -/
theorem not_fault_of_slot {e : ExposedField} (exposed : field.slot = some e)
    (error : DeclarationError) : ¬field.Fault error := by
  intro faulty
  rw [slot, filter_eq_error_iff.2 faulty] at exposed
  cases exposed

/-- An exposed field stops the expansion if it collides with an earlier one or, if not, by its
constant. -/
theorem stops_iff_of_slot_some {e : ExposedField} (exposed : field.slot = some e) :
    field.Stops earlier failure ↔
      (∃ error, e.Collides (earlier.filterMap slot) error ∧ failure = .refused error) ∨
      (∀ other ∈ earlier.filterMap slot, other.Apart e) ∧ isIdentifier e.constant = false ∧
        failure = .badConstant e.constant := by
  constructor
  · rintro (⟨⟨faulty⟩ | ⟨exposed', collides⟩⟩ | ⟨exposed', apart, bad⟩)
    · exact absurd faulty (not_fault_of_slot exposed _)
    · cases exposed.symm.trans exposed'
      exact .inl ⟨_, collides, rfl⟩
    · cases exposed.symm.trans exposed'
      exact .inr ⟨apart, bad, rfl⟩
  · rintro (⟨error, collides, rfl⟩ | ⟨apart, bad, rfl⟩)
    · exact .refused (.collision exposed collides)
    · exact .broken exposed apart bad

end FieldDeclaration

/-! ## One step of the expansion -/

section Step

variable {earlier : List FieldDeclaration} {seen : List ExposedField} {field : FieldDeclaration}
  {filter : FieldFilter} {failure : Failure}

theorem expose_of_faulty {error : DeclarationError} (read : field.filter = .error error) :
    expose seen field = .error (.refused error) := by
  rw [expose, read]
  rfl

theorem expose_of_hidden (read : field.filter = .ok filter) (hidden : filter.hidden = true) :
    expose seen field = .ok none := by
  have mapped : field.filter.mapError Failure.refused = .ok filter := mapError_eq_ok_iff.2 read
  rw [expose, mapped]
  exact if_pos hidden

/-- A field that rules see is compared with those seen before it, and then its constant is looked
at. -/
theorem expose_of_shown (read : field.filter = .ok filter) (shown : filter.hidden = false)
    {e : ExposedField} (exposed : field.slot = some e) :
    expose seen field = (checkNew e.name e.constant seen).mapError Failure.refused >>= fun _ =>
      if isIdentifier e.constant then .ok (some e) else .error (.badConstant e.constant) := by
  rw [slot_of_shown read shown] at exposed
  cases exposed
  have mapped : field.filter.mapError Failure.refused = .ok filter := mapError_eq_ok_iff.2 read
  rw [expose, mapped]
  exact if_neg (Bool.eq_false_iff.1 shown)

/-- Where the fields before it are apart from each other, a field fails for what stops it. -/
theorem expose_eq_error_iff
    (apart : (earlier.filterMap FieldDeclaration.slot).Pairwise ExposedField.Apart) :
    expose (earlier.filterMap FieldDeclaration.slot) field = .error failure ↔
      field.Stops earlier failure := by
  cases read : field.filter with
  | error error =>
    have unseen : field.slot = none := by simp only [FieldDeclaration.slot, read]
    rw [expose_of_faulty read, FieldDeclaration.stops_iff_of_slot_none unseen]
    constructor
    · rintro ⟨⟩
      exact ⟨error, FieldDeclaration.filter_eq_error_iff.1 read, rfl⟩
    · rintro ⟨other, faulty, rfl⟩
      cases read.symm.trans (FieldDeclaration.filter_eq_error_iff.2 faulty)
      rfl
  | ok filter =>
    cases hidden : filter.hidden with
    | true =>
      rw [expose_of_hidden read hidden,
        FieldDeclaration.stops_iff_of_slot_none (slot_of_hidden read hidden)]
      simp [← FieldDeclaration.filter_eq_error_iff, read]
    | false =>
      obtain ⟨e, exposed⟩ : ∃ e, field.slot = some e := ⟨_, slot_of_shown read hidden⟩
      have named : Named (e :: earlier.filterMap FieldDeclaration.slot) :=
        List.forall_mem_cons.2 ⟨(slot_facts exposed).1, named_slots earlier⟩
      rw [expose_of_shown read hidden exposed, FieldDeclaration.stops_iff_of_slot_some exposed,
        bind_eq_error_iff, mapError_eq_error_iff]
      simp only [mapError_eq_ok_iff, checkNew_eq_error_iff named apart]
      apply or_congr
      · simp only [eq_comm]
      · constructor
        · rintro ⟨done, checked, refused⟩
          split at refused
          case isTrue => cases refused
          case isFalse bad =>
            cases refused
            exact ⟨checkNew_eq_ok_iff.1 checked, Bool.eq_false_iff.2 bad, rfl⟩
        · rintro ⟨new, bad, rfl⟩
          refine ⟨(), checkNew_eq_ok_iff.2 new, ?_⟩
          rw [if_neg (Bool.eq_false_iff.1 bad)]

end Step

/-! ## The first field that stops -/

/-- Fields before any of which nothing stops the expansion. -/
def Proceed (fields : List FieldDeclaration) : Prop :=
  ∀ before field after, fields = before ++ field :: after → ∀ failure, ¬field.Stops before failure

section Run

variable {fields : List FieldDeclaration} {failure : Failure}

theorem seen_cons {seen : List ExposedField} {first : FieldDeclaration}
    {slot : Option ExposedField} (done : expose seen first = .ok slot)
    (before : List FieldDeclaration) :
    seen ++ (first :: before).filterMap FieldDeclaration.slot =
      seen ++ slot.toList ++ before.filterMap FieldDeclaration.slot := by
  obtain ⟨-, rfl, -⟩ := expose_eq_ok_iff.1 done
  rw [List.append_assoc, List.append_cancel_left_eq]
  cases shown : first.slot with
  | none => rw [List.filterMap_cons_none shown, Option.toList_none, List.nil_append]
  | some e => rw [List.filterMap_cons_some shown, Option.toList_some, List.singleton_append]

/-- The expansion fails where a step does, behind fields that are expanded. -/
theorem exposeAll_eq_error_iff {seen : List ExposedField} :
    exposeAll seen fields = .error failure ↔
      ∃ before field after, fields = before ++ field :: after ∧
      (∃ slots, exposeAll seen before = .ok slots) ∧
        expose (seen ++ before.filterMap FieldDeclaration.slot) field = .error failure := by
  -- Each step adds to what has been seen, so the induction is on the fields for all seen before.
  induction fields generalizing seen with
  | nil =>
    constructor
    · nofun
    · rintro ⟨before, field, after, parts, -⟩
      cases before <;> cases parts
  | cons first rest ih =>
    rw [exposeAll, bind_eq_error_iff]
    constructor
    · rintro (stops | ⟨slot, done, stops⟩)
      · refine ⟨[], first, rest, rfl, ⟨[], rfl⟩, ?_⟩
        rwa [List.filterMap_nil, List.append_nil]
      · rcases bind_eq_error_iff.1 stops with stops | ⟨others, -, never⟩
        · obtain ⟨before, field, after, rfl, ⟨slots, goes⟩, stops⟩ := ih.1 stops
          refine ⟨first :: before, field, after, rfl, ⟨slot :: slots, ?_⟩, ?_⟩
          · exact bind_eq_ok_iff.2 ⟨slot, done, bind_eq_ok_iff.2 ⟨slots, goes, rfl⟩⟩
          · rwa [seen_cons done]
        · cases never
    · rintro ⟨before, field, after, parts, ⟨slots, goes⟩, stops⟩
      cases before with
      | nil =>
        cases parts
        rw [List.filterMap_nil, List.append_nil] at stops
        exact .inl stops
      | cons other before =>
        cases parts
        rw [exposeAll, bind_eq_ok_iff] at goes
        obtain ⟨slot, done, goes⟩ := goes
        obtain ⟨others, goes, -⟩ := bind_eq_ok_iff.1 goes
        rw [seen_cons done] at stops
        refine .inr ⟨slot, done, bind_eq_error_iff.2 (.inl ?_)⟩
        exact ih.2 ⟨before, field, after, rfl, ⟨others, goes⟩, stops⟩

/-- What comes out of fields that are expanded is what they say, in pairs apart from each other. -/
theorem apart_of_exposeAll {slots : List (Option ExposedField)}
    (goes : exposeAll [] fields = .ok slots) :
    (fields.filterMap FieldDeclaration.slot).Pairwise ExposedField.Apart :=
  (exposeAll_eq_ok_iff.1 goes).2.2.2

/-- The first field that stops the expansion decides how it fails. -/
theorem exposeAll_eq_error_iff_stops :
    exposeAll [] fields = .error failure ↔ ∃ before field after, fields = before ++ field :: after ∧
      (∃ slots, exposeAll [] before = .ok slots) ∧ field.Stops before failure := by
  rw [exposeAll_eq_error_iff]
  constructor
  · rintro ⟨before, field, after, parts, ⟨slots, goes⟩, stops⟩
    rw [List.nil_append, expose_eq_error_iff (apart_of_exposeAll goes)] at stops
    exact ⟨before, field, after, parts, ⟨slots, goes⟩, stops⟩
  · rintro ⟨before, field, after, parts, ⟨slots, goes⟩, stops⟩
    refine ⟨before, field, after, parts, ⟨slots, goes⟩, ?_⟩
    rwa [List.nil_append, expose_eq_error_iff (apart_of_exposeAll goes)]

/-- When fields are expanded, so are those at the front by themselves. -/
theorem exists_exposeAll_of_append {before after : List FieldDeclaration}
    {slots : List (Option ExposedField)} (goes : exposeAll [] (before ++ after) = .ok slots) :
    ∃ front, exposeAll [] before = .ok front := by
  obtain ⟨readable, -, fresh, apart⟩ := exposeAll_eq_ok_iff.1 goes
  rw [List.filterMap_append] at fresh apart
  refine ⟨_, exposeAll_eq_ok_iff.2 ⟨?_, rfl, ?_, (List.pairwise_append.1 apart).1⟩⟩
  · exact fun field mem => readable field (List.mem_append_left after mem)
  · exact fun e mem => fresh e (List.mem_append_left _ mem)

/-- Fields are expanded exactly if none of them stops. -/
theorem exists_exposeAll_iff : (∃ slots, exposeAll [] fields = .ok slots) ↔ Proceed fields := by
  constructor
  · rintro ⟨slots, goes⟩ before field after rfl failure stops
    -- The fields before it are expanded, so the run would fail at the one that stops.
    have front := exists_exposeAll_of_append goes
    have fails := exposeAll_eq_error_iff_stops.2 ⟨before, field, after, rfl, front, stops⟩
    cases goes.symm.trans fails
  · intro proceed
    cases run : exposeAll [] fields with
    | ok slots => exact ⟨slots, rfl⟩
    | error failure =>
      obtain ⟨before, field, after, parts, -, stops⟩ := exposeAll_eq_error_iff_stops.1 run
      exact absurd stops (proceed before field after parts failure)

end Run

/-! ## Declarations -/

namespace Declaration

variable {declaration : Declaration} {failure : Failure}

/-- What the fields of a declaration expose, as far as their attributes say so. -/
def exposes (declaration : Declaration) : List ExposedField :=
  declaration.fields.filterMap FieldDeclaration.slot

theorem expand_of_named (named : declaration.form = .namedFields) :
    declaration.expand = (exposeAll [] declaration.fields).map fun slots =>
      ⟨declaration.name ++ String.ofList (typeArguments declaration.parameters), slots⟩ := by
  rw [expand, named]
  rfl

/-- A declaration with named fields fails where the first field stops that does. -/
theorem expand_eq_error_iff (named : declaration.form = .namedFields) :
    declaration.expand = .error failure ↔ ∃ before field after,
      declaration.fields = before ++ field :: after ∧ Proceed before ∧
        field.Stops before failure := by
  rw [expand_of_named named, map_eq_error_iff, exposeAll_eq_error_iff_stops]
  simp only [exists_exposeAll_iff]

/-- A declaration with named fields is accepted if all attributes can be read, all constants can be
declared, and no two exposed fields share a name or a constant. -/
theorem exists_expand_iff (named : declaration.form = .namedFields) :
    (∃ expansion, declaration.expand = .ok expansion) ↔
      (∀ field ∈ declaration.fields, ∀ error, ¬field.Fault error) ∧
        (∀ e ∈ declaration.exposes, isIdentifier e.constant = true) ∧
        declaration.exposes.Pairwise ExposedField.Apart := by
  have readable (field : FieldDeclaration) :
      (∃ filter, field.filter = .ok filter) ↔ ∀ error, ¬field.Fault error := by
    simp only [← FieldDeclaration.filter_eq_error_iff]
    cases field.filter <;> simp
  simp only [expand_of_named named, map_eq_ok_iff, exposeAll_eq_ok_iff, readable]
  constructor
  · rintro ⟨-, -, ⟨fine, -, fresh, apart⟩, -⟩
    exact ⟨fine, fun e mem => (fresh e mem).1, apart⟩
  · rintro ⟨fine, declarable, apart⟩
    exact ⟨_, _, ⟨fine, rfl, fun e mem => ⟨declarable e mem, List.forall_mem_nil _⟩, apart⟩, rfl⟩

/-- Declarations with the same fields in different orders are both accepted or both refused. -/
theorem exists_expand_iff_of_perm {other : Declaration} (named' : other.form = .namedFields)
    (named : declaration.form = .namedFields) (perm : other.fields.Perm declaration.fields) :
    (∃ expansion, other.expand = .ok expansion) ↔
      ∃ expansion, declaration.expand = .ok expansion := by
  have shown : other.exposes.Perm declaration.exposes := perm.filterMap FieldDeclaration.slot
  rw [exists_expand_iff named', exists_expand_iff named, shown.pairwise_iff ExposedField.Apart.symm]
  simp only [shown.mem_iff, perm.mem_iff]

/-- Two fields that are not apart have a name or a constant in common. -/
theorem not_pairwise_apart_iff {exposed : List ExposedField} :
    ¬exposed.Pairwise ExposedField.Apart ↔
      (∃ a b, [a, b].Sublist exposed ∧ a.name = b.name) ∨
        ∃ a b, [a, b].Sublist exposed ∧ a.constant = b.constant := by
  rw [List.pairwise_iff_forall_sublist]
  constructor
  · intro shared
    apply Classical.byContradiction
    intro none
    obtain ⟨names, constants⟩ := not_or.1 none
    apply shared
    intro a b both
    exact ⟨fun same => names ⟨a, b, both, same⟩, fun same => constants ⟨a, b, both, same⟩⟩
  · rintro (⟨a, b, both, same⟩ | ⟨a, b, both, same⟩) apart
    · exact (apart both).1 same
    · exact (apart both).2 same

/-- Where all constants can be declared, offences are what stops the expansion. -/
theorem stops_iff_of_declarable {before after : List FieldDeclaration} {field : FieldDeclaration}
    (parts : declaration.fields = before ++ field :: after)
    (declarable : ∀ e ∈ declaration.exposes, isIdentifier e.constant = true) :
    field.Stops before failure ↔
      ∃ error, field.Offends before error ∧ failure = .refused error := by
  constructor
  · rintro (offends | ⟨exposed, -, bad⟩)
    · exact ⟨_, offends, rfl⟩
    · have mem : field ∈ declaration.fields := by
        rw [parts]
        exact List.mem_append_right before (.head after)
      rw [declarable _ (List.mem_filterMap.2 ⟨field, mem, exposed⟩)] at bad
      cases bad
  · rintro ⟨error, offends, rfl⟩
    exact .refused offends

/-- Fields of which none offends behind those before it. -/
def Unoffending (fields : List FieldDeclaration) : Prop :=
  ∀ before field after, fields = before ++ field :: after → ∀ error, ¬field.Offends before error

theorem proceed_iff_of_declarable {front back : List FieldDeclaration}
    (parts : declaration.fields = front ++ back)
    (declarable : ∀ e ∈ declaration.exposes, isIdentifier e.constant = true) :
    Proceed front ↔ Unoffending front := by
  constructor
  · intro proceed before field after inside error offends
    exact proceed before field after inside _ (.refused offends)
  · intro unoffending before field after inside failure stops
    have whole : declaration.fields = before ++ field :: (after ++ back) := by
      rw [parts, inside, List.append_assoc, List.cons_append]
    obtain ⟨error, offends, -⟩ := (stops_iff_of_declarable whole declarable).1 stops
    exact unoffending before field after inside error offends

/-- A declaration whose constants can be declared is refused exactly if the attributes of a field
are faulty, or two exposed fields have a name or a constant in common. The error is that of the
first field that is faulty or collides with one exposed before it, and a name that is repeated is
reported as that. Whether the declaration is accepted does not depend on the order of its fields. -/
theorem refused_in_order (named : declaration.form = .namedFields)
    (declarable : ∀ e ∈ declaration.exposes, isIdentifier e.constant = true) :
    ((∃ failure, declaration.expand = .error failure) ↔
      (∃ field ∈ declaration.fields, ∃ error, field.Fault error) ∨
        (∃ a b, [a, b].Sublist declaration.exposes ∧ a.name = b.name) ∨
          ∃ a b, [a, b].Sublist declaration.exposes ∧ a.constant = b.constant) ∧
    (∀ failure, declaration.expand = .error failure ↔ ∃ before field after error,
      declaration.fields = before ++ field :: after ∧ Unoffending before ∧
        field.Offends before error ∧ failure = .refused error) ∧
    (∀ before field after e, declaration.fields = before ++ field :: after → Unoffending before →
      field.slot = some e →
        (∃ other ∈ before.filterMap FieldDeclaration.slot, other.name = e.name) →
        declaration.expand = .error (.refused (.duplicateName e.name))) ∧
    ∀ other : Declaration, other.form = .namedFields → other.fields.Perm declaration.fields →
      ((∃ expansion, other.expand = .ok expansion) ↔
        ∃ expansion, declaration.expand = .ok expansion) := by
  have first (failure : Failure) : declaration.expand = .error failure ↔ ∃ before field after error,
      declaration.fields = before ++ field :: after ∧ Unoffending before ∧
        field.Offends before error ∧ failure = .refused error := by
    rw [expand_eq_error_iff named]
    constructor
    · rintro ⟨before, field, after, parts, proceed, stops⟩
      obtain ⟨error, offends, rfl⟩ := (stops_iff_of_declarable parts declarable).1 stops
      exact ⟨before, field, after, error, parts,
        (proceed_iff_of_declarable parts declarable).1 proceed, offends, rfl⟩
    · rintro ⟨before, field, after, error, parts, unoffending, offends, rfl⟩
      exact ⟨before, field, after, parts,
        (proceed_iff_of_declarable parts declarable).2 unoffending, .refused offends⟩
  refine ⟨?refused, first, ?repeated, ?reordered⟩
  case refused =>
    have accepted : (∃ failure, declaration.expand = .error failure) ↔
        ¬∃ expansion, declaration.expand = .ok expansion := by
      cases declaration.expand <;> simp
    have fine : ¬(∀ field ∈ declaration.fields, ∀ error, ¬field.Fault error) ↔
        ∃ field ∈ declaration.fields, ∃ error, field.Fault error := by
      simp only [Classical.not_forall, Classical.not_not, exists_prop]
    rw [accepted, exists_expand_iff named, and_iff_right declarable,
      Classical.not_and_iff_not_or_not, fine, not_pairwise_apart_iff]
  case repeated =>
    intro before field after e parts unoffending exposed shared
    obtain ⟨other, mem, same⟩ := shared
    refine (first _).2 ⟨before, field, after, _, parts, unoffending, ?_, rfl⟩
    exact .collision exposed (.name mem same)
  case reordered => exact fun other form => exists_expand_iff_of_perm form named

/-! ## A name given twice -/

/-- Appointments: the name of the first field is given again, and later one with the same
constant. -/
def appointment : Declaration :=
  Example.record "Appointment"
    [Example.declared "created_at" "UInt64" [],
     Example.declared "secret" "String" [.word "skip"],
     Example.declared "moved" "UInt64" [Example.renamed "created_at"],
     Example.declared "entered" "UInt64" [Example.renamed "createdAt"]]

/-- The repeated name is reported, and in no other order would appointments be accepted. -/
theorem refused_in_order_appointment :
    appointment.form = .namedFields ∧
      (∀ e ∈ appointment.exposes, isIdentifier e.constant = true) ∧
      appointment.expand = .error (.refused (.duplicateName "created_at")) ∧
      ∀ fields, fields.Perm appointment.fields →
        ¬∃ expansion, (Example.record "Appointment" fields).expand = .ok expansion := by
  have declarable : ∀ e ∈ appointment.exposes, isIdentifier e.constant = true := by
    have shown : appointment.exposes =
        [⟨"created_at", "CREATED_AT", "created_at", "UInt64", false⟩,
          ⟨"created_at", "CREATED_AT", "moved", "UInt64", false⟩,
          ⟨"createdAt", "CREATED_AT", "entered", "UInt64", false⟩] := rfl
    have identifier : isIdentifier "CREATED_AT" = true := by decide
    simp [shown, identifier]
  obtain ⟨-, -, repeated, reordered⟩ := refused_in_order rfl declarable
  have refused : appointment.expand = .error (.refused (.duplicateName "created_at")) := by
    -- The first two fields are expanded; what the first one exposes has the name of the third.
    have cut := (List.take_append_drop 2 appointment.fields).symm
    have unoffending :=
      (proceed_iff_of_declarable cut declarable).1 (exists_exposeAll_iff.1 ⟨_, rfl⟩)
    exact repeated (appointment.fields.take 2) _ _ _ cut unoffending rfl ⟨_, .head _, rfl⟩
  refine ⟨rfl, declarable, refused, ?_⟩
  intro fields perm accepted
  obtain ⟨expansion, found⟩ := (reordered (Example.record "Appointment" fields) rfl perm).1 accepted
  cases refused.symm.trans found

end Declaration

end RecordFilter.Schema
