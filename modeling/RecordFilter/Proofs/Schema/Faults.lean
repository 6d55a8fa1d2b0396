import RecordFilter.Proofs.Outcome
import RecordFilter.Schema.Declaration

set_option autoImplicit false

/-!
# Faults of filter attributes

What is wrong with the attributes of a field is said here without the order in which they are read:
an option can be faulty by itself (`FilterOption.Fault`), and a field that has no faulty option can
still have too many filter attributes, one that holds no options at all, or options that exclude
each other (`FieldDeclaration.Fault`). A field is refused exactly if it is faulty, with the fault
for the error (`FieldDeclaration.filter_eq_error_iff`).
-/

namespace RecordFilter.Schema

open Outcome

/-! ## Options -/

/-- What is wrong with an option, whatever the others are. -/
inductive FilterOption.Fault : FilterOption → DeclarationError → Prop where
  | word {path : String} (skip : path ≠ "skip") (nested : path ≠ "nested") :
      Fault (.word path) .unknownOption
  | assigned {path : String} {value : Literal} (rename : path ≠ "rename") :
      Fault (.assigned path value) .unknownOption
  | called (path : String) : Fault (.called path) .unknownOption
  | notText : Fault (.assigned "rename" .other) .nameNotText
  | unusable {name : String} (bad : name = "" ∨ '.' ∈ name.toList) :
      Fault (.assigned "rename" (.text name)) .nameUnusable

/-- An option that says something about the field. -/
def FilterOption.Fine (option : FilterOption) : Prop := ∀ error, ¬option.Fault error

namespace FieldFilter

variable {seen next : FieldFilter} {option : FilterOption} {options : List FilterOption}
  {error : DeclarationError}

theorem isUsableName_eq_false_iff {name : String} :
    isUsableName name = false ↔ name = "" ∨ '.' ∈ name.toList := by
  rw [isUsableName, Bool.and_eq_false_iff, Bool.not_eq_false', List.contains_iff_mem]
  exact or_congr_left (by simp)

theorem add_of_fault (fault : option.Fault error) : seen.add option = .error error := by
  cases fault with
  | word skip nested => rw [add, if_neg skip, if_neg nested]
  | assigned rename => simp [add, rename]
  | called path => rfl
  | notText => rfl
  | unusable bad => simp [add, isUsableName_eq_false_iff.2 bad]

/-- What an option that is not refused does to the filter. -/
structure Adds (seen : FieldFilter) (option : FilterOption) (next : FieldFilter) : Prop where
  hidden : next.hidden = true ↔ seen.hidden = true ∨ option = .word "skip"
  nested : next.nested = true ↔ seen.nested = true ∨ option = .word "nested"
  name : next.name.isSome = true ↔
    seen.name.isSome = true ∨ ∃ value, option = .assigned "rename" value

/-- An option has a fault, or what it says is added to the filter. -/
theorem add_cases (seen : FieldFilter) (option : FilterOption) :
    (∃ error, option.Fault error) ∨ ∃ next, seen.add option = .ok next ∧ Adds seen option next := by
  cases option with
  | word path =>
    by_cases skip : path = "skip"
    · subst skip
      exact .inr ⟨{ seen with hidden := true }, rfl, by simp, by simp, by simp⟩
    · by_cases nested : path = "nested"
      · subst nested
        exact .inr ⟨{ seen with nested := true }, rfl, by simp, by simp, by simp⟩
      · exact .inl ⟨_, .word skip nested⟩
  | assigned path value =>
    by_cases rename : path = "rename"
    · subst rename
      cases value with
      | text name =>
        cases usable : isUsableName name with
        | true =>
          refine .inr ⟨{ seen with name := some name }, ?_, by simp, by simp, by simp⟩
          simp [add, usable]
        | false => exact .inl ⟨_, .unusable (isUsableName_eq_false_iff.1 usable)⟩
      | other => exact .inl ⟨_, .notText⟩
    · exact .inl ⟨_, .assigned rename⟩
  | called path => exact .inl ⟨_, .called path⟩

/-- An option is refused for its own fault, whatever has been seen before it. -/
theorem add_eq_error_iff : seen.add option = .error error ↔ option.Fault error := by
  constructor
  · intro refused
    rcases add_cases seen option with ⟨other, fault⟩ | ⟨next, added, -⟩
    · cases refused.symm.trans (add_of_fault fault)
      exact fault
    · cases refused.symm.trans added
  · exact add_of_fault

theorem adds_of_add (added : seen.add option = .ok next) : Adds seen option next := by
  rcases add_cases seen option with ⟨error, fault⟩ | ⟨other, added', adds⟩
  · cases added.symm.trans (add_of_fault fault)
  · cases added.symm.trans added'
    exact adds

/-! ## Lists of options -/

/-- Options are read to the end exactly if none of them is faulty. -/
theorem exists_foldlM_add_iff (seen : FieldFilter) :
    (∃ filter, options.foldlM add seen = .ok filter) ↔ ∀ option ∈ options, option.Fine := by
  -- Whether an option is refused does not depend on the filter so far, which changes from step to
  -- step.
  induction options generalizing seen with
  | nil => exact ⟨fun _ => List.forall_mem_nil _, fun _ => ⟨seen, rfl⟩⟩
  | cons first rest ih =>
    rw [List.forall_mem_cons]
    rcases add_cases seen first with ⟨error, fault⟩ | ⟨next, added, -⟩
    · constructor
      · rintro ⟨filter, read⟩
        rw [List.foldlM_cons, add_of_fault fault] at read
        cases read
      · rintro ⟨fine, -⟩
        exact absurd fault (fine error)
    · have fine : first.Fine := by
        intro error fault
        cases added.symm.trans (add_of_fault fault)
      rw [List.foldlM_cons, added, and_iff_right fine, ← ih next]
      rfl

/-- The first faulty option is the one that is refused. -/
theorem foldlM_add_eq_error_iff :
    options.foldlM add seen = .error error ↔ ∃ before option after,
      options = before ++ option :: after ∧ (∀ earlier ∈ before, earlier.Fine) ∧
        option.Fault error := by
  simp only [foldlM_eq_error_iff, add_eq_error_iff]
  constructor
  · rintro ⟨before, option, after, reached, parts, read, fault⟩
    exact ⟨before, option, after, parts, (exists_foldlM_add_iff seen).1 ⟨reached, read⟩, fault⟩
  · rintro ⟨before, option, after, parts, fine, fault⟩
    obtain ⟨reached, read⟩ := (exists_foldlM_add_iff seen).2 fine
    exact ⟨before, option, after, reached, parts, read, fault⟩

/-- What options say when all of them are read. -/
theorem said_of_foldlM_add {filter : FieldFilter} (read : options.foldlM add seen = .ok filter) :
    (filter.hidden = true ↔ seen.hidden = true ∨ .word "skip" ∈ options) ∧
      (filter.nested = true ↔ seen.nested = true ∨ .word "nested" ∈ options) ∧
      (filter.name.isSome = true ↔
        seen.name.isSome = true ∨ ∃ value, .assigned "rename" value ∈ options) := by
  induction options generalizing seen with
  | nil =>
    cases read
    simp
  | cons first rest ih =>
    rw [List.foldlM_cons, bind_eq_ok_iff] at read
    obtain ⟨next, added, read⟩ := read
    obtain ⟨hidden, nested, name⟩ := ih read
    have adds := adds_of_add added
    rw [hidden, nested, name, adds.hidden, adds.nested, adds.name]
    simp only [List.mem_cons, or_assoc, exists_or, eq_comm, and_self]

end FieldFilter

/-! ## Fields -/

namespace FieldDeclaration

variable {field : FieldDeclaration} {error : DeclarationError}

/-- The attributes of the field that are about filtering. -/
def filters (field : FieldDeclaration) : List FieldAttribute :=
  field.attributes.filter FieldAttribute.isFilter

/-- What is wrong with the filter attributes of a field: there are several, or the only one has no
parentheses, something unreadable in place of options, a faulty option, or options beside the one
that hides the field. Of several faulty options the first counts. -/
inductive Fault (field : FieldDeclaration) : DeclarationError → Prop where
  | repeated {first second : FieldAttribute} {others : List FieldAttribute}
      (several : field.filters = first :: second :: others) : Fault field .repeatedFilter
  | bare (only : field.filters = [.bareFilter]) : Fault field .bareFilter
  | unreadable {reason : String} (only : field.filters = [.unreadableFilter reason]) :
      Fault field (.unreadableFilter reason)
  | option {before after : List FilterOption} {option : FilterOption} {error : DeclarationError}
      (only : field.filters = [.filter (before ++ option :: after)])
      (fine : ∀ earlier ∈ before, earlier.Fine) (fault : option.Fault error) : Fault field error
  | hidden {options : List FilterOption} (only : field.filters = [.filter options])
      (fine : ∀ option ∈ options, option.Fine) (hides : .word "skip" ∈ options)
      (others : .word "nested" ∈ options ∨ ∃ value, .assigned "rename" value ∈ options) :
      Fault field .hiddenWithOptions

end FieldDeclaration

/-- The options of an attribute are refused for the first faulty one, or all together. -/
theorem FieldFilter.ofOptions_eq_error_iff {options : List FilterOption}
    {error : DeclarationError} :
    ofOptions options = .error error ↔
      (∃ before option after, options = before ++ option :: after ∧
        (∀ earlier ∈ before, earlier.Fine) ∧ option.Fault error) ∨
      ((∀ option ∈ options, option.Fine) ∧ .word "skip" ∈ options ∧
        (.word "nested" ∈ options ∨ ∃ value, .assigned "rename" value ∈ options) ∧
          error = .hiddenWithOptions) := by
  rw [ofOptions, bind_eq_error_iff, foldlM_add_eq_error_iff]
  apply or_congr_right
  -- When all options are read, what they say decides whether they exclude each other.
  have excluded {filter : FieldFilter} (read : options.foldlM add plain = .ok filter) :
      (filter.hidden && (filter.nested || filter.name.isSome)) = true ↔ .word "skip" ∈ options ∧
        (.word "nested" ∈ options ∨ ∃ value, .assigned "rename" value ∈ options) := by
    obtain ⟨hidden, nested, name⟩ := said_of_foldlM_add read
    rw [Bool.and_eq_true, Bool.or_eq_true, hidden, nested, name]
    simp [plain]
  constructor
  · rintro ⟨filter, read, refused⟩
    split at refused
    case isTrue both =>
      obtain ⟨hides, others⟩ := (excluded read).1 both
      cases refused
      exact ⟨(exists_foldlM_add_iff plain).1 ⟨filter, read⟩, hides, others, rfl⟩
    case isFalse => cases refused
  · rintro ⟨fine, hides, others, rfl⟩
    obtain ⟨filter, read⟩ := (exists_foldlM_add_iff plain).2 fine
    refine ⟨filter, read, ?_⟩
    rw [if_pos ((excluded read).2 ⟨hides, others⟩)]
    rfl

namespace FieldDeclaration

variable {field : FieldDeclaration} {error : DeclarationError}

/-- The attributes of a field are refused exactly if they are faulty. -/
theorem filter_eq_error_iff : field.filter = .error error ↔ field.Fault error := by
  have filters : field.filters = field.attributes.filter FieldAttribute.isFilter := rfl
  rw [FieldDeclaration.filter, ← filters]
  constructor
  · intro refused
    split at refused
    case h_1 => cases refused
    case h_2 only single =>
      cases only with
      | filter options =>
        rcases FieldFilter.ofOptions_eq_error_iff.1 refused with
          ⟨before, option, after, rfl, fine, fault⟩ | ⟨fine, hides, others, rfl⟩
        · exact .option single fine fault
        · exact .hidden single fine hides others
      | bareFilter =>
        cases refused
        exact .bare single
      | unreadableFilter reason =>
        cases refused
        exact .unreadable single
      | other => cases refused
    case h_3 none single =>
      cases refused
      cases parts : field.filters with
      | nil => exact absurd parts none
      | cons first others =>
        cases others with
        | nil => exact absurd parts (single first)
        | cons second others => exact .repeated parts
  · intro fault
    cases fault with
    | repeated several => rw [several]
    | bare only =>
      rw [only]
      rfl
    | unreadable only =>
      rw [only]
      rfl
    | option only fine fault =>
      rw [only]
      exact FieldFilter.ofOptions_eq_error_iff.2 (.inl ⟨_, _, _, rfl, fine, fault⟩)
    | hidden only fine hides others =>
      rw [only]
      exact FieldFilter.ofOptions_eq_error_iff.2 (.inr ⟨fine, hides, others, rfl⟩)

end FieldDeclaration

end RecordFilter.Schema
