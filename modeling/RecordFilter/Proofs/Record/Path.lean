import RecordFilter.Proofs.Outcome
import RecordFilter.Record.Path

set_option autoImplicit false

/-!
# Paths and their segments

The segments of a well-formed path make that path again, and plain segments are those of the path
that they make (`segments_eq_ok_iff`). So the path behind the first segment is well formed, and its
segments are the other ones (`segments_join_of_segments`): who asks for a path step by step never
meets an empty segment that was not there at first. A path that is not well formed has an empty text
between its dots (`segments_eq_error_iff`).
-/

namespace RecordFilter.Path

open Outcome

/-! ## Dots -/

/-- The text of parts with a dot before each but the first. -/
def joinDots (part : List Char) (parts : List (List Char)) : List Char :=
  part ++ parts.flatMap ('.' :: ·)

theorem splitDots_dot (rest : List Char) :
    splitDots ('.' :: rest) = ([], (splitDots rest).1 :: (splitDots rest).2) :=
  rfl

theorem splitDots_cons {c : Char} (ne : c ≠ '.') (rest : List Char) :
    splitDots (c :: rest) = (c :: (splitDots rest).1, (splitDots rest).2) :=
  if_neg ne

theorem splitDots_append {part : List Char} (plain : '.' ∉ part) (rest : List Char) :
    splitDots (part ++ rest) = (part ++ (splitDots rest).1, (splitDots rest).2) := by
  induction part with
  | nil => rfl
  | cons c part ih =>
    have ne : c ≠ '.' := fun same => plain (by rw [same]; exact .head _)
    rw [List.cons_append, splitDots_cons ne, ih fun mem => plain (.tail _ mem)]
    rfl

theorem splitDots_joinDots {part : List Char} {parts : List (List Char)}
    (plain : ∀ p ∈ part :: parts, '.' ∉ p) : splitDots (joinDots part parts) = (part, parts) := by
  induction parts generalizing part with
  | nil =>
    rw [joinDots, splitDots_append (plain part (.head _))]
    exact congrArg (·, []) (List.append_nil part)
  | cons next parts ih =>
    have joined : joinDots part (next :: parts) = part ++ '.' :: joinDots next parts := rfl
    rw [joined, splitDots_append (plain part (.head _)), splitDots_dot,
      ih fun p mem => plain p (.tail _ mem), List.append_nil]

theorem joinDots_splitDots (text : List Char) :
    joinDots (splitDots text).1 (splitDots text).2 = text := by
  induction text with
  | nil => rfl
  | cons c rest ih =>
    by_cases dot : c = '.'
    · subst dot
      exact congrArg ('.' :: ·) ih
    · rw [splitDots_cons dot]
      exact congrArg (c :: ·) ih

theorem plain_splitDots (text : List Char) :
    ∀ p ∈ (splitDots text).1 :: (splitDots text).2, '.' ∉ p := by
  induction text with
  | nil => exact List.forall_mem_singleton.2 List.not_mem_nil
  | cons c rest ih =>
    by_cases dot : c = '.'
    · subst dot
      exact List.forall_mem_cons.2 ⟨List.not_mem_nil, ih⟩
    · obtain ⟨first, others⟩ := List.forall_mem_cons.1 ih
      rw [splitDots_cons dot]
      exact List.forall_mem_cons.2 ⟨List.not_mem_cons_of_ne_of_not_mem (Ne.symm dot) first, others⟩

/-! ## Segments -/

/-- A text that can stand between the dots of a well-formed path. -/
def IsSegment (text : String) : Prop := text ≠ "" ∧ '.' ∉ text.toList

theorem toList_join (first : String) (rest : List String) :
    (join first rest).toList = joinDots first.toList (rest.map String.toList) := by
  induction rest generalizing first with
  | nil => exact (List.append_nil first.toList).symm
  | cons next rest ih =>
    have dot : ".".toList = ['.'] := rfl
    rw [join, List.foldl_cons, ← join, ih, String.toList_append, String.toList_append, dot,
      joinDots, joinDots, List.map_cons, List.flatMap_cons, List.append_assoc, List.append_assoc]
    rfl

theorem isSegment_ofList_iff {part : List Char} :
    IsSegment (String.ofList part) ↔ part.isEmpty = false ∧ '.' ∉ part := by
  rw [IsSegment, String.toList_ofList, Ne, String.ofList_eq_empty_iff, List.isEmpty_eq_false_iff]

/-- A path has certain segments exactly if it is made of them and each can stand between dots. -/
theorem segments_eq_ok_iff {path first : String} {rest : List String} :
    segments path = .ok (first, rest) ↔
      (∀ segment ∈ first :: rest, IsSegment segment) ∧ path = join first rest := by
  constructor
  · intro found
    rw [segments] at found
    dsimp only at found
    split at found
    case isTrue empty => cases found
    case isFalse full =>
      cases found
      constructor
      · rw [← List.map_cons]
        refine List.forall_mem_map.2 fun part mem => isSegment_ofList_iff.2 ⟨?_, ?_⟩
        · exact Bool.eq_false_iff.2 fun empty => full (List.any_eq_true.2 ⟨part, mem, empty⟩)
        · exact plain_splitDots path.toList part mem
      · apply String.toList_injective
        have texts : ((splitDots path.toList).2.map String.ofList).map String.toList =
            (splitDots path.toList).2 := by
          simp [Function.comp_def]
        rw [toList_join, String.toList_ofList, texts, joinDots_splitDots]
  · rintro ⟨plain, rfl⟩
    have parts : splitDots (join first rest).toList = (first.toList, rest.map String.toList) := by
      rw [toList_join]
      apply splitDots_joinDots
      rw [← List.map_cons]
      exact List.forall_mem_map.2 fun segment mem => (plain segment mem).2
    have full : ((first.toList :: rest.map String.toList).any List.isEmpty) = false := by
      rw [← List.map_cons, List.any_map, List.any_eq_false]
      intro segment mem empty
      exact (plain segment mem).1 (String.toList_eq_nil_iff.1 (List.isEmpty_iff.1 empty))
    have texts : (rest.map String.toList).map String.ofList = rest := by
      simp [Function.comp_def]
    rw [segments, parts]
    simp only [full, String.ofList_toList, texts]
    rfl

/-- What stands behind the first segment of a path has the other segments. -/
theorem segments_join_of_segments {path first next : String} {rest : List String}
    (found : segments path = .ok (first, next :: rest)) :
    segments (join next rest) = .ok (next, rest) := by
  obtain ⟨plain, -⟩ := segments_eq_ok_iff.1 found
  exact segments_eq_ok_iff.2 ⟨fun segment mem => plain segment (.tail _ mem), rfl⟩

/-! ## Cutting -/

/-- The path behind the first segment is made of the other segments. -/
theorem toList_join_cons (first next : String) (more : List String) :
    (join first (next :: more)).toList = first.toList ++ '.' :: (join next more).toList := by
  rw [toList_join, toList_join]
  rfl

theorem length_join_cons (first next : String) (more : List String) :
    (join next more).length < (join first (next :: more)).length := by
  rw [← String.length_toList, ← String.length_toList, toList_join_cons, List.length_append,
    List.length_cons]
  omega

/-! ## Empty segments -/

/-- Some text between the dots of a path is empty. -/
def HasEmptySegment (path : String) : Prop := [] ∈ path.toList.splitOn '.'

theorem splitOn_dot (text : List Char) :
    text.splitOn '.' = (splitDots text).1 :: (splitDots text).2 := by
  induction text with
  | nil => rfl
  | cons c rest ih =>
    rw [List.splitOn_cons_eq_if_modifyHead, ih]
    by_cases dot : c = '.'
    · subst dot
      rfl
    · rw [splitDots_cons dot, if_neg (by simpa using dot)]
      rfl

/-- A path has no segments exactly if one of them is empty, and the error names the whole path. -/
theorem segments_eq_error_iff {path : String} {error : Error} :
    segments path = .error error ↔ HasEmptySegment path ∧ error = .malformedPath path := by
  have empty : ((splitDots path.toList).1 :: (splitDots path.toList).2).any List.isEmpty = true ↔
      HasEmptySegment path := by
    rw [HasEmptySegment, splitOn_dot, List.any_eq_true]
    simp
  rw [← empty, segments]
  dsimp only
  split
  case isTrue holds => simp [holds, eq_comm]
  case isFalse full => simp [full]

end RecordFilter.Path
