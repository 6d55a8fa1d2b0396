import RecordFilter.Processor.Pass

set_option autoImplicit false

/-!
# A collection while a pass reads it

`Slots.scan` moves records to the front of the collection that it is still reading. What it has done
when it stands before slot `i` is `Slots.Progress`: the slots below `retained` hold the page of the
matches before `i`, the slots from `i` on hold what they held at first, no record is lost or
doubled, and the three counters are functions of the number of matches so far.

`Slots.Progress` holds at the start and is kept by each slot that is read (`Progress.discard`,
`Progress.keep`), so it holds wherever a pass ends (`Slots.scan_progress`): behind the last slot if
every record can be evaluated, else before the first record that cannot.
-/

namespace RecordFilter

variable {α ε : Type}

/-! ## Records by their answers -/

/-- Whether a record is evaluated and matches. -/
def selects (accept : α → Except ε Bool) (record : α) : Bool :=
  match accept record with
  | .ok matched => matched
  | .error _ => false

/-- The records that match, in their order. -/
def matching (accept : α → Except ε Bool) (records : List α) : List α :=
  records.filter (selects accept)

/-- At most `length` records after the first `offset`. -/
def window (offset length : Nat) (records : List α) : List α :=
  (records.drop offset).take length

/-- No record fails to be evaluated. -/
def Evaluable (accept : α → Except ε Bool) (records : List α) : Prop :=
  ∀ record ∈ records, ∃ matched, accept record = .ok matched

/-- The record at `index` fails to be evaluated, and none before it does. -/
structure FirstFailure (accept : α → Except ε Bool) (records : List α) (index : Nat)
    (error : ε) : Prop where
  before : Evaluable accept (records.take index)
  fails : ∃ record, records[index]? = some record ∧ accept record = .error error

theorem matching_append (accept : α → Except ε Bool) (xs ys : List α) :
    matching accept (xs ++ ys) = matching accept xs ++ matching accept ys :=
  List.filter_append ..

theorem matching_of_ok {accept : α → Except ε Bool} {record : α} {matched : Bool}
    (answer : accept record = .ok matched) :
    matching accept [record] = if matched then [record] else [] := by
  simp [matching, selects, answer, List.filter_cons]

theorem Evaluable.append {accept : α → Except ε Bool} {xs ys : List α}
    (hxs : Evaluable accept xs) (hys : Evaluable accept ys) : Evaluable accept (xs ++ ys) := by
  intro record mem
  rcases List.mem_append.1 mem with mem | mem
  · exact hxs record mem
  · exact hys record mem

theorem Evaluable.of_ok {accept : α → Except ε Bool} {record : α} {matched : Bool}
    (answer : accept record = .ok matched) : Evaluable accept [record] := by
  intro other mem
  rw [List.mem_singleton.1 mem]
  exact ⟨matched, answer⟩

/-- A collection whose records can all be evaluated has no first one that cannot. -/
theorem FirstFailure.not_evaluable {accept : α → Except ε Bool} {records : List α} {index : Nat}
    {error : ε} (failure : FirstFailure accept records index error) :
    ¬Evaluable accept records := by
  intro evaluable
  obtain ⟨record, at_index, fails⟩ := failure.fails
  obtain ⟨matched, answer⟩ := evaluable record (List.mem_of_getElem? at_index)
  rw [answer] at fails
  cases fails

/-- There is at most one first failing record. -/
theorem FirstFailure.unique {accept : α → Except ε Bool} {records : List α} {i j : Nat} {d e : ε}
    (first : FirstFailure accept records i d) (second : FirstFailure accept records j e) :
    i = j ∧ d = e := by
  -- The earlier one would be among the records before the later one, which can all be
  -- evaluated.
  have not_before : ∀ {i j : Nat} {d e : ε}, FirstFailure accept records i d →
      FirstFailure accept records j e → ¬i < j := by
    intro i j d e first second lt
    obtain ⟨record, at_index, fails⟩ := first.fails
    have mem : record ∈ records.take j :=
      List.mem_of_getElem? (by rw [List.getElem?_take_of_lt lt]; exact at_index)
    obtain ⟨matched, answer⟩ := second.before record mem
    rw [answer] at fails
    cases fails
  have same : i = j := by
    have := not_before first second
    have := not_before second first
    omega
  subst same
  obtain ⟨record, at_index, fails⟩ := first.fails
  obtain ⟨other, at_index', fails'⟩ := second.fails
  rw [at_index, Option.some.injEq] at at_index'
  rw [← at_index', fails, Except.error.injEq] at fails'
  exact ⟨rfl, fails'⟩

/-! ## Windows that grow -/

theorem length_window (offset length : Nat) (records : List α) :
    (window offset length records).length = min length (records.length - offset) := by
  simp [window]

theorem window_append_before {offset : Nat} (length : Nat) {records : List α} (record : α)
    (lt : records.length < offset) : window offset length (records ++ [record]) = [] := by
  have short : (records ++ [record]).length ≤ offset := by
    rw [List.length_append, List.length_singleton]
    omega
  rw [window, List.drop_eq_nil_of_le short, List.take_nil]

theorem window_append_within {offset length : Nat} {records : List α} (record : α)
    (le : offset ≤ records.length) (lt : records.length - offset < length) :
    window offset length (records ++ [record]) = window offset length records ++ [record] := by
  have room : (records.drop offset ++ [record]).length ≤ length := by
    rw [List.length_append, List.length_drop, List.length_singleton]
    omega
  have room' : (records.drop offset).length ≤ length := by
    rw [List.length_drop]
    omega
  rw [window, List.drop_append_of_le_length le, List.take_of_length_le room, window,
    List.take_of_length_le room']

theorem window_append_after {offset length : Nat} {records : List α} (record : α)
    (le : offset ≤ records.length) (full : length ≤ records.length - offset) :
    window offset length (records ++ [record]) = window offset length records := by
  have full' : length ≤ (records.drop offset).length := by
    rw [List.length_drop]
    exact full
  rw [window, List.drop_append_of_le_length le, List.take_append_of_le_length full', window]

theorem take_add_one_of_getElem? {records : List α} {i : Nat} {record : α}
    (at_index : records[i]? = some record) : records.take (i + 1) = records.take i ++ [record] := by
  rw [List.take_add_one, at_index, Option.toList_some]

/-! ## Swapping a record to the front -/

theorem toList_swapIfInBounds {items : Array α} {front i : Nat}
    (front_lt : front < items.toList.length)
    (lt : i < items.toList.length) :
    (items.swapIfInBounds front i).toList =
      (items.toList.set front items.toList[i]).set i items.toList[front] := by
  have front_lt' : front < items.size := front_lt
  have lt' : i < items.size := lt
  rw [Array.swapIfInBounds_def, dif_pos front_lt', dif_pos lt', Array.swap]
  simp

theorem swapIfInBounds_perm (items : Array α) (front i : Nat) :
    (items.swapIfInBounds front i).toList.Perm items.toList := by
  rw [Array.swapIfInBounds_def]
  split
  · split
    · exact (Array.swap_perm _ _).toList
    · exact List.Perm.refl _
  · exact List.Perm.refl _

theorem drop_swapIfInBounds {items : Array α} {front i : Nat} (le : front ≤ i)
    (lt : i < items.toList.length) :
    (items.swapIfInBounds front i).toList.drop (i + 1) = items.toList.drop (i + 1) := by
  rw [toList_swapIfInBounds (Nat.lt_of_le_of_lt le lt) lt, List.drop_set_of_lt (by omega),
    List.drop_set_of_lt (by omega)]

theorem take_swapIfInBounds {items : Array α} {front i : Nat} (le : front ≤ i)
    (lt : i < items.toList.length) :
    (items.swapIfInBounds front i).toList.take (front + 1) =
      items.toList.take front ++ [items.toList[i]] := by
  have front_lt : front < items.toList.length := Nat.lt_of_le_of_lt le lt
  rw [toList_swapIfInBounds front_lt lt]
  -- The slot at the front may be the one that was read.
  rcases Nat.eq_or_lt_of_le le with rfl | before
  · rw [List.set_set, List.take_succ_eq_append_getElem (by simpa using lt), List.getElem_set_self,
      List.take_set_of_le (Nat.le_refl _)]
  · rw [List.take_set_of_le before, List.take_succ_eq_append_getElem (by simpa using front_lt),
      List.getElem_set_self, List.take_set_of_le (Nat.le_refl _)]

namespace Slots

/-! ## The invariant -/

/-- What a pass over `original` has done when it stands before slot `i`. -/
structure Progress (accept : α → Except Error Bool) (original : List α)
    (offset length i : Nat) (slots : Slots α) : Prop where
  evaluable : Evaluable accept (original.take i)
  perm : slots.items.toList.Perm original
  unread : slots.items.toList.drop i = original.drop i
  page : slots.items.toList.take slots.retained =
    window offset length (matching accept (original.take i))
  total : slots.total = (matching accept (original.take i)).length
  skip : slots.skip = offset - slots.total
  retained : slots.retained = min length (slots.total - offset)

variable {accept : α → Except Error Bool} {original : List α} {offset length i : Nat}
  {slots : Slots α} {record : α}

theorem Progress.start (accept : α → Except Error Bool) (items : Array α)
    (offset length : Nat) :
    Progress accept items.toList offset length 0 (Slots.start items offset) where
  evaluable := fun _ mem => absurd mem List.not_mem_nil
  perm := List.Perm.refl _
  unread := rfl
  page := by simp [Slots.start, matching, window]
  total := by simp [Slots.start, matching]
  skip := rfl
  retained := by simp [Slots.start]

/-- The record in the next slot is the one that was there at first. -/
theorem Progress.getElem? (progress : Progress accept original offset length i slots) :
    slots.items[i]? = original[i]? := by
  have heads := congrArg List.head? progress.unread
  rw [List.head?_drop, List.head?_drop] at heads
  simpa using heads

/-- The page does not reach the slot that is read next. -/
theorem Progress.retained_le (progress : Progress accept original offset length i slots) :
    slots.retained ≤ i := by
  have matches_le : (matching accept (original.take i)).length ≤ (original.take i).length :=
    List.length_filter_le ..
  have := progress.retained
  have := progress.total
  rw [List.length_take] at matches_le
  omega

theorem Progress.drop_succ (progress : Progress accept original offset length i slots) :
    slots.items.toList.drop (i + 1) = original.drop (i + 1) := by
  have tails := congrArg List.tail progress.unread
  rwa [List.tail_drop, List.tail_drop] at tails

/-- A record that does not match stays where it is. -/
theorem Progress.discard (progress : Progress accept original offset length i slots)
    (at_slot : original[i]? = some record) (answer : accept record = .ok false) :
    Progress accept original offset length (i + 1) slots := by
  have grown := take_add_one_of_getElem? at_slot
  have same : matching accept (original.take (i + 1)) = matching accept (original.take i) := by
    rw [grown, matching_append, matching_of_ok answer]
    exact List.append_nil _
  exact {
    evaluable := by
      rw [grown]
      exact progress.evaluable.append (.of_ok answer)
    perm := progress.perm
    unread := progress.drop_succ
    page := by rw [same, progress.page]
    total := by rw [same, progress.total]
    skip := progress.skip
    retained := progress.retained }

/-- A record that matches is skipped, put on the page or only counted. -/
theorem Progress.keep (progress : Progress accept original offset length i slots)
    (at_slot : original[i]? = some record) (answer : accept record = .ok true) :
    Progress accept original offset length (i + 1) (slots.keep length i) := by
  have grown := take_add_one_of_getElem? at_slot
  have evaluable : Evaluable accept (original.take (i + 1)) := by
    rw [grown]
    exact progress.evaluable.append (.of_ok answer)
  have more : matching accept (original.take (i + 1)) =
      matching accept (original.take i) ++ [record] := by
    rw [grown, matching_append, matching_of_ok answer, if_pos rfl]
  have total : slots.total + 1 = (matching accept (original.take (i + 1))).length := by
    rw [more, List.length_append, progress.total, List.length_singleton]
  have skip := progress.skip
  have retained := progress.retained
  have count := progress.total
  rw [Slots.keep]
  split
  case isTrue skipping =>
    -- Skipping ends before the page begins, so the page is still empty.
    have none_kept : slots.retained = 0 := by omega
    exact {
      evaluable := evaluable
      perm := progress.perm
      unread := progress.drop_succ
      page := by
        show slots.items.toList.take slots.retained = _
        rw [none_kept, List.take_zero, more, window_append_before length record (by omega)]
      total := total
      skip := by show slots.skip - 1 = offset - (slots.total + 1); omega
      retained := by show slots.retained = min length (slots.total + 1 - offset); omega }
  case isFalse skipped =>
    split
    case isTrue room =>
      -- The record takes its own slot, or that of one that was read before and is not kept.
      have lt : i < slots.items.toList.length := by
        rw [progress.perm.length_eq]
        exact (List.getElem?_eq_some_iff.1 at_slot).1
      have here : slots.items.toList[i] = record := by
        have found := progress.getElem?.trans at_slot
        rw [← Array.getElem?_toList, List.getElem?_eq_getElem lt, Option.some.injEq] at found
        exact found
      exact {
        evaluable := evaluable
        perm := (swapIfInBounds_perm ..).trans progress.perm
        unread := (drop_swapIfInBounds progress.retained_le lt).trans progress.drop_succ
        page := by
          show (slots.items.swapIfInBounds slots.retained i).toList.take (slots.retained + 1) = _
          rw [take_swapIfInBounds progress.retained_le lt, here, progress.page, more,
            window_append_within record (by omega) (by omega)]
        total := total
        skip := by show slots.skip = offset - (slots.total + 1); omega
        retained := by show slots.retained + 1 = min length (slots.total + 1 - offset); omega }
    case isFalse full =>
      exact {
        evaluable := evaluable
        perm := progress.perm
        unread := progress.drop_succ
        page := by
          show slots.items.toList.take slots.retained = _
          rw [progress.page, more]
          -- The page has its full length: with room left the test before would have succeeded.
          rcases Nat.lt_or_ge (slots.total - offset) length with lt | ge
          · omega
          · rw [window_append_after record (by omega) (by omega)]
        total := total
        skip := by show slots.skip = offset - (slots.total + 1); omega
        retained := by show slots.retained = min length (slots.total + 1 - offset); omega }

/-! ## Whole runs -/

/-- A run over all slots that are left ends behind the last one, or before the first record that
cannot be evaluated. -/
theorem scan_progress {count : Nat} (progress : Progress accept original offset length i slots)
    (rest : i + count = original.length) :
    (∃ done, slots.scan accept length count i = (done, none) ∧
        Progress accept original offset length original.length done) ∨
      ∃ stopped index error, slots.scan accept length count i = (stopped, some (index, error)) ∧
        Progress accept original offset length index stopped ∧
        FirstFailure accept original index error := by
  -- The induction is on the number of slots left. The slots from `i` on are still the original
  -- ones, so the answer for slot `i` is the answer for the original record there.
  induction count generalizing i slots with
  | zero =>
    have here : i = original.length := by omega
    subst here
    exact .inl ⟨slots, rfl, progress⟩
  | succ count ih =>
    have lt : i < original.length := by omega
    have at_slot : original[i]? = some original[i] := List.getElem?_eq_getElem lt
    have next : i + 1 + count = original.length := by omega
    rw [scan, progress.getElem?, at_slot]
    cases answer : accept original[i] with
    | error error =>
      exact .inr ⟨slots, i, error, by simp only [answer], progress, progress.evaluable,
        original[i], at_slot, answer⟩
    | ok matched =>
      cases matched with
      | false =>
        simp only [answer]
        exact ih (progress.discard at_slot answer) next
      | true =>
        simp only [answer]
        exact ih (progress.keep at_slot answer) next

end Slots

end RecordFilter
