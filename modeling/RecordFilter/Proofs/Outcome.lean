set_option autoImplicit false

/-!
# Steps that may fail

A chain of steps gives a result exactly if each of them does. Proofs about readers and decoders take
their chains apart with these equivalences, one step at a time.

Searches through lists ask their items in order and stop at the first that decides; what they answer
says what the items before it answered (`anyM_eq_iff`, `allM_eq_ok_false_iff`), and what the items
behind it would answer does not matter (`anyM_congr_of_asked`).
-/

namespace RecordFilter.Outcome

variable {ε δ α β : Type}

theorem bind_eq_ok_iff {first : Except ε α} {next : α → Except ε β} {result : β} :
    (first >>= next) = .ok result ↔ ∃ value, first = .ok value ∧ next value = .ok result := by
  cases first with
  | error e =>
    constructor
    · intro fails
      cases fails
    · rintro ⟨value, fails, -⟩
      cases fails
  | ok value =>
    constructor
    · exact fun found => ⟨value, rfl, found⟩
    · rintro ⟨value', same, found⟩
      cases same
      exact found

theorem bind_eq_error_iff {first : Except ε α} {next : α → Except ε β} {error : ε} :
    (first >>= next) = .error error ↔
      first = .error error ∨ ∃ value, first = .ok value ∧ next value = .error error := by
  cases first with
  | error e =>
    constructor
    · intro fails
      cases fails
      exact .inl rfl
    · rintro (fails | ⟨value, done, -⟩)
      · cases fails
        rfl
      · cases done
  | ok value =>
    constructor
    · exact fun fails => .inr ⟨value, rfl, fails⟩
    · rintro (fails | ⟨value', same, fails⟩)
      · cases fails
      · cases same
        exact fails

theorem map_eq_ok_iff {first : Except ε α} {f : α → β} {result : β} :
    first.map f = .ok result ↔ ∃ value, first = .ok value ∧ f value = result := by
  cases first with
  | error e => simp [Except.map]
  | ok value => simp [Except.map]

theorem map_eq_error_iff {first : Except ε α} {f : α → β} {error : ε} :
    first.map f = .error error ↔ first = .error error := by
  cases first with
  | error e => simp [Except.map]
  | ok value => simp [Except.map]

theorem mapError_eq_ok_iff {first : Except ε α} {f : ε → δ} {result : α} :
    first.mapError f = .ok result ↔ first = .ok result := by
  cases first with
  | error e =>
    constructor
    · intro fails
      cases fails
    · intro fails
      cases fails
  | ok value =>
    constructor
    · rintro ⟨⟩
      rfl
    · rintro ⟨⟩
      rfl

theorem mapError_eq_error_iff {first : Except ε α} {f : ε → δ} {error : δ} :
    first.mapError f = .error error ↔ ∃ reason, first = .error reason ∧ f reason = error := by
  cases first with
  | error e =>
    constructor
    · rintro ⟨⟩
      exact ⟨e, rfl, rfl⟩
    · rintro ⟨_, ⟨⟩, rfl⟩
      rfl
  | ok value =>
    constructor
    · rintro ⟨⟩
    · rintro ⟨_, ⟨⟩, -⟩

theorem pure_eq_ok_iff {value result : α} :
    (pure value : Except ε α) = .ok result ↔ value = result :=
  ⟨fun same => by cases same; rfl, fun same => congrArg Except.ok same⟩

/-- What fails under one condition only gives a result otherwise. -/
theorem exists_ok_iff_of_error_iff {answer : Except ε α} {refused : Prop} {reason : ε}
    (errors : ∀ error, answer = .error error ↔ refused ∧ error = reason) :
    (∃ value, answer = .ok value) ↔ ¬refused := by
  constructor
  · rintro ⟨value, rfl⟩ holds
    cases (errors reason).2 ⟨holds, rfl⟩
  · intro fine
    cases answer with
    | error error => exact absurd ((errors error).1 rfl).1 fine
    | ok value => exact ⟨value, rfl⟩

/-! ## Steps over lists -/

theorem mapM_map_eq_ok {step : β → Except ε α} {written : α → β} {values : List α}
    (each : ∀ value ∈ values, step (written value) = .ok value) :
    (values.map written).mapM step = .ok values := by
  induction values with
  | nil => rfl
  | cons value values ih =>
    rw [List.map_cons, List.mapM_cons, each value (.head _),
      ih fun other mem => each other (.tail _ mem)]
    rfl

theorem mem_of_mapM_eq_ok {step : α → Except ε β} {inputs : List α} {results : List β}
    (done : inputs.mapM step = .ok results) {result : β} (mem : result ∈ results) :
    ∃ input ∈ inputs, step input = .ok result := by
  induction inputs generalizing results with
  | nil =>
    cases done
    cases mem
  | cons input inputs ih =>
    rw [List.mapM_cons, bind_eq_ok_iff] at done
    obtain ⟨first, found, done⟩ := done
    obtain ⟨others, rest, done⟩ := bind_eq_ok_iff.1 done
    cases done
    rcases List.mem_cons.1 mem with rfl | mem
    · exact ⟨input, .head _, found⟩
    · obtain ⟨other, inside, found⟩ := ih rest mem
      exact ⟨other, .tail _ inside, found⟩

theorem exists_mem_of_mapM_eq_ok {step : α → Except ε β} {inputs : List α} {results : List β}
    (done : inputs.mapM step = .ok results) {input : α} (mem : input ∈ inputs) :
    ∃ result ∈ results, step input = .ok result := by
  induction inputs generalizing results with
  | nil => cases mem
  | cons first inputs ih =>
    rw [List.mapM_cons, bind_eq_ok_iff] at done
    obtain ⟨result, found, done⟩ := done
    obtain ⟨others, rest, done⟩ := bind_eq_ok_iff.1 done
    cases done
    rcases List.mem_cons.1 mem with rfl | mem
    · exact ⟨result, .head _, found⟩
    · obtain ⟨other, inside, found⟩ := ih rest mem
      exact ⟨other, .tail _ inside, found⟩

theorem exists_mapM_eq_ok_iff {step : α → Except ε β} {inputs : List α} :
    (∃ results, inputs.mapM step = .ok results) ↔
      ∀ input ∈ inputs, ∃ result, step input = .ok result := by
  induction inputs with
  | nil => exact ⟨fun _ => List.forall_mem_nil _, fun _ => ⟨[], rfl⟩⟩
  | cons input inputs ih =>
    rw [List.forall_mem_cons, ← ih]
    simp only [List.mapM_cons, bind_eq_ok_iff, pure_eq_ok_iff]
    constructor
    · rintro ⟨-, result, found, others, rest, -⟩
      exact ⟨⟨result, found⟩, others, rest⟩
    · rintro ⟨⟨result, found⟩, others, rest⟩
      exact ⟨_, result, found, others, rest, rfl⟩

/-- What each step of a fold keeps holds at its end. -/
theorem foldlM_eq_ok {step : β → α → Except ε β} {inputs : List α} {start result : β}
    (holds : β → Prop) (keeps : ∀ {before input after},
      holds before → step before input = .ok after → holds after)
    (initially : holds start) (done : inputs.foldlM step start = .ok result) : holds result := by
  induction inputs generalizing start with
  | nil =>
    cases done
    exact initially
  | cons input inputs ih =>
    rw [List.foldlM_cons, bind_eq_ok_iff] at done
    obtain ⟨after, found, done⟩ := done
    exact ih (keeps initially found) done

/-- A fold fails exactly if some step does, from what the steps before it reached. -/
theorem foldlM_eq_error_iff {step : β → α → Except ε β} {inputs : List α} {start : β} {error : ε} :
    inputs.foldlM step start = .error error ↔ ∃ before input after, ∃ reached,
      inputs = before ++ input :: after ∧ before.foldlM step start = .ok reached ∧
        step reached input = .error error := by
  induction inputs generalizing start with
  | nil =>
    constructor
    · intro fails
      cases fails
    · rintro ⟨before, input, after, reached, parts, -⟩
      cases before <;> cases parts
  | cons first rest ih =>
    rw [List.foldlM_cons, bind_eq_error_iff]
    constructor
    · rintro (fails | ⟨next, done, fails⟩)
      · exact ⟨[], first, rest, start, rfl, rfl, fails⟩
      · obtain ⟨before, input, after, reached, rfl, goes, fails⟩ := ih.1 fails
        refine ⟨first :: before, input, after, reached, rfl, ?_, fails⟩
        rw [List.foldlM_cons, bind_eq_ok_iff]
        exact ⟨next, done, goes⟩
    · rintro ⟨before, input, after, reached, parts, goes, fails⟩
      cases before with
      | nil =>
        cases parts
        cases goes
        exact .inl fails
      | cons other before =>
        cases parts
        rw [List.foldlM_cons, bind_eq_ok_iff] at goes
        obtain ⟨next, done, goes⟩ := goes
        exact .inr ⟨next, done, ih.2 ⟨before, input, after, reached, rfl, goes, fails⟩⟩

/-! ## Searches that stop early -/

/-- A search ends with an answer other than no exactly if some item gives it and all before it
answer no. The items behind it are not asked. -/
theorem anyM_eq_iff {ask : α → Except ε Bool} {items : List α} {answer : Except ε Bool}
    (decides : answer ≠ .ok false) :
    items.anyM ask = answer ↔ ∃ before item after, items = before ++ item :: after ∧
      (∀ other ∈ before, ask other = .ok false) ∧ ask item = answer := by
  induction items with
  | nil =>
    constructor
    · intro found
      exact absurd found.symm decides
    · rintro ⟨before, item, after, parts, -⟩
      cases before <;> cases parts
  | cons first rest ih =>
    rw [List.anyM_cons]
    constructor
    · intro found
      rcases asked : ask first with error | _ | _
      · rw [asked] at found
        exact ⟨[], first, rest, rfl, List.forall_mem_nil _, asked.trans found⟩
      · -- A no leaves the answer to the rest.
        rw [asked] at found
        obtain ⟨before, item, after, rfl, no, given⟩ := ih.1 found
        exact ⟨first :: before, item, after, rfl, List.forall_mem_cons.2 ⟨asked, no⟩, given⟩
      · rw [asked] at found
        exact ⟨[], first, rest, rfl, List.forall_mem_nil _, asked.trans found⟩
    · rintro ⟨before, item, after, parts, no, given⟩
      cases before with
      | nil =>
        cases parts
        rw [given]
        rcases answer with error | _ | _
        · rfl
        · exact absurd rfl decides
        · rfl
      | cons other before =>
        cases parts
        obtain ⟨asked, no⟩ := List.forall_mem_cons.1 no
        rw [asked]
        exact ih.2 ⟨before, item, after, rfl, no, given⟩

theorem anyM_eq_ok_true_iff {ask : α → Except ε Bool} {items : List α} :
    items.anyM ask = .ok true ↔ ∃ before item after, items = before ++ item :: after ∧
      (∀ other ∈ before, ask other = .ok false) ∧ ask item = .ok true :=
  anyM_eq_iff nofun

theorem anyM_eq_error_iff {ask : α → Except ε Bool} {items : List α} {error : ε} :
    items.anyM ask = .error error ↔ ∃ before item after, items = before ++ item :: after ∧
      (∀ other ∈ before, ask other = .ok false) ∧ ask item = .error error :=
  anyM_eq_iff nofun

theorem anyM_eq_ok_false_iff {ask : α → Except ε Bool} {items : List α} :
    items.anyM ask = .ok false ↔ ∀ item ∈ items, ask item = .ok false := by
  induction items with
  | nil => exact ⟨fun _ => List.forall_mem_nil _, fun _ => rfl⟩
  | cons first rest ih =>
    rw [List.anyM_cons, bind_eq_ok_iff, List.forall_mem_cons, ← ih]
    constructor
    · rintro ⟨answer, asked, found⟩
      cases answer with
      | true => cases found
      | false => exact ⟨asked, found⟩
    · rintro ⟨asked, found⟩
      exact ⟨false, asked, found⟩

/-- Only the items that are asked matter to a search. -/
theorem anyM_congr_of_asked {ask other : α → Except ε Bool} {items : List α}
    (agree : ∀ before item after, items = before ++ item :: after →
      (∀ earlier ∈ before, ask earlier = .ok false) → other item = ask item) :
    items.anyM other = items.anyM ask := by
  induction items with
  | nil => rfl
  | cons first rest ih =>
    have same : other first = ask first := agree [] first rest rfl (List.forall_mem_nil _)
    rw [List.anyM_cons, List.anyM_cons, same]
    rcases asked : ask first with reason | _ | _
    · rfl
    · -- The search goes on only behind a no, so the rest is asked as it is here.
      apply ih
      intro before item after parts no
      exact agree (first :: before) item after (congrArg (first :: ·) parts)
        (List.forall_mem_cons.2 ⟨asked, no⟩)
    · rfl

theorem map_not_eq_ok_iff {answer : Except ε Bool} {b : Bool} :
    answer.map not = .ok b ↔ answer = .ok (!b) := by
  rw [map_eq_ok_iff]
  constructor
  · rintro ⟨value, rfl, rfl⟩
    rw [Bool.not_not]
  · rintro rfl
    exact ⟨!b, rfl, Bool.not_not b⟩

/-- All answer yes exactly if a search for a no finds nothing. -/
theorem allM_eq_ok_iff {ask : α → Except ε Bool} {items : List α} {b : Bool} :
    items.allM ask = .ok b ↔ items.anyM (fun item => (ask item).map not) = .ok (!b) := by
  rw [List.allM_eq_not_anyM_not]
  exact map_not_eq_ok_iff

theorem allM_eq_ok_true_iff {ask : α → Except ε Bool} {items : List α} :
    items.allM ask = .ok true ↔ ∀ item ∈ items, ask item = .ok true := by
  simp only [allM_eq_ok_iff, Bool.not_true, anyM_eq_ok_false_iff, map_not_eq_ok_iff, Bool.not_false]

theorem allM_eq_ok_false_iff {ask : α → Except ε Bool} {items : List α} :
    items.allM ask = .ok false ↔ ∃ before item after, items = before ++ item :: after ∧
      (∀ other ∈ before, ask other = .ok true) ∧ ask item = .ok false := by
  simp only [allM_eq_ok_iff, Bool.not_true, anyM_eq_ok_true_iff, map_not_eq_ok_iff, Bool.not_false]

theorem allM_eq_error_iff {ask : α → Except ε Bool} {items : List α} {error : ε} :
    items.allM ask = .error error ↔ ∃ before item after, items = before ++ item :: after ∧
      (∀ other ∈ before, ask other = .ok true) ∧ ask item = .error error := by
  have search : items.allM ask = .error error ↔
      items.anyM (fun item => (ask item).map not) = .error error := by
    rw [List.allM_eq_not_anyM_not]
    exact map_eq_error_iff
  simp only [search, anyM_eq_error_iff, map_not_eq_ok_iff, Bool.not_false, map_eq_error_iff]

theorem allM_congr_of_asked {ask other : α → Except ε Bool} {items : List α}
    (agree : ∀ before item after, items = before ++ item :: after →
      (∀ earlier ∈ before, ask earlier = .ok true) → other item = ask item) :
    items.allM other = items.allM ask := by
  rw [List.allM_eq_not_anyM_not, List.allM_eq_not_anyM_not]
  apply congrArg (not <$> ·)
  apply anyM_congr_of_asked
  intro before item after parts no
  have same := agree before item after parts fun earlier mem => map_not_eq_ok_iff.1 (no earlier mem)
  rw [same]

theorem allM_append {ask : α → Except ε Bool} (xs ys : List α) :
    (xs ++ ys).allM ask = xs.allM ask >>= fun all => if all then ys.allM ask else .ok false := by
  induction xs with
  | nil => rfl
  | cons x xs ih =>
    rw [List.cons_append, List.allM_cons, List.allM_cons]
    cases ask x with
    | error e => rfl
    | ok answer =>
      cases answer with
      | true => exact ih
      | false => rfl

end RecordFilter.Outcome
