import RecordFilter.Proofs.Processor.Sequence

set_option autoImplicit false

/-!
# Page after page

Passes over copies of one collection, with offsets that advance by the length of a page, leave pages
that follow each other without gap or overlap (`pages_tile`). Every page but the last is full, all
report the same number of matches, and a page that is filtered again stays as it is.
-/

namespace RecordFilter

variable {α : Type}

/-! ## Offsets -/

/-- The offsets of the pages of `total` records: the multiples of `length` below `total`. -/
def pageOffsets (length total : Nat) : List Nat :=
  (List.range total).filter fun offset => offset % length = 0

theorem pageOffsets_succ (length total : Nat) :
    pageOffsets length (total + 1) =
      pageOffsets length total ++ if total % length = 0 then [total] else [] := by
  simp [pageOffsets, List.range_succ, List.filter_append, List.filter_cons]

/-- A multiple of `length` that the first `count` pages just reach is where the next one begins. -/
theorem eq_mul_of_reached {length total count : Nat} (positive : 1 ≤ length)
    (multiple : total % length = 0) (reached : total ≤ count * length)
    (below : ∀ k < count, k * length < total) : total = count * length := by
  have whole : total / length * length = total :=
    Nat.div_mul_cancel (Nat.dvd_of_mod_eq_zero multiple)
  have at_count : total / length = count := by
    apply Nat.le_antisymm
    · exact Nat.le_of_mul_le_mul_right (by rw [whole]; exact reached) positive
    · apply Nat.le_of_not_lt
      intro lt
      have begins := below _ lt
      omega
  rw [← at_count, whole]

/-- The offsets are the first multiples of `length`, as many as it takes to reach `total`. -/
theorem pageOffsets_eq_map {length : Nat} (positive : 1 ≤ length) (total : Nat) :
    ∃ count, pageOffsets length total = (List.range count).map (· * length) ∧
      total ≤ count * length ∧ ∀ k < count, k * length < total := by
  induction total with
  | zero => exact ⟨0, rfl, Nat.zero_le _, fun k lt => absurd lt (Nat.not_lt_zero k)⟩
  | succ total ih =>
    obtain ⟨count, offsets, reached, below⟩ := ih
    rw [pageOffsets_succ]
    by_cases multiple : total % length = 0
    -- One more record needs a new page exactly if it is the first behind full ones.
    · have next := eq_mul_of_reached positive multiple reached below
      refine ⟨count + 1, ?_, ?_, ?_⟩
      · rw [if_pos multiple, offsets, List.range_succ, List.map_append, List.map_singleton, next]
      · rw [Nat.add_mul, Nat.one_mul]
        omega
      · intro k lt
        have before := Nat.mul_le_mul_right length (Nat.le_of_lt_succ lt)
        omega
    · refine ⟨count, ?_, ?_, ?_⟩
      · rw [if_neg multiple, List.append_nil, offsets]
      · have ne : total ≠ count * length := by
          rintro rfl
          exact multiple (Nat.mul_mod_left count length)
        omega
      · intro k lt
        exact Nat.lt_succ_of_lt (below k lt)

/-! ## Windows side by side -/

theorem flatMap_window (length count : Nat) (records : List α) :
    (List.range count).flatMap (fun k => window (k * length) length records) =
      records.take (count * length) := by
  induction count with
  | zero => simp
  | succ count ih =>
    rw [List.range_succ, List.flatMap_append, ih, List.flatMap_singleton, window, Nat.succ_mul,
      List.take_add]

theorem matching_eq_self {accept : α → Except Error Bool} {records : List α}
    (all : ∀ record ∈ records, accept record = .ok true) : matching accept records = records := by
  refine List.filter_eq_self.2 fun record mem => ?_
  rw [selects, all record mem]

namespace Processor

variable {processor : Processor} {rules : RuleSet} {accessor : Accessor α} {length : Nat}

/-- A pass over a page of records that all match changes nothing. -/
theorem page_of_matching {items : Array α} (few : rules.ruleCount ≤ processor.options.maxRules)
    (positive : 1 ≤ length) (fits : items.size ≤ length)
    (all : ∀ record ∈ items.toList, rules.evaluate accessor record = .ok true) :
    let again := processor.page rules accessor items 0 length
    again.items = items ∧ again.result = .ok ⟨items.size, items.size⟩ := by
  have evaluable : Evaluable (rules.evaluate accessor) items.toList :=
    fun record mem => ⟨true, all record mem⟩
  have kept : min length items.size = items.size := Nat.min_eq_right fits
  intro again
  have ended : again = _ := page_of_evaluable 0 positive few evaluable
  simp only [matching_eq_self all, window_zero fits, Array.length_toList, Nat.sub_zero, kept]
    at ended
  rw [ended]
  exact ⟨rfl, rfl⟩

/-- Of a collection whose records can all be evaluated, the pages of one length hold the records
that match, each once and in their order. Every pass reports how many match, every page but the last
is full, and a pass over a page changes nothing. -/
theorem pages_tile (processor : Processor) (rules : RuleSet) (accessor : Accessor α)
    (items : Array α) (length : Nat) (few : rules.ruleCount ≤ processor.options.maxRules)
    (positive : 1 ≤ length) (evaluable : Evaluable (rules.evaluate accessor) items.toList) :
    let matched := matching (rules.evaluate accessor) items.toList
    let pageAt := fun offset => processor.page rules accessor items offset length
    let pages := (pageOffsets length matched.length).map pageAt
    pages.flatMap (fun page => page.items.toList) = matched ∧
      (∀ offset, (pageAt offset).result = .ok ⟨(pageAt offset).items.size, matched.length⟩) ∧
      (∀ page ∈ pages.dropLast, page.items.size = length) ∧
      ∀ page ∈ pages, let again := processor.page rules accessor page.items 0 length
        again.items = page.items ∧ again.result = .ok ⟨page.items.size, page.items.size⟩ := by
  intro matched pageAt pages
  have ended (offset : Nat) := page_of_evaluable offset positive few evaluable
  have left (offset : Nat) : (pageAt offset).items.toList = window offset length matched := by
    show (processor.page rules accessor items offset length).items.toList = _
    rw [ended]
  have size (offset : Nat) : (pageAt offset).items.size = min length (matched.length - offset) := by
    rw [← length_window, ← left, Array.length_toList]
  obtain ⟨count, offsets, reached, below⟩ := pageOffsets_eq_map positive matched.length
  have pages_eq : pages = (List.range count).map fun k => pageAt (k * length) := by
    show (pageOffsets length matched.length).map pageAt = _
    rw [offsets, List.map_map]
    rfl
  refine ⟨?_, ?_, ?_, ?_⟩
  · rw [pages_eq, List.flatMap_map]
    simp only [left]
    rw [flatMap_window, List.take_of_length_le reached]
  · intro offset
    rw [size]
    show (processor.page rules accessor items offset length).result = _
    rw [ended]
  · intro page mem
    -- Behind a page that is not the last another one begins, below the number of matches.
    obtain ⟨k, next, rfl⟩ : ∃ k, k + 1 < count ∧ pageAt (k * length) = page := by
      rw [pages_eq, ← List.map_dropLast] at mem
      obtain ⟨k, inside, rfl⟩ := List.mem_map.1 mem
      cases count with
      | zero => cases inside
      | succ last =>
        rw [List.range_succ, List.dropLast_concat, List.mem_range] at inside
        exact ⟨k, Nat.succ_lt_succ inside, rfl⟩
    have begins := below (k + 1) next
    rw [Nat.add_mul, Nat.one_mul] at begins
    rw [size]
    omega
  · intro page mem
    rw [pages_eq] at mem
    obtain ⟨k, -, rfl⟩ := List.mem_map.1 mem
    refine page_of_matching few positive (by rw [size]; omega) ?_
    rw [left]
    intro record mem
    exact (mem_matching_iff.1 (List.mem_of_mem_drop (List.mem_of_mem_take mem))).2

theorem pages_tile_of_odd :
    let pageAt := fun offset => standard.page oddRules oddAccessor #[1, 2, 3, 5, 4, 7, 11] offset 2
    let pages := [pageAt 0, pageAt 2, pageAt 4]
    pages = (pageOffsets 2 5).map pageAt ∧
      pages.flatMap (fun page => page.items.toList) = [1, 3, 5, 7, 11] ∧
      (pageAt 4).result = .ok ⟨(pageAt 4).items.size, 5⟩ ∧ (pageAt 2).items.size = 2 ∧
      (standard.page oddRules oddAccessor (pageAt 4).items 0 2).items = (pageAt 4).items := by
  intro pageAt pages
  have evaluable : Evaluable (oddRules.evaluate oddAccessor) #[1, 2, 3, 5, 4, 7, 11].toList := by
    intro n mem
    simp only [List.mem_cons, List.not_mem_nil, or_false] at mem
    rcases mem with rfl | rfl | rfl | rfl | rfl | rfl | rfl
    all_goals exact ⟨_, rfl⟩
  obtain ⟨tiles, counts, full, again⟩ := pages_tile standard oddRules oddAccessor
    #[1, 2, 3, 5, 4, 7, 11] 2 (by decide) (by decide) evaluable
  exact ⟨rfl, tiles, counts 4, full (pageAt 2) (.tail _ (.head _)),
    (again (pageAt 4) (.tail _ (.tail _ (.head _)))).1⟩

end Processor

end RecordFilter
