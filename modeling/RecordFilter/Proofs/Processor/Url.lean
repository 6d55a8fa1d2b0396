import RecordFilter.Proofs.Processor.Query

set_option autoImplicit false

/-!
# Rule sets through URLs

The query of a URL is read behind its question mark. A query by itself may have its question mark or
not, and one that it starts with is left out; so the query of a URL is read as with a question mark
put before it, and as it is unless it starts with one. One it starts with is part of its first key
for the URL only (`Form.decode_mark`): the two readings differ at most if the processor's key is
that key, with the mark or without (`Processor.parseUrl_agrees`).
-/

namespace RecordFilter

/-! ## Queries that start with a question mark -/

namespace Form

/-- The mark is neither a separator of pairs nor one of keys, and it stands for itself. -/
theorem splitAt_mark (bytes : List UInt8) :
    splitAt (byte '&') (byte '?' :: bytes) =
      (byte '?' :: (splitAt (byte '&') bytes).1, (splitAt (byte '&') bytes).2) :=
  rfl

theorem cutAt_mark (bytes : List UInt8) :
    cutAt (byte '=') (byte '?' :: bytes) =
      (byte '?' :: (cutAt (byte '=') bytes).1, (cutAt (byte '=') bytes).2) :=
  rfl

theorem decodePart_mark (bytes : List UInt8) :
    decodePart (byte '?' :: bytes) = "?" ++ decodePart bytes := by
  have read (rest : List UInt8) : Utf8.decode (byte '?' :: rest) = '?' :: Utf8.decode rest := rfl
  have no_sign : byte '?' ≠ byte '%' := by decide
  show String.ofList (Utf8.decode (percentDecode (byte '?' :: bytes.map plusToBlank))) = _
  rw [percentDecode_of_ne no_sign, read]
  exact eq_mark_append String.toList_ofList

theorem decodePair_mark (bytes : List UInt8) :
    decodePair (byte '?' :: bytes) = ("?" ++ (decodePair bytes).1, (decodePair bytes).2) := by
  rw [decodePair, cutAt_mark]
  exact Prod.ext (decodePart_mark _) rfl

/-- A question mark at the start of a text is the start of the first key. Without it, nothing may be
left of the first pair, and then it is no pair. -/
theorem decode_mark (text : String) :
    ∃ key value more, decode ("?" ++ text) = ("?" ++ key, value) :: more ∧
      (decode text = (key, value) :: more ∨ key = "" ∧ value = "" ∧ decode text = more) := by
  have bytes : Utf8.encode ("?" ++ text).toList = byte '?' :: Utf8.encode text.toList := by
    rw [toList_mark]
    rfl
  rw [decode, bytes, splitAt_mark, decode]
  rcases splitAt (byte '&') (Utf8.encode text.toList) with ⟨part, parts⟩
  refine ⟨(decodePair part).1, (decodePair part).2, (parts.filter fun bytes => !bytes.isEmpty).map
    decodePair, ?_, ?_⟩
  · rw [← decodePair_mark]
    rfl
  · cases part with
    | nil => exact .inr ⟨rfl, rfl, rfl⟩
    | cons b part => exact .inl rfl

end Form

/-! ## Processors -/

namespace Processor

variable (processor : Processor)

theorem parseUrl_eq (url : Url) :
    processor.parseUrl url = processor.parseQuery ("?" ++ url.query.getD "") := by
  rw [parseQuery, afterMark_mark]
  rfl

/-- A key that is not the processor's is passed over. -/
theorem parsePairs_skip {key : String} (other : key ≠ processor.options.queryKey) (value : String)
    (more : List (String × String)) :
    processor.parsePairs ((key, value) :: more) = processor.parsePairs more := by
  have skipped : (key == processor.options.queryKey) = false := beq_eq_false_iff_ne.2 other
  simp only [parsePairs, List.find?_cons, skipped]

/-- A question mark that is read with the query changes its first key only. -/
theorem exists_key_of_mark (rest : String) :
    ∃ key value more, Form.decode ("?" ++ rest) = ("?" ++ key, value) :: more ∧
      (key ≠ processor.options.queryKey → "?" ++ key ≠ processor.options.queryKey →
        processor.parsePairs (Form.decode ("?" ++ rest)) =
          processor.parsePairs (Form.decode rest)) := by
  obtain ⟨key, value, more, marked, plain⟩ := Form.decode_mark rest
  refine ⟨key, value, more, marked, ?_⟩
  intro other other_marked
  -- The first pair is passed over with its mark, and without it if it is left as a pair.
  rw [marked, processor.parsePairs_skip other_marked]
  rcases plain with plain | ⟨-, -, plain⟩
  · rw [plain, processor.parsePairs_skip other]
  · rw [plain]

/-- The query of a URL is read as with a question mark before it, and as it is unless it starts with
one. By itself, a query that starts with one is read without it; even then the readings agree
unless the processor's key is the first key of the query, with the mark or without. -/
theorem parseUrl_agrees (url : Url) :
    processor.parseUrl url = processor.parseQuery ("?" ++ url.query.getD "") ∧
      ((∀ rest, url.query ≠ some ("?" ++ rest)) →
        processor.parseUrl url = processor.parseQuery (url.query.getD "")) ∧
      ∀ rest, url.query = some ("?" ++ rest) →
        processor.parseQuery ("?" ++ rest) = processor.parsePairs (Form.decode rest) ∧
        ∃ key value more, Form.decode ("?" ++ rest) = ("?" ++ key, value) :: more ∧
          (key ≠ processor.options.queryKey → "?" ++ key ≠ processor.options.queryKey →
            processor.parseUrl url = processor.parseQuery ("?" ++ rest)) := by
  refine ⟨?marked, ?bare, ?starting⟩
  case marked => exact processor.parseUrl_eq url
  case bare =>
    intro bare
    have unmarked : ∀ rest, (url.query.getD "").toList ≠ '?' :: rest := by
      intro rest starts
      cases query : url.query with
      | none =>
        rw [query] at starts
        cases starts
      | some text =>
        rw [query] at starts
        apply bare (String.ofList rest)
        rw [query, ← Form.eq_mark_append starts]
        rfl
    rw [parseQuery, afterMark_of_bare unmarked]
    rfl
  case starting =>
    intro rest query
    obtain ⟨key, value, more, marked, agree⟩ := processor.exists_key_of_mark rest
    have without_mark :
        processor.parseQuery ("?" ++ rest) = processor.parsePairs (Form.decode rest) := by
      rw [parseQuery, afterMark_mark]
    refine ⟨without_mark, key, value, more, marked, ?_⟩
    intro other other_marked
    rw [without_mark, parseUrl, query]
    exact agree other other_marked

/-- With and without a mark in the query, where the key stands behind another one. -/
theorem parseUrl_agrees_behind :
    standard.parseUrl ⟨"http", some "page=2&filter=[[]]"⟩ =
        standard.parseQuery "page=2&filter=[[]]" ∧
      standard.parseUrl ⟨"http", some "?page=2&filter=[[]]"⟩ =
        standard.parseQuery "?page=2&filter=[[]]" := by
  constructor
  · apply (standard.parseUrl_agrees ⟨"http", some "page=2&filter=[[]]"⟩).2.1
    intro rest same
    have chars := congrArg String.toList (Option.some.inj same)
    rw [Form.toList_mark] at chars
    cases chars
  · obtain ⟨-, key, value, more, pairs, agree⟩ :=
      (standard.parseUrl_agrees ⟨"http", some "?page=2&filter=[[]]"⟩).2.2 "page=2&filter=[[]]" rfl
    have read : Form.decode "?page=2&filter=[[]]" = [("?page", "2"), ("filter", "[[]]")] := by
      decide +kernel
    have first : "?" ++ key = "?page" := congrArg Prod.fst (List.cons.inj (pairs.symm.trans read)).1
    apply agree
    · rintro rfl
      revert first
      decide
    · rw [first]
      decide

/-! ## A URL with two question marks -/

/-- The URL with the text `http://[::1]/??filter=[[]]`. -/
def twoMarks : Url := ⟨"http", some "?filter=[[]]"⟩

/-- The rule set of one group, which no record satisfies. -/
def oneGroup : RuleSet := ⟨[[]]⟩

theorem parse_oneGroup : RuleSet.parse "[[]]" = .ok oneGroup := by
  have none_of : ∀ rule, rule ∉ oneGroup.groups.flatten := by simp [oneGroup]
  have text : oneGroup.text = "[[]]" := by decide +kernel
  rw [← text]
  apply RuleSet.parse_of_readBack
  · exact fun rule mem => absurd mem (none_of rule)
  · exact fun rule mem => absurd mem (none_of rule)

/-- The mark in the query hides the key from the URL and not from the query by itself. -/
theorem parseUrl_twoMarks :
    Url.parse? "http://[::1]/??filter=[[]]" = some twoMarks ∧
      standard.parseUrl twoMarks = (.ok .empty, []) ∧
      standard.parseQuery "?filter=[[]]" = (.ok oneGroup, [.rulesParsed "filter" 0]) ∧
      standard.parseUrl twoMarks ≠ standard.parseQuery (twoMarks.query.getD "") := by
  have url : standard.parseUrl twoMarks = (.ok .empty, []) := by
    have pairs : Form.decode "?filter=[[]]" = [("?filter", "[[]]")] := by decide +kernel
    have others : ∀ pair ∈ [("?filter", "[[]]")], pair.1 ≠ standard.options.queryKey := by decide
    show standard.parsePairs (Form.decode "?filter=[[]]") = _
    rw [pairs]
    exact standard.parsePairs_of_none others
  have query : standard.parseQuery "?filter=[[]]" = (.ok oneGroup, [.rulesParsed "filter" 0]) := by
    have pairs : Form.decode "filter=[[]]" = [("filter", "[[]]")] := by decide +kernel
    have some_text : "[[]]" ≠ "" := by decide
    show standard.parsePairs (Form.decode "filter=[[]]") = _
    rw [pairs]
    exact standard.parsePairs_text some_text parse_oneGroup
  refine ⟨by decide +kernel, url, query, ?_⟩
  rw [url]
  intro same
  cases same.trans query

end Processor

end RecordFilter
