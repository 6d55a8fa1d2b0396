import RecordFilter.Processor.Query
import RecordFilter.Proofs.Query.Form
import RecordFilter.Proofs.Rule.Evaluation
import RecordFilter.Proofs.Rule.RoundTrip

set_option autoImplicit false

/-!
# Rule sets through queries

A rule set that is written under the processor's key, among any other pairs, is the rule set of the
query, with its question mark or without (`parseQuery_written`). A query is cut into the pairs it
was made of (`Form.decode_encode`), the first pair with the key is found behind any others, and its
text is read as the rule set (`RuleSet.parse_of_readBack`).
-/

namespace RecordFilter

open Json

/-- Even the rule set of no groups is written with its brackets. -/
theorem RuleSet.text_ne (rules : RuleSet) : rules.text ≠ "" := by
  intro empty
  have chars : rules.text.toList = rules.render := String.toList_ofList
  rw [empty] at chars
  cases chars

namespace Processor

variable (processor : Processor) {before : List (String × String)}

/-! ## Pairs -/

/-- The first pair with the key counts, whatever stands behind it. -/
theorem parsePairs_of_first (others : ∀ pair ∈ before, pair.1 ≠ processor.options.queryKey)
    (text : String) (after : List (String × String)) :
    processor.parsePairs (before ++ (processor.options.queryKey, text) :: after) =
      processor.parsePairs [(processor.options.queryKey, text)] := by
  have skipped : before.find? (fun pair => pair.1 == processor.options.queryKey) = none := by
    refine List.find?_eq_none.2 fun pair mem same => ?_
    exact others pair mem (beq_iff_eq.1 same)
  simp only [parsePairs, List.find?_append, skipped, Option.none_or, List.find?_cons,
    beq_self_eq_true]

theorem parsePairs_of_none (others : ∀ pair ∈ before, pair.1 ≠ processor.options.queryKey) :
    processor.parsePairs before = (.ok .empty, []) := by
  have missing : before.find? (fun pair => pair.1 == processor.options.queryKey) = none := by
    refine List.find?_eq_none.2 fun pair mem same => ?_
    exact others pair mem (beq_iff_eq.1 same)
  simp only [parsePairs, missing]

theorem parsePairs_empty :
    processor.parsePairs [(processor.options.queryKey, "")] = (.ok .empty, []) := by
  simp only [parsePairs, List.find?_cons, beq_self_eq_true, if_true]

theorem parsePairs_text {text : String} {rules : RuleSet} (some_text : text ≠ "")
    (parsed : RuleSet.parse text = .ok rules) :
    processor.parsePairs [(processor.options.queryKey, text)] =
      (.ok rules, [.rulesParsed processor.options.queryKey rules.ruleCount]) := by
  simp only [parsePairs, List.find?_cons, beq_self_eq_true, if_neg some_text, parsed]

/-! ## Queries -/

/-- A question mark that stands before a query is not part of it. -/
theorem afterMark_mark (query : String) : afterMark ("?" ++ query) = query := by
  rw [afterMark, Form.toList_mark]
  exact String.ofList_toList

/-- A query that does not start with a question mark is read as it is. -/
theorem afterMark_of_bare {query : String} (bare : ∀ rest, query.toList ≠ '?' :: rest) :
    afterMark query = query := by
  unfold afterMark
  split
  case h_1 rest starts => exact absurd starts (bare rest)
  case h_2 => rfl

/-- A query is read as the pairs it was made of, with its question mark or without. -/
theorem parseQuery_encode (pairs : List (String × String)) :
    ∀ mark ∈ ["", "?"], processor.parseQuery (mark ++ Form.encode pairs) =
      processor.parsePairs pairs := by
  have either : ∀ mark ∈ ["", "?"], mark = "" ∨ mark = "?" := by simp
  intro mark mem
  rcases either mark mem with rfl | rfl
  · rw [parseQuery, String.empty_append, afterMark_of_bare (Form.toList_encode_ne_mark pairs),
      Form.decode_encode]
  · rw [parseQuery, afterMark_mark, Form.decode_encode]

/-- The query of pairs of which the first with the key holds the text of a rule set gives that rule
set, if its references can be written and read. With nothing under the key in its first pair, or no
pair with the key, a query gives the rule set of no groups. -/
theorem parseQuery_written (rules : RuleSet)
    (shallow : ∀ rule ∈ rules.groups.flatten, rule.reference.document.depth ≤ 124)
    (readBack : ∀ rule ∈ rules.groups.flatten, ∀ x finite,
      .real x finite ∈ rule.reference.document.numbers → (JsonNumber.real x finite).ReadsBack)
    (others : ∀ pair ∈ before, pair.1 ≠ processor.options.queryKey)
    (after : List (String × String)) :
    ∀ mark ∈ ["", "?"],
      processor.parseQuery
          (mark ++ Form.encode (before ++ (processor.options.queryKey, rules.text) :: after)) =
        (.ok rules, [.rulesParsed processor.options.queryKey rules.ruleCount]) ∧
      processor.parseQuery
          (mark ++ Form.encode (before ++ (processor.options.queryKey, "") :: after)) =
        (.ok .empty, []) ∧
      processor.parseQuery (mark ++ Form.encode before) = (.ok .empty, []) := by
  have parsed : RuleSet.parse rules.text = .ok rules := by
    refine RuleSet.parse_of_readBack shallow fun rule mem n n_mem => ?_
    cases n with
    | integer i => exact JsonNumber.readsBack_integer i
    | real x finite => exact readBack rule mem x finite n_mem
  intro mark mem
  simp only [processor.parseQuery_encode _ mark mem, processor.parsePairs_of_first others]
  exact ⟨processor.parsePairs_text rules.text_ne parsed, processor.parsePairs_empty,
    processor.parsePairs_of_none others⟩

theorem parseQuery_written_between :
    let rules : RuleSet := ⟨[[RuleSet.presence "a&b=c+d %41?"], []]⟩
    let before := [("", "filter"), ("?filter", "[[]]"), ("größe", "&")]
    (∀ pair ∈ before, pair.1 ≠ standard.options.queryKey) ∧
      standard.parseQuery
          ("?" ++ Form.encode (before ++ ("filter", rules.text) :: [("filter", "5")])) =
        (.ok rules, [.rulesParsed "filter" 1]) := by
  intro rules before
  have reference : ∀ rule ∈ rules.groups.flatten, rule.reference = .null := by
    simp [rules, RuleSet.presence]
  have others : ∀ pair ∈ before, pair.1 ≠ standard.options.queryKey := by decide
  have shallow : ∀ rule ∈ rules.groups.flatten, rule.reference.document.depth ≤ 124 := by
    intro rule mem
    rw [reference rule mem]
    exact Nat.zero_le _
  have readBack : ∀ rule ∈ rules.groups.flatten, ∀ x finite,
      .real x finite ∈ rule.reference.document.numbers →
        (JsonNumber.real x finite).ReadsBack := by
    intro rule mem x finite real
    rw [reference rule mem] at real
    cases real
  have written := parseQuery_written standard rules shallow readBack others [("filter", "5")]
    "?" (by simp)
  exact ⟨others, written.1⟩

end Processor

end RecordFilter
