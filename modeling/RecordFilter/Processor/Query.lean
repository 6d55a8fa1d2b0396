import RecordFilter.Processor.Event
import RecordFilter.Processor.Options
import RecordFilter.Query.Form
import RecordFilter.Url.Basic

set_option autoImplicit false

/-!
# Rule sets in queries

A query holds a rule set under the processor's key. The first pair with the key counts; a query
without one, or with nothing under it, holds the empty rule set.
-/

namespace RecordFilter.Processor

/-- A rule set or why there is none, and what was reported. -/
abbrev Parsed := Except RulesError RuleSet × List Event

/-- The rule set of a list of pairs. -/
def parsePairs (processor : Processor) (pairs : List (String × String)) : Parsed :=
  let key := processor.options.queryKey
  match pairs.find? fun pair => pair.1 == key with
  | none => (.ok .empty, [])
  | some (_, text) =>
    if text = "" then (.ok .empty, [])
    else
      match RuleSet.parse text with
      | .ok rules => (.ok rules, [.rulesParsed key rules.ruleCount])
      | .error error => (.error error, [.rulesRefused key])

/-- A query without the question mark that it may start with. -/
def afterMark (query : String) : String :=
  match query.toList with
  | '?' :: rest => String.ofList rest
  | _ => query

/-- The rule set of a query, which may have its question mark. -/
def parseQuery (processor : Processor) (query : String) : Parsed :=
  processor.parsePairs (Form.decode (afterMark query))

/-- The rule set of the query of a URL. -/
def parseUrl (processor : Processor) (url : Url) : Parsed :=
  processor.parsePairs (Form.decode (url.query.getD ""))

end RecordFilter.Processor
