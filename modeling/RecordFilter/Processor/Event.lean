import RecordFilter.Rule.Reader

set_option autoImplicit false

/-!
# Events

What a processor reports while it works: the fate of rule sets found in queries, rule sets
that are too large, and how passes ended. An event about a rule set that was not read says so and
leaves the details to the error.
-/

namespace RecordFilter

/-- An event. -/
inductive Event where
  | rulesParsed (key : String) (rules : Nat)
  | rulesRefused (key : String)
  | tooManyRules (got max : Nat)
  | passAborted (index : Nat) (error : Error)
  | passFinished (offset length retained total : Nat)
deriving DecidableEq

/-- How much an event matters. -/
inductive Level where
  | debug
  | warn
deriving DecidableEq

/-- The word for a level. -/
def Level.word : Level → String
  | .debug => "DEBUG"
  | .warn => "WARN"

/-- What an event says under a name. -/
inductive EventField where
  | number (value : Nat)
  | text (value : String)

namespace Event

/-- The level of an event. -/
def level : Event → Level
  | .passAborted _ _ => .warn
  | _ => .debug

/-- The message of an event. -/
def message : Event → String
  | .rulesParsed _ _ => "rule set parsed from query"
  | .rulesRefused _ => "rule set in query rejected"
  | .tooManyRules _ _ => "rule set rejected"
  | .passAborted _ _ => "filter pass aborted"
  | .passFinished _ _ _ _ => "filter applied"

/-- What an event says, by name. -/
def fields : Event → List (String × EventField)
  | .rulesParsed key rules => [("key", .text key), ("rules", .number rules)]
  | .rulesRefused key => [("key", .text key), ("error", .text Error.rulesSubject)]
  | .tooManyRules got max => [("got", .number got), ("max", .number max)]
  | .passAborted index error => [("index", .number index), ("error", .text error.message)]
  | .passFinished offset length retained total =>
    [("offset", .number offset), ("length", .number length), ("retained", .number retained),
     ("total", .number total)]

end Event

end RecordFilter
