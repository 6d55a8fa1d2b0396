import RecordFilter.Rule.Operator

set_option autoImplicit false

/-!
# Errors

One type of errors for everything that can go wrong: options and rules that are refused, passes
that may not run, and records that give no answer. An accessor is free in its choice, so a pass may
well end with an error that says something about passes and comes from a record.
-/

namespace RecordFilter

/-- Why something was not done. -/
inductive Error where
  /-- An option of a processor has a value that is of no use. -/
  | invalidConfig (option reason : String)
  /-- A text is no rule set. -/
  | json (reason : String)
  /-- No operator has the name. -/
  | unknownKind (name : String)
  /-- The operator takes another kind of reference. -/
  | invalidReference (operator : Operator) (expected value actual : String)
  /-- A reference is a string but no pattern. -/
  | invalidRegex (reason : String)
  /-- A rule set has more rules than the processor takes. -/
  | tooManyRules (got max : Nat)
  /-- A page was to have no records. -/
  | invalidLength
  /-- A path has an empty segment. -/
  | malformedPath (path : String)
  /-- Reading a field failed. -/
  | extraction (field reason : String)
deriving DecidableEq

namespace Error

/-- What the texts of errors about rule sets begin with. -/
def rulesSubject : String := "failed unmarshaling rules"

/-- What the texts of errors about patterns begin with. -/
def patternSubject : String := "invalid regexp pattern"

/-- The text of an error. -/
def message : Error → String
  | .invalidConfig option reason => "invalid option '" ++ option ++ "': " ++ reason
  | .json reason => rulesSubject ++ ": " ++ reason
  | .unknownKind name => "unknown rule type: '" ++ name ++ "'"
  | .invalidReference operator expected value actual =>
    "rule of type " ++ operator.name ++ " should have " ++ expected ++ " value (got " ++ value ++
      " (" ++ actual ++ "))"
  | .invalidRegex reason => patternSubject ++ ": " ++ reason
  | .tooManyRules got max =>
    "too many rules: got " ++ String.ofList (Nat.toDigits 10 got) ++ " max is " ++
      String.ofList (Nat.toDigits 10 max)
  | .invalidLength => "length must be strictly positive"
  | .malformedPath path => "malformed field path '" ++ path ++ "'"
  | .extraction field reason => "failed extracting field '" ++ field ++ "': " ++ reason

end Error

end RecordFilter
