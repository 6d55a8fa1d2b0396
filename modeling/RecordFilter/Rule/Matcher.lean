import RecordFilter.Error
import RecordFilter.Json.Printer
import RecordFilter.Regex.Basic
import RecordFilter.Value.Basic

set_option autoImplicit false

/-!
# Matchers

A matcher is an operator with its reference made ready: `Matcher.compile` checks the reference
once, `Matcher.evaluate` is then total. Values that an operator has nothing to say about do not
match, and neither do absent ones, whatever the operator.
-/

namespace RecordFilter

/-! ## References -/

/-- What an operator takes for a reference. -/
inductive ReferenceKind where
  | nonNull
  | numeric
  | string
  | array
deriving DecidableEq

/-- The word for a kind of reference. -/
def ReferenceKind.word : ReferenceKind → String
  | .nonNull => "non-null"
  | .numeric => "numeric"
  | .string => "string"
  | .array => "array"

/-- Why a reference was refused. -/
inductive ReferenceError where
  /-- The operator takes another kind of reference. -/
  | unfit (operator : Operator) (expected : ReferenceKind) (got : Json)
  /-- The reference is a string but no pattern. -/
  | badPattern

/-- The text of an error. -/
def ReferenceError.message : ReferenceError → String
  | .unfit operator expected got =>
    (Error.invalidReference operator expected.word got.text got.typeName).message
  | .badPattern => Error.patternSubject

/-! ## Orderings -/

/-- The relations of the ordering operators. -/
inductive Relation where
  | less
  | atMost
  | greater
  | atLeast
deriving DecidableEq

/-- Whether a comparison satisfies the relation; things that do not compare satisfy none. -/
def Relation.holds : Relation → Option Ordering → Bool
  | .less, some order => order == .lt
  | .atMost, some order => order != .gt
  | .greater, some order => order == .gt
  | .atLeast, some order => order != .lt
  | _, none => false

/-! ## Texts -/

/-- Whether `part` occurs in a text. -/
def occursIn (part : List Char) : List Char → Bool
  | [] => part.isEmpty
  | c :: rest => part.isPrefixOf (c :: rest) || occursIn part rest

/-- The relations of texts to a reference. -/
inductive TextRelation where
  /-- Equality in lowercase. -/
  | equalFold
  | startsWith
  | endsWith
  | contains
deriving DecidableEq

/-- Whether a text has the relation to the reference. -/
def TextRelation.holds (reference : String) : TextRelation → String → Bool
  | .equalFold, s => Unicode.lowercaseText s == Unicode.lowercaseText reference
  | .startsWith, s => reference.toList.isPrefixOf s.toList
  | .endsWith, s => reference.toList.isSuffixOf s.toList
  | .contains, s => occursIn reference.toList s.toList

/-! ## Matchers -/

/-- An operator with its reference. -/
inductive Matcher where
  | equal (reference : Value)
  | notEqual (reference : Value)
  | memberOf (candidates : List Value)
  | order (relation : Relation) (reference : Binary64)
  | text (relation : TextRelation) (reference : String)
  | regexp (pattern : Regex.Pattern)
  | isNull
  | isNotNull

namespace Matcher

/-- The value of a reference that may not be null. -/
def nonNull (operator : Operator) : Json → Except ReferenceError Value
  | .null => .error (.unfit operator .nonNull .null)
  | reference => .ok (.ofJson reference)

/-- The double of a numeric reference. -/
def numeric (operator : Operator) : Json → Except ReferenceError Binary64
  | .number n => .ok n.toBinary64
  | reference => .error (.unfit operator .numeric reference)

/-- The string of a reference. -/
def string (operator : Operator) : Json → Except ReferenceError String
  | .string s => .ok s
  | reference => .error (.unfit operator .string reference)

/-- The items of an array reference. -/
def array (operator : Operator) : Json → Except ReferenceError (List Value)
  | .array items => .ok (Value.ofItems items)
  | reference => .error (.unfit operator .array reference)

/-- The pattern that a text is. -/
def pattern (text : String) : Except ReferenceError Regex.Pattern :=
  match Regex.Pattern.parse? text with
  | some pattern => .ok pattern
  | none => .error .badPattern

/-- The matcher of an operator and a reference. The null tests ignore theirs. -/
def compile (operator : Operator) (reference : Json) : Except ReferenceError Matcher :=
  match operator with
  | .eq => (nonNull operator reference).map .equal
  | .ne => (nonNull operator reference).map .notEqual
  | .eqFold => (string operator reference).map (.text .equalFold)
  | .lt => (numeric operator reference).map (.order .less)
  | .lte => (numeric operator reference).map (.order .atMost)
  | .gt => (numeric operator reference).map (.order .greater)
  | .gte => (numeric operator reference).map (.order .atLeast)
  | .startsWith => (string operator reference).map (.text .startsWith)
  | .endsWith => (string operator reference).map (.text .endsWith)
  | .contains => (string operator reference).map (.text .contains)
  | .regexp => do return .regexp (← pattern (← string operator reference))
  | .isIn => (array operator reference).map .memberOf
  | .isNull => .ok .isNull
  | .isNotNull => .ok .isNotNull

/-- How a value compares to the reference of an ordering: a number by its double, all else by its
length with the reference cut to an integer. -/
def compareTo (reference : Binary64) : Value → Option Ordering
  | .number n => n.toBinary64.compare? reference
  | value => value.length?.map fun length => compare (length : Int) reference.toInt64Clamped

/-- Whether a value satisfies the matcher. -/
def evaluate : Matcher → Value → Bool
  | .equal reference, value => !value.isNull && value.looselyEquals reference
  | .notEqual reference, value =>
    match value with
    | .null | .unsupported => false
    | _ => !value.looselyEquals reference
  | .memberOf candidates, value => !value.isNull && candidates.any value.looselyEquals
  | .order relation reference, value => relation.holds (compareTo reference value)
  | .text relation reference, value => value.text?.any (relation.holds reference)
  | .regexp pattern, value => value.text?.any pattern.isMatch
  | .isNull, value => value.isNull
  | .isNotNull, value => !value.isNull

end Matcher

end RecordFilter
