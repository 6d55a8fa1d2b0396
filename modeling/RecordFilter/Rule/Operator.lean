set_option autoImplicit false

/-!
# Comparison operators

The fourteen operators of rules, by the reference they take: any value (`eq`, `ne`), an
array (`isIn`), a number (the four orderings), a string (the five text operators), none (the two
null tests).
-/

namespace RecordFilter

/-- A comparison operator. -/
inductive Operator where
  | eq
  | ne
  | eqFold
  | lt
  | lte
  | gt
  | gte
  | startsWith
  | endsWith
  | contains
  | regexp
  | isIn
  | isNull
  | isNotNull
deriving DecidableEq

namespace Operator

/-- The operators in their order. -/
def all : List Operator :=
  [.eq, .ne, .eqFold, .lt, .lte, .gt, .gte, .startsWith, .endsWith, .contains, .regexp, .isIn,
   .isNull, .isNotNull]

/-- The name of an operator in rules. -/
def name : Operator → String
  | .eq => "eq"
  | .ne => "ne"
  | .eqFold => "eqFold"
  | .lt => "lt"
  | .lte => "lte"
  | .gt => "gt"
  | .gte => "gte"
  | .startsWith => "hasPrefix"
  | .endsWith => "hasSuffix"
  | .contains => "contains"
  | .regexp => "regexp"
  | .isIn => "in"
  | .isNull => "isNull"
  | .isNotNull => "isNotNull"

/-- The operator with the given name. -/
def ofName? (name : String) : Option Operator := all.find? fun op => op.name == name

/-- Whether the operator orders values by a number. -/
def isOrdering : Operator → Bool
  | .lt | .lte | .gt | .gte => true
  | _ => false

/-- Whether the operator takes a string. -/
def isText : Operator → Bool
  | .eqFold | .startsWith | .endsWith | .contains | .regexp => true
  | _ => false

end Operator

end RecordFilter
