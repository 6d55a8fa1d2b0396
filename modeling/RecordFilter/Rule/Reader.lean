import RecordFilter.Json.Decoding
import RecordFilter.Json.Ordered
import RecordFilter.Rule.Basic

set_option autoImplicit false

/-!
# Reading rule sets

A rule set is an array of arrays of rules. A rule is an object with the members `field`,
`type` and, unless it is null, `value`, in any order and among any others, or an array of these
two or three. A rule's type is the name of an operator, or an object that maps this name to
null. A rule is made as soon as its closing bracket is read.
-/

namespace RecordFilter

/-- Why a text is not a rule set. -/
abbrev RulesError := DecodeError ReferenceError

/-- The text of an error, without what it is about. -/
def RulesError.reason (error : RulesError) : String := error.message ReferenceError.message

/-- The text of an error. -/
def RulesError.message (error : RulesError) : String := (Error.json error.reason).message

/-! ## Operators -/

namespace Operator

variable {ε : Type}

/-- The operator with the given name. -/
def named (name : String) : Except (DecodeError ε) Operator :=
  match ofName? name with
  | some operator => .ok operator
  | none => .error (.unknownName "variant" name (all.map Operator.name))

/-- The operator that a tree names. Nothing but a string or an object may start here. -/
def ofSource : Source → Except (DecodeError ε) Operator
  | .string content => do named (← Source.orBroken (Source.textOf content))
  | .object ((key, value) :: others) stop => do
    let operator ← named (← Source.orBroken (Source.nameOf key))
    match value with
    | .null => pure ()
    | other => other.unexpected "unit"
    if !others.isEmpty then throw (.broken .malformed)
    Source.orBroken (Source.readStop stop)
    return operator
  | .object [] (some fault) => .error (.broken fault.whenRead)
  | .broken .missing => .error (.broken .truncated)
  | .broken (.cutText unpaired) => .error (.broken (Fault.cutText unpaired).whenRead)
  | _ => .error (.broken .malformed)

/-- The operator that a text names. -/
def read (text : String) : Except (DecodeError ε) Operator := Source.decodeAll ofSource text

end Operator

/-! ## Rules -/

/-- Arrays and objects that the reference of a rule may have. -/
def referenceDepth : Nat := nestingLimit - 3

namespace Rule

/-- The members of a rule that have been read. -/
structure Parts where
  field : Option String
  operator : Option Operator
  reference : Option OrderedJson

/-- No member. -/
def Parts.none : Parts := ⟨.none, .none, .none⟩

/-- The parts with what one more member says. -/
def Parts.add (parts : Parts) (member : MemberName × Source) : Except RulesError Parts := do
  let name ← Source.orBroken (Source.nameOf member.1)
  let value := member.2
  if name = "field" then
    if parts.field.isSome then throw (.duplicateMember name)
    return { parts with field := some (← value.decodeText "a string") }
  else if name = "type" then
    if parts.operator.isSome then throw (.duplicateMember name)
    return { parts with operator := some (← Operator.ofSource value) }
  else if name = "value" then
    if parts.reference.isSome then throw (.duplicateMember name)
    return { parts with reference := some (← Source.orBroken (value.toOrdered referenceDepth)) }
  else
    Source.orBroken value.skip
    return parts

/-- The rule with the given parts. -/
def ofParts (field : String) (operator : Operator) (reference : Option OrderedJson) :
    Except RulesError Rule :=
  (make field operator (reference.getD .null)).mapError .rejected

/-- The rule of the parts that were found. -/
def Parts.toRule (parts : Parts) : Except RulesError Rule := do
  let some field := parts.field | throw (.missingMember "field")
  let some operator := parts.operator | throw (.missingMember "type")
  ofParts field operator parts.reference

/-- The error for an array that ends after `length` items: with the array closed it is too
short. -/
def tooShort {α : Type} (length : Nat) (stop : Option Fault) : Except RulesError α := do
  Source.orBroken (Source.readStop stop)
  throw (.invalidLength length "struct RuleDef with 3 elements")

/-- The rule that a tree is. -/
def ofSource : Source → Except RulesError Rule
  | .object members stop => do
    let parts ← members.foldlM Parts.add .none
    Source.orBroken (Source.readStop stop)
    parts.toRule
  | .array [] stop => tooShort 0 stop
  | .array (field :: items) stop => do
    let field ← field.decodeText "a string"
    match items with
    | [] => tooShort 1 stop
    | operator :: items =>
      let operator ← Operator.ofSource operator
      match items with
      | [] =>
        Source.orBroken (Source.readStop stop)
        ofParts field operator none
      | reference :: others =>
        let reference ← Source.orBroken (reference.toOrdered referenceDepth)
        if !others.isEmpty then throw (.broken .malformed)
        Source.orBroken (Source.readStop stop)
        ofParts field operator (some reference)
  | other => other.unexpected "struct RuleDef"

end Rule

namespace RuleSet

/-- The rule set that a tree is. -/
def ofSource (tree : Source) : Except RulesError RuleSet :=
  (tree.decodeArray (Source.decodeArray Rule.ofSource)).map RuleSet.mk

/-- The rule set that a text is. -/
def parse (text : String) : Except RulesError RuleSet := Source.decodeAll ofSource text

end RuleSet

end RecordFilter
