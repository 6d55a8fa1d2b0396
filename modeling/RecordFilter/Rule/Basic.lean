import RecordFilter.Record.Path
import RecordFilter.Rule.Matcher

set_option autoImplicit false

/-!
# Rules

A rule compares one field of a record with a reference. Its matcher is made together with the
rule, so a rule with a bad reference does not exist. Two rules are the same when they say the same:
their matchers are not looked at.
-/

namespace RecordFilter

/-- A comparison of a field with a reference, with its matcher. -/
structure Rule where
  field : String
  operator : Operator
  reference : OrderedJson
  matcher : Matcher
  compiled : Matcher.compile operator reference = .ok matcher

namespace Rule

/-- The rule with the given parts, if the operator takes the reference. -/
def make (field : String) (operator : Operator) (reference : OrderedJson) :
    Except ReferenceError Rule :=
  match compiled : Matcher.compile operator reference with
  | .ok matcher => .ok ⟨field, operator, reference, matcher, compiled⟩
  | .error error => .error error

/-- Whether a value of the field satisfies the rule. -/
def evaluate (rule : Rule) (value : Value) : Bool := rule.matcher.evaluate value

/-- Whether a record satisfies the rule; one without the field does not. -/
def accepts {α : Type} (accessor : Accessor α) (record : α) (rule : Rule) :
    Except Error Bool :=
  (accessor record rule.field).map fun value => value.any rule.evaluate

/-- Whether two rules say the same. -/
def equals (a b : Rule) : Bool :=
  a.field == b.field && a.operator == b.operator && a.reference.document.equals b.reference

end Rule

/-! ## Rule sets -/

/-- Rules in two levels: a record satisfies the set if it satisfies every group, and a group if
it satisfies one rule of it. -/
structure RuleSet where
  groups : List (List Rule)

namespace RuleSet

/-- The set of no groups, which every record satisfies. -/
def empty : RuleSet := ⟨[]⟩

/-- The set with one more group. -/
def and (rules : RuleSet) (group : List Rule) : RuleSet := ⟨rules.groups ++ [group]⟩

/-- The number of rules in all groups. -/
def ruleCount (rules : RuleSet) : Nat := rules.groups.flatten.length

/-- Whether there are no groups. -/
def isEmpty (rules : RuleSet) : Bool := rules.groups.isEmpty

/-- Whether a record satisfies the set. Groups are asked in their order up to the first that fails,
rules of a group up to the first that matches; an accessor's error ends it. -/
def evaluate {α : Type} (rules : RuleSet) (accessor : Accessor α) (record : α) :
    Except Error Bool :=
  rules.groups.allM fun group => group.anyM (Rule.accepts accessor record)

/-- Whether two lists of rules say the same, rule by rule. -/
def sameRules : List Rule → List Rule → Bool
  | [], [] => true
  | a :: as, b :: bs => a.equals b && sameRules as bs
  | _, _ => false

/-- Whether two lists of groups say the same, group by group. -/
def sameGroups : List (List Rule) → List (List Rule) → Bool
  | [], [] => true
  | a :: as, b :: bs => sameRules a b && sameGroups as bs
  | _, _ => false

/-- Whether two sets say the same, in the same order. -/
def equals (a b : RuleSet) : Bool := sameGroups a.groups b.groups

end RuleSet

end RecordFilter
