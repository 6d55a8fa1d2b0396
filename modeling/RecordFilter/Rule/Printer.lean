import RecordFilter.Rule.Basic

set_option autoImplicit false

/-!
# Writing rule sets

Rules are written as objects with all three members, a null reference included, in the order
field, type, value.
-/

namespace RecordFilter

/-- The written form of a rule. -/
def Rule.render (rule : Rule) : List Char :=
  '\x7b' :: Json.renderMembers
      [("field", .string rule.field), ("type", .string rule.operator.name),
       ("value", rule.reference)] ++ ['\x7d']

/-- The text of a rule. -/
def Rule.text (rule : Rule) : String := String.ofList rule.render

namespace RuleSet

/-- Written items with commas between them. -/
def commaSeparated : List (List Char) → List Char
  | [] => []
  | [item] => item
  | item :: items => item ++ ',' :: commaSeparated items

/-- The written form of a group. -/
def renderGroup (group : List Rule) : List Char :=
  '[' :: commaSeparated (group.map Rule.render) ++ [']']

/-- The written form of a rule set. -/
def render (rules : RuleSet) : List Char :=
  '[' :: commaSeparated (rules.groups.map renderGroup) ++ [']']

/-- The text of a rule set. -/
def text (rules : RuleSet) : String := String.ofList rules.render

end RuleSet

end RecordFilter
