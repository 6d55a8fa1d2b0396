import RecordFilter.Processor.Event
import RecordFilter.Processor.Options

set_option autoImplicit false

/-!
# Passes

A pass reads a collection front to back and moves the records of one page to its front: of the
records that match, `offset` are skipped and at most `length` of the others kept. All matches are
counted. A record that cannot be evaluated aborts the pass and leaves the collection as far as it
got, with all its records.
-/

namespace RecordFilter

/-- How many records a pass kept and how many matched. -/
structure Tally where
  retained : Nat
  total : Nat
deriving DecidableEq

/-! ## The collection during a pass -/

/-- A collection of which some records have been read: the slots below `retained` hold the page so
far, and `skip` matches are still to be skipped. -/
structure Slots (α : Type) where
  items : Array α
  skip : Nat
  retained : Nat
  total : Nat

namespace Slots

variable {α : Type}

/-- The collection before a pass. -/
def start (items : Array α) (offset : Nat) : Slots α := ⟨items, offset, 0, 0⟩

/-- The record at slot `i` matches: it is skipped, or takes the next place of the page, or is only
counted because the page is full. The slots between the page and `i` hold records that are not
kept. -/
def keep (length i : Nat) (slots : Slots α) : Slots α :=
  if 0 < slots.skip then { slots with skip := slots.skip - 1, total := slots.total + 1 }
  else if slots.retained < length then
    { slots with
      items := slots.items.swapIfInBounds slots.retained i
      retained := slots.retained + 1
      total := slots.total + 1 }
  else { slots with total := slots.total + 1 }

/-- Reads the `count` slots from `i` on, up to the first record that cannot be evaluated, whose slot
and error are returned. -/
def scan (accept : α → Except Error Bool) (length : Nat) :
    Nat → Nat → Slots α → Slots α × Option (Nat × Error)
  | 0, _, slots => (slots, none)
  | count + 1, i, slots =>
    match slots.items[i]? with
    | none => (slots, none)
    | some item =>
      match accept item with
      | .ok true => scan accept length count (i + 1) (slots.keep length i)
      | .ok false => scan accept length count (i + 1) slots
      | .error error => (slots, some (i, error))

end Slots

/-! ## Processors -/

/-- The outcome of a pass: the collection after it, the tally or the error, and what was
reported. -/
structure Pass (α : Type) where
  items : Array α
  result : Except Error Tally
  events : List Event

namespace Processor

variable {α : Type}

/-- Refuses rule sets with more rules than the processor takes, and reports them. -/
def checkRuleCount (processor : Processor) (rules : RuleSet) :
    Except Error Unit × List Event :=
  let got := rules.ruleCount
  let max := processor.options.maxRules
  if max < got then (.error (.tooManyRules got max), [.tooManyRules got max]) else (.ok (), [])

/-- Whether a record satisfies a rule set that the processor takes. -/
def accepts (processor : Processor) (rules : RuleSet) (accessor : Accessor α) (record : α) :
    Except Error Bool × List Event :=
  match processor.checkRuleCount rules with
  | (.ok (), events) => (rules.evaluate accessor record, events)
  | (.error error, events) => (.error error, events)

/-- One page of the records that satisfy a rule set. -/
def page (processor : Processor) (rules : RuleSet) (accessor : Accessor α) (items : Array α)
    (offset length : Nat) : Pass α :=
  if length < 1 then ⟨items, .error .invalidLength, []⟩
  else
    match processor.checkRuleCount rules with
    | (.error error, events) => ⟨items, .error error, events⟩
    | (.ok (), events) =>
      match (Slots.start items offset).scan (rules.evaluate accessor) length items.size 0 with
      | (slots, some (index, error)) =>
        ⟨slots.items, .error error, events ++ [.passAborted index error]⟩
      | (slots, none) =>
        ⟨slots.items.take slots.retained, .ok ⟨slots.retained, slots.total⟩,
          events ++ [.passFinished offset length slots.retained slots.total]⟩

/-- The first page, of the length that the options say. -/
def apply (processor : Processor) (rules : RuleSet) (accessor : Accessor α) (items : Array α) :
    Pass α :=
  processor.page rules accessor items 0 processor.options.maxResults

end Processor

end RecordFilter
