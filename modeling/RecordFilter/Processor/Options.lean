import RecordFilter.Error
import RecordFilter.Json.Decoding

set_option autoImplicit false

/-!
# Options

What a processor can be told: how many rules it takes, how many records a page has unless it
says so, and under which key a query holds the rules. `Processor.ofOptions` is the only way from
options to a processor, so the options of a processor are usable.
-/

namespace RecordFilter

/-- The options of a processor. -/
structure Options where
  maxRules : Nat
  maxResults : Nat
  queryKey : String
deriving DecidableEq

/-- Why options were refused. -/
inductive OptionError where
  | noRules
  | noResults
  | noKey
deriving DecidableEq

/-- The option and what is wrong with it. -/
def OptionError.toError : OptionError → Error
  | .noRules => .invalidConfig "max_rules" "must be at least 1"
  | .noResults => .invalidConfig "max_results" "must be at least 1"
  | .noKey => .invalidConfig "query_key" "must not be empty"

/-- Applies rule sets, within the bounds of its options. -/
structure Processor where
  options : Options
  maxRules_pos : 1 ≤ options.maxRules
  maxResults_pos : 1 ≤ options.maxResults
  queryKey_ne : options.queryKey ≠ ""
deriving DecidableEq

namespace Options

/-- The options of one who says nothing. -/
def standard : Options := ⟨3, 2147483647, "filter"⟩

/-- The names of the options. -/
def names : List String := ["max_rules", "max_results", "query_key"]

/-- The options as a document's members, in their order. -/
def members (options : Options) : List (String × List Char) :=
  [("max_rules", Nat.toDigits 10 options.maxRules),
   ("max_results", Nat.toDigits 10 options.maxResults),
   ("query_key", Json.quote options.queryKey)]

/-- The text of options. -/
def text (options : Options) : String :=
  let written := options.members.map fun (name, value) => Json.quote name ++ ':' :: value
  String.ofList ('\x7b' :: (written.intersperse [',']).flatten ++ ['\x7d'])

/-! ## Reading -/

/-- Why a text does not say options; there is no value of the right form that is refused. -/
abbrev ReadError := DecodeError Empty

/-- The text of an error. -/
def ReadError.message (error : ReadError) : String := DecodeError.message nofun error

/-- The options that have been read. -/
structure Parts where
  maxRules : Option Nat
  maxResults : Option Nat
  queryKey : Option String

/-- No option. -/
def Parts.none : Parts := ⟨.none, .none, .none⟩

/-- The parts with what one more member says. -/
def Parts.add (parts : Parts) (member : MemberName × Source) : Except ReadError Parts := do
  let name ← Source.orBroken (Source.nameOf member.1)
  let value := member.2
  if name = "max_rules" then
    if parts.maxRules.isSome then throw (.duplicateMember name)
    return { parts with maxRules := some (← value.decodeSize) }
  else if name = "max_results" then
    if parts.maxResults.isSome then throw (.duplicateMember name)
    return { parts with maxResults := some (← value.decodeSize) }
  else if name = "query_key" then
    if parts.queryKey.isSome then throw (.duplicateMember name)
    return { parts with queryKey := some (← value.decodeText "a string") }
  else throw (.unknownName "field" name names)

/-- The options with the standard ones in place of those not said. -/
def Parts.complete (parts : Parts) : Options where
  maxRules := parts.maxRules.getD standard.maxRules
  maxResults := parts.maxResults.getD standard.maxResults
  queryKey := parts.queryKey.getD standard.queryKey

/-- The options that a tree says: an object of some of them, or an array of the first few. -/
def ofSource : Source → Except ReadError Options
  | .object members stop => do
    let parts ← members.foldlM Parts.add .none
    Source.orBroken (Source.readStop stop)
    return parts.complete
  | .array items stop => do
    let members := (names.zip items).map fun (name, item) => (Except.ok (some name), item)
    let parts ← members.foldlM Parts.add .none
    if names.length < items.length then throw (.broken .malformed)
    Source.orBroken (Source.readStop stop)
    return parts.complete
  | other => other.unexpected "struct ProcessorConfig"

/-- The options that a text says. -/
def parse (text : String) : Except ReadError Options := Source.decodeAll ofSource text

end Options

namespace Processor

/-- The processor with the given options. The first option that is not usable is the error. -/
def ofOptions (options : Options) : Except OptionError Processor :=
  if rules : 1 ≤ options.maxRules then
    if results : 1 ≤ options.maxResults then
      if key : options.queryKey ≠ "" then .ok ⟨options, rules, results, key⟩
      else .error .noKey
    else .error .noResults
  else .error .noRules

/-- The processor with the standard options. -/
def standard : Processor := ⟨.standard, by decide, by decide, by decide⟩

end Processor

/-! ## Building -/

/-- An option that is set before a processor is made. -/
inductive Setting where
  | maxRules (value : Nat)
  | maxResults (value : Nat)
  | queryKey (value : String)

/-- The options with one of them set. -/
def Options.set (options : Options) : Setting → Options
  | .maxRules value => { options with maxRules := value }
  | .maxResults value => { options with maxResults := value }
  | .queryKey value => { options with queryKey := value }

/-- The processor of one who sets options one after the other, beginning with the standard ones. -/
def Processor.build (settings : List Setting) : Except OptionError Processor :=
  ofOptions (settings.foldl Options.set .standard)

end RecordFilter
