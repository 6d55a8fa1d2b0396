import RecordFilter.Regex.Automaton
import RecordFilter.Regex.Parser
import RecordFilter.Regex.Property

set_option autoImplicit false

/-!
# Regular expressions

`Pattern.parse?` reads a pattern and applies its flags. Flags hold from where they stand to the end
of their group, across the branches of an alternation. Where the pattern is not about characters,
whatever could match a part of a character is refused, and so is a pattern whose automaton would be
too large.
-/

namespace RecordFilter.Regex

open Unicode (CharSet)

/-- The flags that decide what a part of a pattern matches. -/
structure Flags where
  caseInsensitive : Bool
  multiLine : Bool
  dotMatchesNewline : Bool
  swapGreed : Bool
  unicode : Bool
  carriageReturn : Bool

namespace Flags

/-- The flags at the start of a pattern. -/
def start : Flags := ⟨false, false, false, false, true, false⟩

/-- The flags with one of them set. -/
def put (flags : Flags) : Flag × Bool → Flags
  | (.caseInsensitive, on) => { flags with caseInsensitive := on }
  | (.multiLine, on) => { flags with multiLine := on }
  | (.dotMatchesNewline, on) => { flags with dotMatchesNewline := on }
  | (.swapGreed, on) => { flags with swapGreed := on }
  | (.unicode, on) => { flags with unicode := on }
  | (.carriageReturn, on) => { flags with carriageReturn := on }
  | (.ignoreBlanks, _) => flags

/-- The flags after changes. -/
def change (flags : Flags) (changes : FlagChanges) : Flags := changes.foldl put flags

end Flags

/-! ## Sets -/

namespace SetTree

/-- A set with the case of its characters ignored if the flag says so. -/
def fold (flags : Flags) (set : CharSet) : CharSet :=
  if flags.caseInsensitive then (if flags.unicode then set.folded else set.asciiFolded) else set

/-- The complement if `negated`; without whole characters there is none. -/
def negate (flags : Flags) (negated : Bool) (set : CharSet) : Option CharSet :=
  if negated && !flags.unicode then none else some (set.negatedIf negated)

/-- The character of a literal in a set; without whole characters it has to be of ASCII. -/
def character (flags : Flags) (literal : Literal) : Option Char :=
  if flags.unicode || literal.char.toNat < 128 then some literal.char else none

/-- The set that a letter stands for. -/
def ofLetter (flags : Flags) (kind : LetterClass) : CharSet :=
  match kind with
  | .digit => if flags.unicode then NamedSet.digit else NamedSet.asciiDigit
  | .space => if flags.unicode then Unicode.whiteSpace else NamedSet.asciiSpace
  | .word => NamedSet.word flags.unicode

/-- The set that a property names. -/
def ofQuery? : PropertyQuery → Option CharSet
  | .named name => Property.ofName? name
  | .valued name value _ => Property.ofValue? name value

mutual

/-- The characters of a set. -/
def resolve (flags : Flags) : SetTree → Option CharSet
  | .empty => some .empty
  | .literal value => (character flags value).map .single
  | .range first last => do return .range (← character flags first) (← character flags last)
  | .ascii name negated => do negate flags negated (fold flags (← NamedSet.ascii? name))
  | .letter kind negated => negate flags negated (ofLetter flags kind)
  | .property query negated =>
    if flags.unicode then do
      return (fold flags (← ofQuery? query)).negatedIf (negated != query.excludes)
    else none
  | .bracketed negated content => do negate flags negated (fold flags (← content.resolve flags))
  | .union items => resolveUnion flags items
  | .operation op left right => do
    let left := fold flags (← left.resolve flags)
    let right := fold flags (← right.resolve flags)
    match op with
    | .intersection => return left.intersection right
    | .difference => return left.difference right
    | .symmetricDifference => return left.symmetricDifference right

/-- The characters of the items of a set. -/
def resolveUnion (flags : Flags) : List SetTree → Option CharSet
  | [] => some .empty
  | x :: xs => do return (← x.resolve flags).union (← resolveUnion flags xs)

end

end SetTree

/-! ## Patterns -/

namespace Tree

/-- The pattern of a character. -/
def ofLiteral (flags : Flags) (literal : Literal) : Option Pattern :=
  let c := literal.char
  if literal.byByte && !flags.unicode && 128 ≤ c.toNat then none
  else if flags.caseInsensitive && (if flags.unicode then 1 < (Unicode.foldClass c).length
      else c.isAlpha) then
    some (.ofSet (SetTree.fold flags (.single c)) flags.unicode)
  else some (.literal [c])

/-- The condition of an assertion. -/
def ofAssertion (flags : Flags) : Assertion → Look
  | .lineStart =>
    if flags.multiLine then (if flags.carriageReturn then .eitherLineStart else .lineStart)
    else .textStart
  | .lineEnd =>
    if flags.multiLine then (if flags.carriageReturn then .eitherLineEnd else .lineEnd)
    else .textEnd
  | .textStart => .textStart
  | .textEnd => .textEnd
  | .wordBoundary => .wordBoundary flags.unicode
  | .notWordBoundary => .notWordBoundary flags.unicode
  | .wordStart => .wordStart flags.unicode
  | .wordEnd => .wordEnd flags.unicode
  | .wordStartHalf => .wordStartHalf flags.unicode
  | .wordEndHalf => .wordEndHalf flags.unicode

/-- The characters that a dot matches. -/
def dot (flags : Flags) : CharSet :=
  if flags.dotMatchesNewline then .all
  else if flags.carriageReturn then (CharSet.ofRanges [('\n', '\n'), ('\r', '\r')]).complement
  else (CharSet.single '\n').complement

mutual

/-- The pattern of a tree, and the flags after it. -/
def resolve : Tree → Flags → Option (Pattern × Flags)
  | .empty, now => some (.empty, now)
  | .flags changes, now => some (.empty, now.change changes)
  | .literal value, now => (ofLiteral now value).map fun pattern => (pattern, now)
  | .anyChar, now => if now.unicode then some (.ofSet (dot now) true, now) else none
  | .assertion kind, now => some (.look (ofAssertion now kind), now)
  | .set content, now => do
    return (.ofSet (← content.resolve now) now.unicode, now)
  | .repetition least most greedy body, now => do
    let (pattern, after) ← body.resolve now
    return (.ofRepetition least most (greedy != after.swapGreed) pattern, after)
  | .group index body, now => do
    let (pattern, _) ← body.resolve now
    return (.group index pattern, now)
  | .scope changes body, now => do
    let (pattern, _) ← body.resolve (now.change changes)
    return (pattern, now)
  | .sequence items, now => do
    let (patterns, after) ← resolveItems items now
    return (.ofSequence patterns, after)
  | .alternation branches, now => do
    let (patterns, after) ← resolveItems branches now
    return (.ofBranches patterns, after)

/-- The patterns of trees, with the flags at the end of one in force at the start of the next. -/
def resolveItems : List Tree → Flags → Option (List Pattern × Flags)
  | [], now => some ([], now)
  | x :: xs, now => do
    let (first, after) ← x.resolve now
    let (others, after) ← resolveItems xs after
    return (first :: others, after)

end

end Tree

/-- The pattern that a text is, unless it is not well formed or too large. -/
def Pattern.parse? (text : String) : Option Pattern := do
  let tree ← Tree.parse? text
  let (pattern, _) ← tree.resolve .start
  if pattern.fits then some pattern else none

end RecordFilter.Regex
