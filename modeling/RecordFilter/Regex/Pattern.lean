import RecordFilter.Regex.NamedSet

set_option autoImplicit false

/-!
# Patterns

A pattern is matched by following all its ways through a text at once: `Pattern.advance` takes
the set of places where a match may stand before the pattern to the set of places where it may
stand after it. A set of places is a list with one truth value for each place, from the place
before the first character to the one after the last.
-/

namespace RecordFilter.Regex

open Unicode (CharSet)

/-! ## Places -/

/-- A place in a text, between two characters. -/
structure Place where
  before : Option Char
  after : Option Char

/-- The places of a text of which `before` is the last character so far. -/
def placesFrom (before : Option Char) : List Char → List Place
  | [] => [⟨before, none⟩]
  | c :: rest => ⟨before, some c⟩ :: placesFrom (some c) rest

/-- The places of a text. -/
def places (text : List Char) : List Place := placesFrom none text

/-- A condition on a place. The conditions on words say whether words are made of characters of
all scripts or of ASCII only. -/
inductive Look where
  | textStart
  | textEnd
  | lineStart
  | lineEnd
  /-- The start of a line where a carriage return, a line feed or both in this order end lines. -/
  | eitherLineStart
  /-- The end of such a line. -/
  | eitherLineEnd
  | wordBoundary (unicode : Bool)
  | notWordBoundary (unicode : Bool)
  | wordStart (unicode : Bool)
  | wordEnd (unicode : Bool)
  | wordStartHalf (unicode : Bool)
  | wordEndHalf (unicode : Bool)
deriving DecidableEq

namespace Look

/-- Whether there is a character and it belongs to words. -/
def inWord (unicode : Bool) (c : Option Char) : Bool := c.any (NamedSet.word unicode).contains

/-- Whether the condition holds at a place. -/
def holds (place : Place) : Look → Bool
  | .textStart => place.before.isNone
  | .textEnd => place.after.isNone
  | .lineStart => place.before.isNone || place.before = some '\n'
  | .lineEnd => place.after.isNone || place.after = some '\n'
  | .eitherLineStart =>
    place.before.isNone || place.before = some '\n' ||
      (place.before = some '\r' && place.after ≠ some '\n')
  | .eitherLineEnd =>
    place.after.isNone || place.after = some '\r' ||
      (place.after = some '\n' && place.before ≠ some '\r')
  | .wordBoundary unicode => inWord unicode place.before != inWord unicode place.after
  | .notWordBoundary unicode => inWord unicode place.before == inWord unicode place.after
  | .wordStart unicode => !inWord unicode place.before && inWord unicode place.after
  | .wordEnd unicode => inWord unicode place.before && !inWord unicode place.after
  | .wordStartHalf unicode => !inWord unicode place.before
  | .wordEndHalf unicode => !inWord unicode place.after

end Look

/-! ## Patterns -/

/-- A pattern. What a repetition prefers and the number of a group decide which match is found, not
whether there is one, but patterns that differ in them are different. -/
inductive Pattern where
  | empty
  /-- Some characters, one after the other. -/
  | literal (chars : List Char)
  /-- One character of a set; `unicode` unless it was meant as a set of bytes. -/
  | set (characters : CharSet) (unicode : Bool)
  | look (condition : Look)
  | repetition (least : Nat) (most : Option Nat) (greedy : Bool) (body : Pattern)
  | group (index : Nat) (body : Pattern)
  | sequence (first second : Pattern)
  | either (first second : Pattern)
deriving DecidableEq

/-- A set of places. -/
abbrev Marks := List Bool

namespace Marks

/-- The places in one of two sets. -/
def union (a b : Marks) : Marks := List.zipWith (· || ·) a b

/-- The set after `count` steps of `f`, stopping where a step changes nothing. -/
def iterate (f : Marks → Marks) : Nat → Marks → Marks
  | 0, marks => marks
  | count + 1, marks =>
    let next := f marks
    if next = marks then marks else iterate f count next

end Marks

namespace Pattern

/-- The places after one character that `accepts` allows. -/
def step (places : List Place) (accepts : Char → Bool) (marks : Marks) : Marks :=
  false :: (List.zipWith (fun place mark => mark && place.after.any accepts) places marks).dropLast

/-- The places after the pattern for those before it. -/
def advance (places : List Place) : Pattern → Marks → Marks
  | .empty, marks => marks
  | .literal chars, marks => chars.foldl (fun reached c => step places (· == c) reached) marks
  | .set characters _, marks => step places characters.contains marks
  | .look condition, marks =>
    List.zipWith (fun place mark => mark && condition.holds place) places marks
  | .repetition least most _ body, marks =>
    let required := Marks.iterate (body.advance places) least marks
    let optional := (most.map (· - least)).getD places.length
    Marks.iterate (fun reached => reached.union (body.advance places reached)) optional required
  | .group _ body, marks => body.advance places marks
  | .sequence first second, marks => second.advance places (first.advance places marks)
  | .either first second, marks => .union (first.advance places marks) (second.advance places marks)

/-- Whether the pattern matches some part of a text. -/
def isMatch (pattern : Pattern) (text : String) : Bool :=
  let places := places text.toList
  (pattern.advance places (places.map fun _ => true)).any id

end Pattern

end RecordFilter.Regex
