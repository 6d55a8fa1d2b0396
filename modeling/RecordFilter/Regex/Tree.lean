set_option autoImplicit false

/-!
# Pattern trees

What the text of a pattern says, before flags are applied: which characters a literal or a
set stands for depends on the flags in force where it stands, so a tree keeps sets as they are
written. `depth` counts the levels of a tree that are limited.
-/

namespace RecordFilter.Regex

/-- The flags that a pattern can set for a part of itself. -/
inductive Flag where
  | caseInsensitive
  | multiLine
  | dotMatchesNewline
  | swapGreed
  | unicode
  | carriageReturn
  | ignoreBlanks
deriving DecidableEq

/-- The flag with the given letter. -/
def Flag.ofLetter? (c : Char) : Option Flag :=
  if c = 'i' then some .caseInsensitive
  else if c = 'm' then some .multiLine
  else if c = 's' then some .dotMatchesNewline
  else if c = 'U' then some .swapGreed
  else if c = 'u' then some .unicode
  else if c = 'R' then some .carriageReturn
  else if c = 'x' then some .ignoreBlanks
  else none

/-- Flags that are switched on or off. -/
abbrev FlagChanges := List (Flag × Bool)

/-- A character of a pattern; `byByte` if it is written by a two-digit escape, which stands for
a byte where the pattern is not about characters. -/
structure Literal where
  char : Char
  byByte : Bool

/-- A condition on a place in the text. -/
inductive Assertion where
  | lineStart
  | lineEnd
  | textStart
  | textEnd
  | wordBoundary
  | notWordBoundary
  | wordStart
  | wordEnd
  | wordStartHalf
  | wordEndHalf
deriving DecidableEq

/-- The sets that a letter after a backslash stands for. -/
inductive LetterClass where
  | digit
  | space
  | word
deriving DecidableEq

/-- A set named by a property, or by a property and its value; a value may also be excluded. -/
inductive PropertyQuery where
  | named (name : String)
  | valued (property value : String) (excluded : Bool)

/-- Whether the query asks for the characters that do not have the value. -/
def PropertyQuery.excludes : PropertyQuery → Bool
  | .named _ => false
  | .valued _ _ excluded => excluded

/-- The operations between the two sides of a set. -/
inductive SetOperation where
  | intersection
  | difference
  | symmetricDifference
deriving DecidableEq

/-- A set of characters as it is written. -/
inductive SetTree where
  | empty
  | literal (value : Literal)
  | range (first last : Literal)
  | ascii (name : String) (negated : Bool)
  | letter (kind : LetterClass) (negated : Bool)
  | property (query : PropertyQuery) (negated : Bool)
  | bracketed (negated : Bool) (content : SetTree)
  | union (items : List SetTree)
  | operation (op : SetOperation) (left right : SetTree)

/-- A pattern as it is written. -/
inductive Tree where
  | empty
  /-- Flags that hold from here to the end of the group. -/
  | flags (changes : FlagChanges)
  | literal (value : Literal)
  | anyChar
  | assertion (kind : Assertion)
  | set (content : SetTree)
  /-- A repetition; `greedy` if it is written without the mark that prefers few. -/
  | repetition (least : Nat) (most : Option Nat) (greedy : Bool) (body : Tree)
  /-- A group that remembers what it matched, under a number of its own. -/
  | group (index : Nat) (body : Tree)
  /-- A group with flags of its own. -/
  | scope (changes : FlagChanges) (body : Tree)
  | sequence (items : List Tree)
  | alternation (branches : List Tree)

/-! ## Nesting -/

mutual

/-- The levels of a set. -/
def SetTree.depth : SetTree → Nat
  | .bracketed _ content => content.depth + 1
  | .union items => SetTree.depthItems items + 1
  | .operation _ left right => max left.depth right.depth + 1
  | _ => 0

/-- The greatest number of levels of sets. -/
def SetTree.depthItems : List SetTree → Nat
  | [] => 0
  | x :: xs => max x.depth (SetTree.depthItems xs)

end

mutual

/-- The levels of a pattern. -/
def Tree.depth : Tree → Nat
  | .set content => content.depth
  | .repetition _ _ _ body => body.depth + 1
  | .group _ body => body.depth + 1
  | .scope _ body => body.depth + 1
  | .sequence items => Tree.depthItems items + 1
  | .alternation branches => Tree.depthItems branches + 1
  | _ => 0

/-- The greatest number of levels of patterns. -/
def Tree.depthItems : List Tree → Nat
  | [] => 0
  | x :: xs => max x.depth (Tree.depthItems xs)

end

/-- Levels that a pattern may have. -/
def depthLimit : Nat := 250

end RecordFilter.Regex
