import RecordFilter.Regex.LiteralTree
import RecordFilter.Regex.SetAutomaton
import RecordFilter.Regex.Simplification
import RecordFilter.Text.Utf8

set_option autoImplicit false

/-!
# The size of a pattern's automaton

A pattern stands for two automata, one that reads a text forward and one that reads it backward, in
which repetitions are written out. `Pattern.fits` says whether both are small enough. Each clause of
`Pattern.build` adds the states for one kind of pattern to a draft.
-/

namespace RecordFilter.Regex

/-- The direction in which a text is read. -/
inductive Direction where
  | forward
  | backward
deriving DecidableEq

namespace Pattern

/-! ## What automata depend on -/

/-- The fewest bytes that the pattern matches; none if no text matches. -/
def leastLength : Pattern → Option Nat
  | .empty | .look _ => some 0
  | .literal chars => some (Utf8.encode chars).length
  | .set characters _ => characters.bounds[0]?.map fun code => (Char.ofNat code).utf8Size
  | .repetition least _ _ body => body.leastLength.map (least * ·)
  | .group _ body => body.leastLength
  | .sequence first second => do return (← first.leastLength) + (← second.leastLength)
  | .either first second => do return min (← first.leastLength) (← second.leastLength)

/-- Whether the pattern is known to match at the start of a text only. -/
def isAnchoredAtStart : Pattern → Bool
  | .look condition => condition = .textStart
  | .repetition least _ _ body => 0 < least && body.isAnchoredAtStart
  | .group _ body => body.isAnchoredAtStart
  | .sequence first second =>
    first.isAnchoredAtStart || (first.isEmptyOnly && second.isAnchoredAtStart)
  | .either first second => first.isAnchoredAtStart && second.isAnchoredAtStart
  | _ => false

/-- Whether the pattern is known to match at the end of a text only. -/
def isAnchoredAtEnd : Pattern → Bool
  | .look condition => condition = .textEnd
  | .repetition least _ _ body => 0 < least && body.isAnchoredAtEnd
  | .group _ body => body.isAnchoredAtEnd
  | .sequence first second =>
    second.isAnchoredAtEnd || (second.isEmptyOnly && first.isAnchoredAtEnd)
  | .either first second => first.isAnchoredAtEnd && second.isAnchoredAtEnd
  | _ => false

/-- The bytes of a literal. -/
def bytes? : Pattern → Option (List UInt8)
  | .literal chars => some (Utf8.encode chars)
  | _ => none

/-! ## Parts -/

/-- What a pattern is among the branches of an alternation. -/
inductive Role where
  | whole
  /-- The second branch, after one that ends in a state that may keep a list of its ways out. -/
  | second (first : Bool)
  | later

/-- A pattern in its role. The second branch brings the states before and after all branches. -/
def Role.settle : Role → Fragment → Fragment
  | .whole, part => part
  | .second first, part =>
    let both := (⟨part.leadOn, first⟩ : Fragment).leadOn
    ⟨(both.add 2).addWays 2, false⟩
  | .later, part => ⟨part.leadOn.addWays 1, false⟩

/-- The part for a set of characters. Sets of ASCII need no more than one choice. -/
def buildSet (direction : Direction) (characters : Unicode.CharSet) (draft : Draft) : Draft :=
  if characters.isAscii then (draft.add 1).addChoice characters.ranges.length
  else
    match direction with
    | .forward => draft.addSetForward (encodingsOf characters)
    | .backward => draft.addSetBackward (encodingsOf characters)

/-- Further copies of a part after those built already. -/
def buildMore (build : Draft → Option Fragment) : Nat → Fragment → Option Fragment
  | 0, part => some part
  | count + 1, part => do buildMore build count (← build part.leadOn)

/-- Copies of a part; without any there is one state. -/
def buildCopies (build : Draft → Option Fragment) : Nat → Draft → Option Fragment
  | 0, draft => some ⟨draft.add 1, false⟩
  | count + 1, draft => do buildMore build count (← build draft)

/-- Copies of a part after those built already, before each of which a choice may end them. -/
def buildOptional (build : Draft → Option Fragment) : Nat → Fragment → Option Fragment
  | 0, part => some part
  | count + 1, part => do
    buildOptional build count (← build ((part.leadOn.add 1).addWays 2))

/-- A repetition of a part; `advances` if the part never matches the empty text. -/
def buildRepetition (build : Draft → Option Fragment) (advances : Bool) (least : Nat)
    (most : Option Nat) (draft : Draft) : Option Fragment := do
  match least, most with
  | 0, some 1 =>
    let part ← build (draft.add 1)
    return ⟨(part.leadOn.add 1).addWays 2, false⟩
  | 0, none =>
    if advances then
      let part ← build (draft.add 1)
      return ⟨part.leadOn.addWays 1, true⟩
    else
      let part ← build draft
      return ⟨(part.leadOn.add 3).addWays 4, false⟩
  | least, none =>
    let part ← buildCopies build least draft
    return ⟨(part.leadOn.add 1).addWays 1, true⟩
  | least, some most =>
    let before ← buildCopies build least draft
    if least = most then return before
    let part ← buildOptional build (most - least) ⟨before.draft.add 1, before.lists⟩
    return ⟨part.leadOn, false⟩

/-! ## Whole patterns -/

/-- The draft with the states for a pattern, unless it is too large. -/
def build (direction : Direction) : Pattern → Role → Draft → Option Fragment
  | .empty, role, draft | .look _, role, draft => do
    return role.settle ⟨← (draft.add 1).checked, false⟩
  | .literal chars, role, draft => do
    return role.settle ⟨← (draft.add (Utf8.encode chars).length).checked, false⟩
  | .set characters _, role, draft => do
    return role.settle ⟨← (buildSet direction characters draft).checked, false⟩
  | .repetition least most _ body, role, draft => do
    let advances := body.leastLength.any (0 < ·)
    return role.settle
      (← buildRepetition (body.build direction .whole) advances least most draft)
  | .group _ body, role, draft => do
    match direction with
    | .forward =>
      let part ← body.build direction .whole (draft.add 1)
      return role.settle ⟨part.leadOn.add 1, false⟩
    | .backward => return role.settle (← body.build direction .whole draft)
  | .sequence first second, role, draft => do
    match direction with
    | .forward =>
      let part ← first.build direction .whole draft
      return role.settle (← second.build direction .whole part.leadOn)
    | .backward =>
      let part ← second.build direction .whole draft
      return role.settle (← first.build direction .whole part.leadOn)
  | .either first second, role, draft => do
    match role with
    | .whole =>
      match (first :: second.branches).mapM bytes? with
      | some literals =>
        let literals := if direction = .forward then literals else literals.map List.reverse
        return ⟨← (LiteralTree.add literals draft).checked, false⟩
      | none =>
        let part ← first.build direction .whole draft
        second.build direction (.second part.lists) part.draft
    | role =>
      let part ← first.build direction .whole draft
      second.build direction .later (role.settle part).draft

/-- Whether the automaton for one direction is small enough. It begins with a state, or a loop over
all bytes if a match may begin anywhere; forward, it also notes where the match begins and ends. -/
def fitsReading (direction : Direction) (pattern : Pattern) : Bool :=
  let (anchored, notes) := match direction with
    | .forward => (pattern.isAnchoredAtStart, 1)
    | .backward => (pattern.isAnchoredAtEnd, 0)
  let start : Draft := if anchored then ⟨1, 0⟩ else (((⟨1, 0⟩ : Draft).add 1).addChoice 1).addWays 2
  match pattern.build direction .whole (start.add notes) with
  | some part => ((part.leadOn.add notes).add 1).checked.isSome
  | none => false

/-- Whether the automata for both directions are small enough. -/
def fits (pattern : Pattern) : Bool := pattern.fitsReading .forward && pattern.fitsReading .backward

end Pattern

end RecordFilter.Regex
