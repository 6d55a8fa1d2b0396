import RecordFilter.Regex.Pattern

set_option autoImplicit false

/-!
# Patterns in their simplest form

Each function here builds a pattern from its parts and leaves out what does not matter: sequences
and alternations are flat, literals that stand side by side are one, a set of one character is that
character, alternatives that are sets are one set, and what all alternatives begin with is written
once. The size of a pattern's automaton is that of its simplest form.
-/

namespace RecordFilter.Regex.Pattern

open Unicode (CharSet)

/-- The pattern that matches nothing. -/
def never : Pattern := .set .empty false

/-- One character of a set. -/
def ofSet (characters : CharSet) (unicode : Bool) : Pattern :=
  if characters = .empty then never
  else match characters.only? with
    | some c => .literal [c]
    | none => .set characters unicode

/-! ## Repetitions -/

/-- Whether the pattern only ever matches the empty text. -/
def isEmptyOnly : Pattern → Bool
  | .empty | .look _ => true
  | .literal _ | .set _ _ => false
  | .repetition _ most _ body => most.isSome && body.isEmptyOnly
  | .group _ body => body.isEmptyOnly
  | .sequence first second => first.isEmptyOnly && second.isEmptyOnly
  | .either first second => first.isEmptyOnly && second.isEmptyOnly

/-- A part from `least` to `most` times, where a part that matches only the empty text is not worth
repeating. -/
def ofRepetition (least : Nat) (most : Option Nat) (greedy : Bool) (body : Pattern) : Pattern :=
  let bound (n : Nat) : Nat := if body.isEmptyOnly then min n 1 else n
  let least := bound least
  let most := if body.isEmptyOnly then some (bound (most.getD 1)) else most
  if most = some 0 then .empty
  else if least = 1 ∧ most = some 1 then body
  else .repetition least most greedy body

/-! ## Sequences -/

/-- The parts of a sequence; no part is a sequence or empty. -/
def parts : Pattern → List Pattern
  | .empty => []
  | .sequence first second => first.parts ++ second.parts
  | other => [other]

/-- A part before others, joined with the next one if both are literals. -/
def joinLiteral : Pattern → List Pattern → List Pattern
  | .literal chars, .literal more :: rest => .literal (chars ++ more) :: rest
  | first, rest => first :: rest

/-- Parts one after the other. -/
def nestSequence : List Pattern → Pattern
  | [] => .empty
  | [part] => part
  | part :: rest => .sequence part (nestSequence rest)

/-- The sequence of patterns. -/
def ofSequence (patterns : List Pattern) : Pattern :=
  nestSequence ((patterns.flatMap parts).foldr joinLiteral [])

/-! ## Alternations -/

/-- The branches of an alternation; no branch is an alternation. -/
def branches : Pattern → List Pattern
  | .either first second => first.branches ++ second.branches
  | other => [other]

/-- Branches side by side. -/
def nestBranches : List Pattern → Pattern
  | [] => never
  | [branch] => branch
  | branch :: rest => .either branch (nestBranches rest)

/-- The character of a literal of one character. -/
def char? : Pattern → Option Char
  | .literal [c] => some c
  | _ => none

/-- The characters of a set. -/
def characters? : Pattern → Option CharSet
  | .set characters _ => some characters
  | _ => none

/-- What two lists begin with alike. -/
def commonPrefix {α : Type} [DecidableEq α] : List α → List α → List α
  | a :: as, b :: bs => if a = b then a :: commonPrefix as bs else []
  | _, _ => []

/-- What sequences begin with alike; a pattern of another kind has nothing to begin with. -/
def sharedStart (patterns : List Pattern) : List Pattern :=
  match patterns.map fun pattern =>
      match pattern with
      | .sequence _ _ => pattern.parts
      | _ => [] with
  | [] => []
  | first :: others => others.foldl commonPrefix first

/-- The number of literals, sets and conditions in a pattern. -/
def leaves : Pattern → Nat
  | .repetition _ _ _ body => body.leaves
  | .group _ body => body.leaves
  | .sequence first second => first.leaves + second.leaves
  | .either first second => first.leaves + second.leaves
  | _ => 1

/-- The alternation of patterns. The first argument bounds how often a shared start is taken out. -/
def alternationOf : Nat → List Pattern → Pattern
  | bound, patterns =>
    let flat := patterns.flatMap branches
    match flat with
    | [] => never
    | [branch] => branch
    | _ =>
      match flat.mapM char?, flat.mapM characters? with
      | some chars, _ => ofSet (.ofCodes (chars.map Char.toNat)) true
      | none, some sets => ofSet (.unions sets) true
      | none, none =>
        let start := sharedStart flat
        match bound, start with
        | 0, _ | _, [] => nestBranches flat
        | bound + 1, _ =>
          let ends := flat.map fun branch => ofSequence (branch.parts.drop start.length)
          ofSequence (start ++ [alternationOf bound ends])

/-- The alternation of patterns. -/
def ofBranches (patterns : List Pattern) : Pattern :=
  alternationOf (patterns.foldr (fun pattern count => leaves pattern + count) 0) patterns

end RecordFilter.Regex.Pattern
