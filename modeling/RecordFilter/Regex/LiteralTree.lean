import RecordFilter.Regex.Draft

set_option autoImplicit false

/-!
# Automata for alternatives that are literals

Alternatives that are literals are kept in a tree by their bytes. The order of the alternatives
counts: what follows a literal that ends at a node is kept apart from what came before it, so that a
node has one choice for each stretch of literals between two that end there.
-/

namespace RecordFilter.Regex.LiteralTree

/-- The rests of literals at a node, in stretches between those that end there. -/
def stretches : List (List UInt8) → List (List (List UInt8))
  | [] => [[]]
  | [] :: rest => [] :: stretches rest
  | literal :: rest =>
    match stretches rest with
    | [] => [[literal]]
    | first :: others => (literal :: first) :: others

/-- How many ends of literals a node records. Before anything goes on from it, one is enough. -/
def ends (literals : List (List UInt8)) : Nat :=
  let later := literals.dropWhile List.isEmpty
  min 1 (literals.length - later.length) + later.countP List.isEmpty

/-- The bytes that literals begin with, each once. -/
def firstBytes (literals : List (List UInt8)) : List UInt8 :=
  (literals.filterMap List.head?).eraseDups

/-- The rests of those literals that begin with a byte. -/
def restsAfter (byte : UInt8) (literals : List (List UInt8)) : List (List UInt8) :=
  (literals.filter fun literal => literal.head? = some byte).map List.tail

/-- The draft with a node and those after it; a node from which nothing goes on is no state. A
stretch with one byte to go on is a plain state. The first argument bounds the literals' lengths. -/
def addNode : Nat → List (List UInt8) → Draft → Draft
  | 0, _, draft => draft
  | bound + 1, literals, draft =>
    if literals.all List.isEmpty then draft
    else
      let goingOn := (stretches literals).filter fun stretch => !stretch.isEmpty
      let built := goingOn.foldl (fun draft stretch =>
        let bytes := firstBytes stretch
        let deeper := bytes.foldl
          (fun draft byte => addNode bound (restsAfter byte stretch) draft) draft
        if bytes.length = 1 then deeper.add 1 else deeper.addChoice bytes.length) draft
      (built.add 1).addWays (goingOn.length + ends literals)

/-- The draft with the tree of literals, which all lead to one last state. -/
def add (literals : List (List UInt8)) (draft : Draft) : Draft :=
  addNode ((literals.map List.length).foldl max 0) literals (draft.add 1)

end RecordFilter.Regex.LiteralTree
