set_option autoImplicit false

/-!
# Sizes of automata

An automaton that is being built is known here only by how many states it has and by the bytes that
its states hold besides themselves. States are numbered in the order in which they are added.
-/

namespace RecordFilter.Regex

/-- The states of an automaton and the bytes that they hold besides themselves. -/
structure Draft where
  states : Nat
  held : Nat

namespace Draft

/-- The bytes of an automaton. -/
def size (draft : Draft) : Nat := 32 * draft.states + draft.held

/-- The bytes that an automaton may have. -/
def sizeLimit : Nat := 10 * 1024 * 1024

/-- The draft with further states. -/
def add (draft : Draft) (count : Nat) : Draft := { draft with states := draft.states + count }

/-- The draft with further bytes held by its states. -/
def hold (draft : Draft) (bytes : Nat) : Draft := { draft with held := draft.held + bytes }

/-- The draft with further ways out of states that keep a list of them. -/
def addWays (draft : Draft) (count : Nat) : Draft := draft.hold (4 * count)

/-- The draft with a state that chooses among `count` ways out by the next byte. -/
def addChoice (draft : Draft) (count : Nat) : Draft := (draft.add 1).hold (8 * count)

/-- The draft, unless it is too large. -/
def checked (draft : Draft) : Option Draft :=
  if draft.size ≤ sizeLimit then some draft else none

end Draft

/-- A draft whose last part ends in a state that, if `lists`, keeps a list of its ways out. -/
structure Fragment where
  draft : Draft
  lists : Bool

/-- The draft once the last part leads on to another state. -/
def Fragment.leadOn (fragment : Fragment) : Draft :=
  if fragment.lists then fragment.draft.addWays 1 else fragment.draft

end RecordFilter.Regex
