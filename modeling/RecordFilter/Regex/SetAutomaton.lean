import RecordFilter.Regex.ByteRange
import RecordFilter.Regex.Draft
import Std.Data.HashMap

set_option autoImplicit false

/-!
# Automata for sets of characters

The automaton for a set reads the encoding of one character. States with the same ways out are
shared: read from the first byte to the last, characters with the same last bytes go through the
same states, and read backward, characters with the same first bytes do. A table with a fixed number
of slots remembers the states, so that one is built anew when another has taken its slot.
-/

namespace RecordFilter.Regex

open Unicode (CharSet)

/-! ## Remembered states -/

/-- States by their descriptions, at most one in each slot. -/
structure StateTable where
  slots : Nat
  entries : Std.HashMap Nat (List Nat × Nat)

namespace StateTable

/-- A table without states. -/
def empty (slots : Nat) : StateTable := ⟨slots, ∅⟩

/-- A number for a description, in which every number of it has its part. -/
def mix (description : List Nat) : UInt64 :=
  description.foldl (fun sum n => (sum ^^^ n.toUInt64) * 1099511628211) 14695981039346656037

/-- The slot of a description. -/
def slot (table : StateTable) (description : List Nat) : Nat :=
  (mix description).toNat % table.slots

/-- The state with a description, unless another took its slot. -/
def find? (table : StateTable) (description : List Nat) : Option Nat :=
  match table.entries[table.slot description]? with
  | some (known, state) => if known = description then some state else none
  | none => none

/-- The table with a state, which takes its slot. -/
def insert (table : StateTable) (description : List Nat) (state : Nat) : StateTable :=
  { table with entries := table.entries.insert (table.slot description) (description, state) }

end StateTable

/-- A draft and the states of it that are remembered. -/
structure Sharing where
  draft : Draft
  known : StateTable

/-- The state with a description, which `build` adds if it is not known. -/
def Sharing.state (build : Draft → Draft) (description : List Nat) : StateM Sharing Nat := do
  let before ← get
  match before.known.find? description with
  | some state => return state
  | none =>
    let state := before.draft.states
    set (⟨build before.draft, before.known.insert description state⟩ : Sharing)
    return state

/-! ## From the first byte to the last -/

/-- A state that may yet get ways out. The ways it has, in reverse, lead to states that are done;
the open one leads to the next open state. -/
structure OpenState where
  ways : List (ByteRange × Nat)
  way? : Option ByteRange

namespace OpenState

/-- The ways out once the open one leads to `target`, in reverse. -/
def close (state : OpenState) (target : Nat) : List (ByteRange × Nat) :=
  match state.way? with
  | some range => (range, target) :: state.ways
  | none => state.ways

/-- The description of a state with the given ways out, in reverse. -/
def description (ways : List (ByteRange × Nat)) : List Nat :=
  ways.reverse.flatMap fun (range, target) => [range.first, range.last, target]

/-- Closes open states, of which each leads to the next and the last to `target`; the first of them
as a state that is done. -/
def finish (target : Nat) : List OpenState → StateM Sharing Nat
  | [] => return target
  | state :: deeper => do
    let next ← finish target deeper
    let ways := state.close next
    Sharing.state (·.addChoice ways.length) (description ways)

/-- The open states once a sequence of byte ranges is added. As far as the sequence before began in
the same way, its states are used again. -/
def extend (target : Nat) : List ByteRange → List OpenState → StateM Sharing (List OpenState)
  | range :: more, state :: deeper => do
    if state.way? = some range then return state :: (← extend target more deeper)
    else
      let next ← finish target deeper
      return ⟨state.close next, some range⟩ :: more.map fun later => ⟨[], some later⟩
  | _, states => return states

end OpenState

/-- The draft with the automaton for a set, read forward. -/
def Draft.addSetForward (draft : Draft) (sequences : List (List ByteRange)) : Draft :=
  let target := draft.states
  let build : StateM Sharing Nat := do
    let states ← sequences.foldlM (fun states sequence => OpenState.extend target sequence states)
      [⟨[], none⟩]
    OpenState.finish target states
  (build.run ⟨draft.add 1, .empty 10000⟩).2.draft

/-! ## From the last byte to the first -/

/-- The states for a sequence of byte ranges read backward, with `target` after the first one. -/
def Sharing.chain (target : Nat) : List ByteRange → StateM Sharing Nat
  | [] => return target
  | range :: more => do
    chain (← Sharing.state (·.add 1) [target, range.first, range.last]) more

/-- The draft with the automaton for a set, read backward. -/
def Draft.addSetBackward (draft : Draft) (sequences : List (List ByteRange)) : Draft :=
  let target := draft.states + 1
  let build : StateM Sharing Unit := sequences.forM fun sequence => do
    let _ ← Sharing.chain target sequence
    modify fun sharing => { sharing with draft := sharing.draft.addWays 1 }
  (build.run ⟨draft.add 2, .empty 1000⟩).2.draft

end RecordFilter.Regex
