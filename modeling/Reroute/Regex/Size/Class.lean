import Reroute.Regex.Size.Memory
import Reroute.Regex.Size.Sequence
import Std.Data.HashMap

/-!
The states of a class.  Forwards the sequences of a class form a tree whose equal branches
are shared; backwards every sequence is a chain of its own that shares its end with others.
What may be shared is remembered in a fixed number of slots, one state to a slot, so a state
whose slot has gone to another one in the meantime is added again.
-/
namespace Reroute.Regex.Size

/-- Spread numbers over slots by their FNV-1a hash. -/
def slotOf (slots : Nat) (numbers : List Nat) : Nat :=
  (numbers.foldl (fun (hash : UInt64) n => (hash ^^^ n.toUInt64) * 1099511628211)
    14695981039346656037).toNat % slots

/-- The states that may be shared, by their slots: what tells them apart, and their number. -/
abbrev Slots := Std.HashMap Nat (List Nat × Nat)

/-- The state in use and the states that may be shared. -/
structure Sharing where
  memory : Memory
  slots : Slots

/-- Find a state that may be shared, or add it. -/
def Sharing.state? (count : Nat) (key : List Nat) (beyond : Nat) (sharing : Sharing) :
    Option (Nat × Sharing) :=
  let slot := slotOf count key
  let known? := sharing.slots[slot]?.bind fun (found, state) =>
    if found == key then some state else none
  match known? with
  | some state => some (state, sharing)
  | none =>
      let state := sharing.memory.states
      (sharing.memory.add? 1 beyond).map fun memory =>
        (state, ⟨memory, sharing.slots.insert slot (key, state)⟩)

/-- The slots for trees. -/
def treeSlots : Nat := 10000

/-- The slots for chains. -/
def chainSlots : Nat := 1000

/-- Add the states that read some sequences and go on in the state `behind`; the result is
the state to begin with.  States behind others are added first. -/
def addTree? (behind : Nat) : Nat → List ByteSequence → Sharing → Option (Nat × Sharing)
  | 0, _, sharing => some (behind, sharing)
  | depth + 1, sequences, sharing =>
      if sequences.all List.isEmpty then some (behind, sharing)
      else do
        let (arcs, sharing) ← (byHead sequences).foldlM (addArc depth) ([], sharing)
        sharing.state? treeSlots arcs.flatten (rangeSize * arcs.length)
where
  /-- Add what follows a byte range, and an arc to it. -/
  addArc (depth : Nat) (sofar : List (List Nat) × Sharing)
      (branch : ByteRange × List ByteSequence) : Option (List (List Nat) × Sharing) := do
    let (next, sharing) ← addTree? behind depth branch.2 sofar.2
    pure (sofar.1 ++ [[branch.1.1, branch.1.2, next]], sharing)

/-- Add the chain of one sequence that goes on in the state `behind`. -/
def addChain? (behind : Nat) (ranges : ByteSequence) (sharing : Sharing) : Option Sharing :=
  (ranges.foldlM (fun (sofar : Nat × Sharing) range =>
    sofar.2.state? chainSlots [sofar.1, range.1, range.2] 0) (behind, sharing)).map Prod.snd

/-- The size of a class of ASCII characters, whose ranges fit into one state. -/
def addAscii? (set : CharSet) (memory : Memory) : Option Memory :=
  memory.add? 2 (rangeSize * set.ranges.length)

/-- Add a class that is read forwards. -/
def addForwards? (set : CharSet) (memory : Memory) : Option Memory :=
  if set.isAscii then addAscii? set memory
  else do
    let target := memory.states
    let memory ← memory.add? 1 0
    let (_, sharing) ← addTree? target 4 (sequences set) ⟨memory, ∅⟩
    pure sharing.memory

/-- Add a class that is read backwards: a fork to all chains, and the end they share. -/
def addBackwards? (set : CharSet) (memory : Memory) : Option Memory :=
  if set.isAscii then addAscii? set memory
  else do
    let all := sequences set
    let target := memory.states + 1
    let memory ← memory.add? 2 (successorSize * all.length)
    let sharing ← all.foldlM (fun sharing ranges => addChain? target ranges sharing)
      (⟨memory, ∅⟩ : Sharing)
    pure sharing.memory

end Reroute.Regex.Size
