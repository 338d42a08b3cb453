import Reroute.Text.Basic

/-!
What an automaton takes up.  States are numbered in the order in which they are added, and
adding one fails where the automaton would outgrow the limit.
-/
namespace Reroute.Regex.Size

/-- The greatest size of an automaton: ten mebibytes. -/
def limit : Nat := 10 * 1024 * 1024

/-- The size of a state. -/
def stateSize : Nat := 32

/-- The size of one of several byte ranges of a state. -/
def rangeSize : Nat := 8

/-- The size of a successor of a fork. -/
def successorSize : Nat := 4

/-- How many states there are, and the bytes they take beyond their own size. -/
structure Memory where
  states : Nat
  beyond : Nat
deriving Repr, DecidableEq

namespace Memory

/-- No states. -/
def empty : Memory := ⟨0, 0⟩

/-- The bytes in use. -/
def bytes (memory : Memory) : Nat := stateSize * memory.states + memory.beyond

/-- What is in use, as long as it keeps within the limit. -/
def checked? (memory : Memory) : Option Memory :=
  if memory.bytes ≤ limit then some memory else none

/-- What two parts take up together. -/
def plus (a b : Memory) : Memory := ⟨a.states + b.states, a.beyond + b.beyond⟩

/-- What several parts take up together. -/
def sum (parts : List Memory) : Memory := parts.foldr plus empty

/-- Add states that take some bytes beyond their own size. -/
def add? (states beyond : Nat) (memory : Memory) : Option Memory :=
  (memory.plus ⟨states, beyond⟩).checked?

end Memory

end Reroute.Regex.Size
