import Reroute.Regex.Size.Memory

/-!
The states of a choice between literal texts.  They form a tree that branches where the texts
part.  A text that ends where others go on closes the branches so far, so that longer texts
behind it come after it; what follows is a new chunk of branches.
-/
namespace Reroute.Regex.Size

/-- Divide words at each empty one. -/
def divide : List (List Nat) → List (List (List Nat))
  | [] => [[]]
  | [] :: rest => [] :: divide rest
  | word :: rest =>
      match divide rest with
      | [] => [[word]]
      | chunk :: chunks => (word :: chunk) :: chunks

/-- The chunks of words.  Empty words before all others count as one. -/
def chunks (words : List (List Nat)) : List (List (List Nat)) :=
  let rest := words.dropWhile List.isEmpty
  if rest.length < words.length then [] :: divide rest else divide rest

/-- What follows each of the first bytes of a chunk. -/
def byFirst (chunk : List (List Nat)) : List (List (List Nat)) :=
  (chunk.filterMap List.head?).eraseDups.map fun byte =>
    (chunk.filter fun word => word.head? == some byte).map List.tail

/-- The states that read some words, without the end that all of them share.  A chunk is a
state with a range for every branch, and a fork joins the chunks, with the end between
them. -/
def ofWords : Nat → List (List Nat) → Memory
  | 0, _ => .empty
  | depth + 1, words =>
      if words.all List.isEmpty then .empty
      else
        let parts := chunks words
        let branchings := (parts.map byFirst).filter fun branches => !branches.isEmpty
        let fork : Memory := ⟨1, successorSize * (branchings.length + (parts.length - 1))⟩
        fork.plus (.sum (branchings.map fun branches =>
          let state : Memory := ⟨1, if branches.length = 1 then 0 else rangeSize * branches.length⟩
          state.plus (.sum (branches.map (ofWords depth)))))

/-- Add the states of a choice between words.  Read backwards, the words are turned round. -/
def addWords? (backwards : Bool) (words : List (List Nat)) (memory : Memory) :
    Option Memory :=
  let words := if backwards then words.map List.reverse else words
  let depth := words.foldr (fun word depth => max word.length depth) 0
  ((memory.plus ⟨1, 0⟩).plus (ofWords depth words)).checked?

end Reroute.Regex.Size
