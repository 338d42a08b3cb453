import Reroute.Regex.Expression
import Reroute.Regex.Size.Class
import Reroute.Regex.Size.Literals

/-!
The size limit of expressions.  A counted repetition is cheap to write and costly to run, so
an expression is refused when the automaton that reads its UTF-8 bytes, forwards or
backwards, would outgrow the limit.  A part of the automaton ends in a state that what
follows is put behind; where this state is a fork, it takes a further successor for it.
-/
namespace Reroute.Regex.Size

/-- The direction in which an automaton reads. -/
inductive Direction where
  | forwards
  | backwards
deriving DecidableEq

/-- What has been built, and whether it ends in a fork. -/
structure Part where
  endsInFork : Bool
  memory : Memory

/-- Put something behind a part. -/
def Part.link? (part : Part) : Option Memory :=
  part.memory.add? 0 (if part.endsInFork then successorSize else 0)

/-- Add states, the last of which is no fork. -/
def plain? (states beyond : Nat) (memory : Memory) : Option Part :=
  (memory.add? states beyond).map (Part.mk false)

/-- Put copies of something behind a part. -/
def copies? (piece : Memory → Option Part) : Nat → Part → Option Part
  | 0, part => some part
  | count + 1, part =>
      match part.link?.bind piece with
      | some part => copies? piece count part
      | none => none

/-- A number of copies in sequence; none at all are an empty state. -/
def exactly? (piece : Memory → Option Part) (count : Nat) (memory : Memory) : Option Part :=
  match count with
  | 0 => plain? 1 0 memory
  | count + 1 => (piece memory).bind (copies? piece count)

/-- Put copies of something behind a part, each of which may be left out with those behind
it. -/
def optionalCopies? (piece : Memory → Option Part) : Nat → Part → Option Part
  | 0, part => some part
  | count + 1, part =>
      match part.link?.bind (fun memory => (memory.add? 1 (2 * successorSize)).bind piece) with
      | some part => optionalCopies? piece count part
      | none => none

/-- From `least` copies up to any number.  A repetition that may be left out altogether is
a single fork where each round reads something. -/
def unbounded? (piece : Memory → Option Part) (least : Nat) (consumes : Bool)
    (memory : Memory) : Option Part :=
  match least with
  | 0 =>
      if consumes then do
        let part ← piece (← memory.add? 1 successorSize)
        pure ⟨true, ← part.link?⟩
      else do
        let part ← piece memory
        plain? 3 (4 * successorSize) (← part.link?)
  | least + 1 => do
      let part ← exactly? piece (least + 1) memory
      pure ⟨true, ← (← part.link?).add? 1 successorSize⟩

/-- Between `least` and `most` copies. -/
def bounded? (piece : Memory → Option Part) (least most : Nat) (memory : Memory) :
    Option Part :=
  if least = 0 ∧ most = 1 then do
    let part ← piece (← memory.add? 1 (2 * successorSize))
    plain? 1 0 (← part.link?)
  else do
    let part ← exactly? piece least memory
    if least = most then pure part
    else
      let memory ← part.memory.add? 1 0
      let part ← optionalCopies? piece (most - least) ⟨part.endsInFork, memory⟩
      pure ⟨false, ← part.link?⟩

/-- Where an expression stands: by itself, or as the second or a further branch of a choice.
The fork of a choice and its end are added with the second branch. -/
inductive Place where
  | whole
  | second
  | further

/-- Join a branch to the fork and the end of its choice. -/
def Place.join? (place : Place) (part : Part) : Option Part :=
  match place with
  | .whole => some part
  | .second => do plain? 2 (2 * successorSize) (← part.link?)
  | .further => do plain? 0 successorSize (← part.link?)

/-- The bytes of a literal text. -/
def literalBytes (e : Expr) : List Nat :=
  (e.pieces.filterMap Expr.letter?).flatMap fun c => bytesOf c.toNat

/-- The words of a choice between literal texts. -/
def words? (branches : List Expr) : Option (List (List Nat)) :=
  if branches.all Expr.isLiteral then some (branches.map literalBytes) else none

/-- Add an expression. -/
def add? (direction : Direction) : Place → Expr → Memory → Option Part
  | place, .empty, memory => (plain? 1 0 memory).bind place.join?
  | place, .never, memory => (plain? 2 0 memory).bind place.join?
  | place, .look _, memory => (plain? 1 0 memory).bind place.join?
  | place, .chars set, memory =>
      let added? := match set.single? with
        | some c => memory.add? (bytesOf c.toNat).length 0
        | none => match direction with
          | .forwards => addForwards? set memory
          | .backwards => addBackwards? set memory
      (added?.map (Part.mk false)).bind place.join?
  | place, .cat first second, memory =>
      let added? := match direction with
        | .forwards => do
            let part ← add? direction .whole first memory
            add? direction .whole second (← part.link?)
        | .backwards => do
            let part ← add? direction .whole second memory
            add? direction .whole first (← part.link?)
      added?.bind place.join?
  | .whole, .alt first rest, memory =>
      match words? (first :: rest.alternatives) with
      | some words => (addWords? (direction == .backwards) words memory).map (Part.mk false)
      | none => do
          let part ← add? direction .whole first memory
          add? direction .second rest (← part.link?)
  | place, .alt first rest, memory => do
      let part ← place.join? (← add? direction .whole first memory)
      add? direction .further rest part.memory
  | place, .group _ body, memory =>
      match direction with
      | .forwards => do
          let part ← add? direction .whole body (← memory.add? 1 0)
          place.join? (← plain? 1 0 (← part.link?))
      | .backwards => (add? direction .whole body memory).bind place.join?
  | place, .loop least (some most) _ body, memory =>
      (bounded? (add? direction .whole body) least most memory).bind place.join?
  | place, .loop least none _ body, memory =>
      let consumes := body.leastLength?.any (0 < ·)
      (unbounded? (add? direction .whole body) least consumes memory).bind place.join?

/-- Whether the automaton of an expression keeps within the limit.  What is not bound to the
place where it starts has a loop over all bytes before it, and behind it a state accepts. -/
def fitsIn (direction : Direction) (expr : Expr) : Bool :=
  let (bound, whole) := match direction with
    | .forwards => (expr.beginsWith .start, Expr.group 0 expr)
    | .backwards => (expr.endsWith .finish, expr)
  let lead : Memory := if bound then ⟨1, 0⟩ else ⟨3, rangeSize + 2 * successorSize⟩
  ((add? direction .whole whole lead).bind fun part => do (← part.link?).add? 1 0).isSome

/-- The number of literal texts from which a choice between them needs no automaton. -/
def manyWords : Nat := 3000

/-- A size that is quick to find and at least the exact one. -/
def roughSize : Expr → Nat
  | .empty => 3 * stateSize
  | .never => 4 * stateSize
  | .look _ => 3 * stateSize
  | .chars set => 4 * stateSize + 3000 * set.ranges.length
  | .cat first second => roughSize first + roughSize second
  | .alt first second => 4 * stateSize + roughSize first + roughSize second
  | .group _ body => 3 * stateSize + roughSize body
  | .loop least most _ body =>
      5 * stateSize + (max least (most.getD 0) + 1) * (2 * stateSize + roughSize body)

/-- Whether an expression keeps within the limit in both directions.  The exact sizes are
only found where the rough one exceeds it. -/
def fits (expr : Expr) : Bool :=
  6 * stateSize + roughSize expr ≤ limit ||
    ((words? expr.alternatives).any fun words => manyWords ≤ words.length) ||
    (fitsIn .forwards expr && fitsIn .backwards expr)

end Reroute.Regex.Size
