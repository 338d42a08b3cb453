import Reroute.Regex.CharSet

/-!
Regular expressions after parsing: flags are gone, classes are sets of characters, and
repetitions have counted bounds.
-/
namespace Reroute.Regex

/-- Conditions on a place between two characters. -/
inductive Look where
  | start
  | finish
  | lineStart
  | lineEnd
  | anyLineStart
  | anyLineEnd
  | wordBoundary (unicode : Bool)
  | notWordBoundary (unicode : Bool)
  | wordStart (unicode : Bool)
  | wordEnd (unicode : Bool)
  | wordStartHalf (unicode : Bool)
  | wordEndHalf (unicode : Bool)
deriving Repr, DecidableEq

/-- A regular expression.  `never` matches nothing, which a class without characters does. -/
inductive Expr where
  | empty
  | never
  | chars (set : CharSet)
  | look (kind : Look)
  | cat (first second : Expr)
  | alt (first second : Expr)
  | group (index : Nat) (body : Expr)
  | loop (least : Nat) (most : Option Nat) (greedy : Bool) (body : Expr)
deriving Repr, DecidableEq

namespace Expr

/-- The expression of a set of characters. -/
def ofSet (set : CharSet) : Expr :=
  if set.isEmpty then .never else .chars set

/-- Whether an expression matches nothing but the empty text. -/
def isBlank : Expr → Bool
  | .empty => true
  | .never => false
  | .chars _ => false
  | .look _ => true
  | .cat first second => first.isBlank && second.isBlank
  | .alt first second => first.isBlank && second.isBlank
  | .group _ body => body.isBlank
  | .loop _ most _ body => most == some 0 || (most.isSome && body.isBlank)

/-- Repeat an expression.  Of one that matches the empty text alone, one repetition is as
good as many; none at all is the empty expression, and exactly one the body itself. -/
def repeated (least : Nat) (most : Option Nat) (greedy : Bool) (body : Expr) : Expr :=
  let least' := if body.isBlank then min least 1 else least
  let most' := if body.isBlank then some (min (most.getD 1) 1) else most
  if least' = 0 ∧ most' = some 0 then .empty
  else if least' = 1 ∧ most' = some 1 then body
  else .loop least' most' greedy body

/-- The pieces of a sequence, of which the empty expression has none. -/
def pieces : Expr → List Expr
  | .empty => []
  | .cat first rest => first :: rest.pieces
  | e => [e]

/-- Put pieces in sequence. -/
def ofPieces : List Expr → Expr
  | [] => .empty
  | [e] => e
  | e :: rest => .cat e (ofPieces rest)

/-- Join expressions in sequence; what is a sequence itself loses its bounds. -/
def sequence (es : List Expr) : Expr := ofPieces (es.flatMap pieces)

/-- The branches of a choice. -/
def alternatives : Expr → List Expr
  | .alt first rest => first :: rest.alternatives
  | e => [e]

/-- Put branches into a choice. -/
def ofAlternatives : List Expr → Expr
  | [] => .never
  | [e] => e
  | e :: rest => .alt e (ofAlternatives rest)

/-- The one character that an expression stands for. -/
def letter? : Expr → Option Char
  | .chars set => set.single?
  | _ => none

/-- Whether an expression is a literal text: one character after the other. -/
def isLiteral (e : Expr) : Bool :=
  !e.pieces.isEmpty && e.pieces.all fun piece => piece.letter?.isSome

/-- The set of characters that an expression is, where it is no single character. -/
def set? : Expr → Option CharSet
  | .never => some .empty
  | .chars set => if set.single?.isSome then none else some set
  | _ => none

/-- The set that takes the place of branches that are all single characters or all sets. -/
def mergedSet? (es : List Expr) : Option CharSet :=
  match es.mapM letter?, es.mapM set? with
  | some letters, _ => some (CharSet.unions (letters.map .singleton))
  | none, some sets => some (CharSet.unions sets)
  | none, none => none

/-- The pieces of a sequence with the single characters that stand together as one. -/
def runs (e : Expr) : List (List Expr) :=
  e.pieces.splitBy fun a b => a.letter?.isSome && b.letter?.isSome

/-- What two lists begin with alike. -/
def commonFront (xs ys : List (List Expr)) : List (List Expr) :=
  ((xs.zip ys).takeWhile fun (x, y) => x == y).map Prod.fst

/-- The beginning that all of some branches share, and what is left of each.  A branch of
one run has nothing to share. -/
def splitFront? (es : List Expr) : Option (List Expr × List Expr) :=
  match es.map runs with
  | [] => none
  | first :: others =>
      let front := others.foldl commonFront first
      if front.isEmpty || (first :: others).any fun run => run.length < 2 then none
      else
        let rests := (first :: others).map fun run => ofPieces (run.drop front.length).flatten
        some (front.flatten, rests)

/-- Join branches.  A choice between characters is a set. -/
def choice (es : List Expr) : Expr :=
  let es := es.flatMap alternatives
  match es with
  | [e] => e
  | _ => match mergedSet? es with
    | some set => ofSet set
    | none => ofAlternatives es

/-- Join branches, and put what they begin with alike in front of them. -/
def branches (es : List Expr) : Expr :=
  match choice es with
  | .alt first rest =>
      match splitFront? (alternatives (.alt first rest)) with
      | some (front, rests) => sequence (front ++ [choice rests])
      | none => .alt first rest
  | e => e

/-- The fewest characters in a match, for an expression without a part that never matches. -/
def leastLength? : Expr → Option Nat
  | .empty => some 0
  | .never => none
  | .chars _ => some 1
  | .look _ => some 0
  | .cat first second => do pure ((← first.leastLength?) + (← second.leastLength?))
  | .alt first second => do pure (min (← first.leastLength?) (← second.leastLength?))
  | .group _ body => body.leastLength?
  | .loop least _ _ body => body.leastLength?.map (least * ·)

/-- Whether all matches begin with a condition on the place. -/
def beginsWith (kind : Look) : Expr → Bool
  | .look found => found == kind
  | .cat first second => first.beginsWith kind || (first.isBlank && second.beginsWith kind)
  | .alt first second => first.beginsWith kind && second.beginsWith kind
  | .group _ body => body.beginsWith kind
  | .loop least _ _ body => least != 0 && body.beginsWith kind
  | _ => false

/-- Whether all matches end with a condition on the place. -/
def endsWith (kind : Look) : Expr → Bool
  | .look found => found == kind
  | .cat first second => second.endsWith kind || (second.isBlank && first.endsWith kind)
  | .alt first second => first.endsWith kind && second.endsWith kind
  | .group _ body => body.endsWith kind
  | .loop least _ _ body => least != 0 && body.endsWith kind
  | _ => false

/-- The greatest number of a group inside. -/
def lastGroup : Expr → Nat
  | .cat first second => max first.lastGroup second.lastGroup
  | .alt first second => max first.lastGroup second.lastGroup
  | .group index body => max index body.lastGroup
  | .loop _ _ _ body => body.lastGroup
  | _ => 0

end Expr

end Reroute.Regex
