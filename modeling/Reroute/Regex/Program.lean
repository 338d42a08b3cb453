import Reroute.Regex.Expression

/-!
Programs: an expression as a list of instructions with numbered successors.  A fork lists
its successors in the order in which they are tried, which settles what a match prefers: the
first branch, and more or fewer repetitions as the greed of a loop says.
-/
namespace Reroute.Regex

/-- One instruction. -/
inductive Inst where
  | chars (set : CharSet) (next : Nat)
  | look (kind : Look) (next : Nat)
  | fork (nexts : List Nat)
  | mark (slot : Nat) (next : Nat)
  | accept
  | stuck
deriving Repr

/-- Instructions with the place to begin and the number of groups, the whole match being
one. -/
structure Program where
  insts : Array Inst
  start : Nat
  groups : Nat

namespace Program

/-- Add an instruction and return its number. -/
def emit (inst : Inst) (code : Array Inst) : Nat × Array Inst :=
  (code.size, code.push inst)

/-- The successors of a loop's fork: another round first, or leaving first. -/
def forkTo (greedy : Bool) (round leave : Nat) : Inst :=
  .fork (if greedy then [round, leave] else [leave, round])

/-- Put copies of a piece of code in sequence, the last of them first. -/
def copies (piece : Nat → Array Inst → Nat × Array Inst) :
    Nat → Nat → Array Inst → Nat × Array Inst
  | 0, next, code => (next, code)
  | count + 1, next, code =>
      let (entry, code) := piece next code
      copies piece count entry code

/-- Put copies of a piece of code in sequence, each of which may be left out together with
those behind it. -/
def optionalCopies (greedy : Bool) (leave : Nat) (piece : Nat → Array Inst → Nat × Array Inst) :
    Nat → Nat → Array Inst → Nat × Array Inst
  | 0, next, code => (next, code)
  | count + 1, next, code =>
      let (entry, code) := piece next code
      let (fork, code) := emit (forkTo greedy entry leave) code
      optionalCopies greedy leave piece count fork code

/-- One or more rounds of a piece of code. -/
def rounds (greedy : Bool) (leave : Nat) (piece : Nat → Array Inst → Nat × Array Inst)
    (code : Array Inst) : Nat × Array Inst :=
  let (fork, code) := emit .stuck code
  let (entry, code) := piece fork code
  (entry, code.setIfInBounds fork (forkTo greedy entry leave))

/-- The code of an expression that goes on at `next`; the result is where it begins. -/
def compile : Expr → Nat → Array Inst → Nat × Array Inst
  | .empty, next, code => (next, code)
  | .never, _, code => emit .stuck code
  | .chars set, next, code => emit (.chars set next) code
  | .look kind, next, code => emit (.look kind next) code
  | .cat first second, next, code =>
      let (entry, code) := compile second next code
      compile first entry code
  | .alt first second, next, code =>
      let (entry₁, code) := compile first next code
      let (entry₂, code) := compile second next code
      emit (.fork [entry₁, entry₂]) code
  | .group index body, next, code =>
      let (close, code) := emit (.mark (2 * index + 1) next) code
      let (entry, code) := compile body close code
      emit (.mark (2 * index) entry) code
  | .loop least (some most) greedy body, next, code =>
      let (entry, code) := optionalCopies greedy next (compile body) (most - least) next code
      copies (compile body) least entry code
  | .loop 0 none greedy body, next, code =>
      let (entry, code) := rounds greedy next (compile body) code
      emit (forkTo greedy entry next) code
  | .loop (least + 1) none greedy body, next, code =>
      let (entry, code) := rounds greedy next (compile body) code
      copies (compile body) least entry code

/-- The program of an expression. -/
def ofExpr (expr : Expr) : Program :=
  let (start, insts) := compile (.group 0 expr) 0 #[.accept]
  ⟨insts, start, expr.lastGroup + 1⟩

end Program

end Reroute.Regex
