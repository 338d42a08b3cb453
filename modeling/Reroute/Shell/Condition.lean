import Reroute.Shell.Integer
import Reroute.Shell.System

/-!
The conditions of `test`: comparisons of texts and numbers, questions about files, and their
combinations with `!`, `-a`, `-o` and parentheses.  The levels of binding follow each other
as functions; each returns a truth value with the arguments from the last one it has used.
Three and four arguments have readings of their own that come first.
-/
namespace Reroute.Shell.Condition

/-- The node of a path, and of a link itself if it is not to be followed. -/
def node? (system : System) (path : Text) (last : Bool := true) : Option Node :=
  system.nodeAt? path last

/-- The number of the node that a path leads to. -/
def identity? (system : System) (path : Text) : Option Nat :=
  (system.disk.find system.process.here path).toOption

/-- The time of the last change of what a path leads to. -/
def changed? (system : System) (path : Text) : Option Nat :=
  (node? system path).map fun
    | .file _ _ changed => changed
    | _ => 0

/-- What an argument means. -/
inductive Token where
  | finish
  | operand
  | negation
  | conjunction
  | disjunction
  | opening
  | closing
  | unary
  | binary
deriving Repr, DecidableEq

/-- The operators with one operand. -/
def unaryOperators : List String :=
  ["-r", "-w", "-x", "-e", "-f", "-d", "-c", "-b", "-p", "-u", "-g", "-k", "-s", "-t", "-z", "-n",
    "-h", "-O", "-G", "-L", "-S"]

/-- The operators that compare numbers. -/
def comparisons : List (Text × (Int → Int → Bool)) := [
  ("-eq".toList, fun a b => a == b), ("-ne".toList, fun a b => a != b),
  ("-lt".toList, fun a b => a < b), ("-le".toList, fun a b => a ≤ b),
  ("-gt".toList, fun a b => b < a), ("-ge".toList, fun a b => b ≤ a)]

/-- The operators that compare texts. -/
def textComparisons : List (Text × (Text → Text → Bool)) := [
  ("=".toList, fun a b => a == b), ("!=".toList, fun a b => a != b),
  ("<".toList, fun a b => a != b && Text.precedes a b),
  (">".toList, fun a b => a != b && Text.precedes b a)]

/-- The operators that compare what paths lead to: which is newer, which is older, and whether
they are the same. -/
def pathComparisons : List (Text × (System → Text → Text → Bool)) := [
  ("-nt".toList, fun system a b =>
    match changed? system a, changed? system b with
    | some a, some b => b < a
    | _, _ => false),
  ("-ot".toList, fun system a b =>
    match changed? system a, changed? system b with
    | some a, some b => a < b
    | _, _ => false),
  ("-ef".toList, fun system a b =>
    (identity? system a).isSome && identity? system a == identity? system b)]

/-- Whether an argument is an operator between two operands. -/
def isBinary (s : Text) : Bool :=
  (comparisons.lookup s).isSome || (textComparisons.lookup s).isSome ||
    (pathComparisons.lookup s).isSome

/-- What an argument means by itself. -/
def Token.ofText (s : Text) : Token :=
  if isBinary s then .binary
  else if unaryOperators.contains (String.ofList s) then .unary
  else
    match String.ofList s with
    | "!" => .negation
    | "-a" => .conjunction
    | "-o" => .disjunction
    | "(" => .opening
    | ")" => .closing
    | _ => .operand

/-- What the first of some arguments means.  An operator without an operand behind it is one
itself, and so is one in front of an operator between two. -/
def token : List Text → Token
  | [] => .finish
  | s :: rest =>
      match Token.ofText s, rest with
      | .unary, [] => .operand
      | .unary, next :: _ :: _ => if isBinary next then .operand else .unary
      | .opening, [] => .operand
      | kind, _ => kind

/-- The number that an operand is. -/
def number (s : Text) : Except Text Int :=
  match Integer.whole? false s with
  | some n => .ok n
  | none => .error ("Illegal number: ".toList ++ s)

/-- What an operator with one operand asks. -/
def askUnary (system : System) (operator operand : Text) : Except Text Bool :=
  let node := node? system operand
  match String.ofList operator with
  | "-n" => .ok !operand.isEmpty
  | "-z" => .ok operand.isEmpty
  | "-t" => do
      let _ ← number operand
      pure false
  | "-f" => .ok <| match node with
      | some (.file ..) => true
      | _ => false
  | "-d" => .ok <| match node with
      | some (.directory ..) => true
      | _ => false
  | "-x" => .ok <| match node with
      | some (.directory ..) => true
      | some (.file _ mode _) => mode &&& 0o111 != 0
      | _ => false
  | "-c" => .ok <| match node with
      | some (.device _) => true
      | _ => false
  | "-s" => .ok <| match node with
      | some (.directory ..) => true
      | some (.file contents ..) => !contents.isEmpty
      | _ => false
  | "-u" => .ok <| match node with
      | some (.file _ mode _) => mode &&& 0o4000 != 0
      | _ => false
  | "-g" => .ok <| match node with
      | some (.file _ mode _) => mode &&& 0o2000 != 0
      | _ => false
  | "-k" => .ok <| match node with
      | some (.directory _ _ mode) => mode &&& 0o1000 != 0
      | _ => false
  | "-h" | "-L" => .ok <| match node? system operand false with
      | some (.link _) => true
      | _ => false
  | "-b" | "-p" | "-S" => .ok false
  | _ => .ok node.isSome

/-- What an operator between two operands asks. -/
def askBinary (system : System) (operator a b : Text) : Except Text Bool :=
  match comparisons.lookup operator, textComparisons.lookup operator,
      pathComparisons.lookup operator with
  | some compare, _, _ => do pure (compare (← number a) (← number b))
  | none, some compare, _ => .ok (compare a b)
  | none, none, some compare => .ok (compare system a b)
  | none, none, none => .ok false

/-- A truth value with the arguments from the last one that was used. -/
abbrev Answer := Except Text (Bool × List Text)

mutual

/-- Read a condition of one operator at most, or one in parentheses. -/
def primary (system : System) : Nat → List Text → Answer
  | 0, arguments => .ok (false, arguments)
  | _, [] => .ok (false, [])
  | fuel + 1, s :: rest =>
      match token (s :: rest), rest with
      | .opening, _ =>
          if token rest = .closing then .ok (false, rest)
          else do
            let (value, after) ← disjunction system fuel rest
            if token after.tail = .closing then pure (value, after.tail)
            else throw "closing paren expected".toList
      | .unary, operand :: _ => do pure (← askUnary system s operand, rest)
      | .unary, [] => .error (s ++ ": argument expected".toList)
      | _, operator :: after =>
          if token rest = .binary then
            match after with
            | [] => .error (operator ++ ": argument expected".toList)
            | b :: _ => do pure (← askBinary system operator s b, after)
          else .ok (!s.isEmpty, s :: rest)
      | _, [] => .ok (!s.isEmpty, [s])

/-- Read a condition that may be negated. -/
def negation (system : System) : Nat → List Text → Answer
  | 0, arguments => .ok (false, arguments)
  | fuel + 1, arguments =>
      match token arguments, arguments.tail with
      | .negation, [] => .ok (true, arguments)
      | .negation, rest => do
          let (value, after) ← negation system fuel rest
          pure (!value, after)
      | _, _ => primary system fuel arguments

/-- Read conditions that all have to hold. -/
def conjunction (system : System) : Nat → List Text → Answer
  | 0, arguments => .ok (false, arguments)
  | fuel + 1, arguments => do
      let (value, after) ← negation system fuel arguments
      if token after.tail = .conjunction then
        let (rest, after) ← conjunction system fuel (after.drop 2)
        pure (value && rest, after)
      else pure (value, after)

/-- Read conditions of which one has to hold. -/
def disjunction (system : System) : Nat → List Text → Answer
  | 0, arguments => .ok (false, arguments)
  | fuel + 1, arguments => do
      let (value, after) ← conjunction system fuel arguments
      if token after.tail = .disjunction then
        let (rest, after) ← disjunction system fuel (after.drop 2)
        pure (value || rest, after)
      else pure (value, after)

end

/-- Evaluate arguments that form one condition. -/
def whole (arguments : List Text) (answer : Answer) : Except Text Bool := do
  let (value, after) ← answer
  match after with
  | last :: _ :: _ => throw (last ++ ": unexpected operator".toList)
  | _ => if arguments.isEmpty then pure false else pure value

/-- Evaluate arguments by the grammar. -/
def general (system : System) (arguments : List Text) : Except Text Bool :=
  whole arguments (disjunction system (4 * arguments.length + 4) arguments)

/-- Evaluate three arguments, of which the second decides if it is an operator between two
operands.  Otherwise they may stand in parentheses or behind a `!`, which negates what follows
it also where all three are negated: one negation is meant by both. -/
def ofThree (system : System) (negated : Bool) (a b c : Text) : Except Text Bool :=
  if isBinary b then (askBinary system b a c).map (· != negated)
  else if a = ['('] ∧ c = [')'] then (general system [b]).map (· != negated)
  else if a = ['!'] then (general system [b, c]).map not
  else (general system [a, b, c]).map (· != negated)

/-- Evaluate the arguments of `test`.  Three and four have readings of their own. -/
def holds (system : System) : List Text → Except Text Bool
  | [] => .ok false
  | [a, b, c] => ofThree system false a b c
  | [a, b, c, d] =>
      if a = ['('] ∧ d = [')'] then general system [b, c]
      else if a = ['!'] then ofThree system true b c d
      else general system [a, b, c, d]
  | arguments => general system arguments

end Reroute.Shell.Condition
