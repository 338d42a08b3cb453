import Reroute.Shell.Integer

/-!
Arithmetic expressions of the shell: 64-bit words with wrap-around, the operators of C and
assignments.  An expression is worked out while it is read, from left to right, so that the
first thing wrong with it is the one that is told; what a short circuit skips is read and has
no effect.
-/
namespace Reroute.Shell

/-- An operator with two operands. -/
inductive BinaryOp where
  | mul | div | mod | add | sub | shiftLeft | shiftRight
  | less | lessEqual | greater | greaterEqual | equal | notEqual
  | and | xor | or
deriving Repr, DecidableEq

/-- Why an expression has no value.  Some quotient does not fit into the width. -/
inductive ArithmeticError where
  | malformed (reason : String)
  | illegal (number : Text)
  | constant (name : Text)
  | overflow
deriving Repr, DecidableEq

namespace Arithmetic

/-- A token of an expression. -/
inductive Token where
  | number (value : Int64)
  | name (name : Text)
  | binary (op : BinaryOp)
  | assign (op : Option BinaryOp)
  | both
  | either
  | not
  | complement
  | opening
  | closing
  | question
  | colon
  | unknown
deriving Repr, DecidableEq

/-- The spellings of operators.  Longer ones come before their beginnings. -/
def spellings : List (Text × Token) := [
  ("<<=".toList, .assign (some .shiftLeft)), (">>=".toList, .assign (some .shiftRight)),
  ("&&".toList, .both), ("||".toList, .either), ("==".toList, .binary .equal),
  ("!=".toList, .binary .notEqual), ("<=".toList, .binary .lessEqual),
  (">=".toList, .binary .greaterEqual), ("<<".toList, .binary .shiftLeft),
  (">>".toList, .binary .shiftRight), ("+=".toList, .assign (some .add)),
  ("-=".toList, .assign (some .sub)), ("*=".toList, .assign (some .mul)),
  ("/=".toList, .assign (some .div)), ("%=".toList, .assign (some .mod)),
  ("&=".toList, .assign (some .and)), ("|=".toList, .assign (some .or)),
  ("^=".toList, .assign (some .xor)), ("=".toList, .assign none), ("!".toList, .not),
  ("~".toList, .complement), ("<".toList, .binary .less), (">".toList, .binary .greater),
  ("+".toList, .binary .add), ("-".toList, .binary .sub), ("*".toList, .binary .mul),
  ("/".toList, .binary .div), ("%".toList, .binary .mod), ("&".toList, .binary .and),
  ("|".toList, .binary .or), ("^".toList, .binary .xor), ("(".toList, .opening),
  (")".toList, .closing), ("?".toList, .question), (":".toList, .colon)]

/-- The tokens of an expression, up to the first character that begins none.  The fuel is the
length of the text. -/
def tokens : Nat → Text → List Token
  | 0, _ => []
  | _, [] => []
  | fuel + 1, c :: s =>
      if isWhite c then tokens fuel s
      else if c.isDigit then
        match Integer.natural? (c :: s) with
        | some (n, rest) =>
            .number (Int64.ofNat (min n Integer.greatest)) :: tokens fuel rest
        | none => [.unknown]
      else if isNameStart c then
        .name ((c :: s).takeWhile isNameChar) :: tokens fuel ((c :: s).dropWhile isNameChar)
      else
        match spellings.findSome? fun (spelling, token) =>
            (Text.after? spelling (c :: s)).map fun rest => (token, rest) with
        | some (token, rest) => token :: tokens fuel rest
        | none => [.unknown]

/-- How tightly an operator binds; the smallest number binds the tightest. -/
def BinaryOp.level : BinaryOp → Nat
  | .mul | .div | .mod => 0
  | .add | .sub => 1
  | .shiftLeft | .shiftRight => 2
  | .less | .lessEqual | .greater | .greaterEqual => 3
  | .equal | .notEqual => 4
  | .and => 5
  | .xor => 6
  | .or => 7

/-- One for what holds and zero for what does not. -/
def ofBool (b : Bool) : Int64 := if b then 1 else 0

/-- Divide.  One quotient does not fit into the width. -/
def divide (quotient : Int64 → Int64 → Int64) (a b : Int64) : Except ArithmeticError Int64 :=
  if b == 0 then .error (.malformed "division by zero")
  else if a == Int64.minValue && b == -1 then .error .overflow
  else .ok (quotient a b)

/-- Apply an operator to two numbers. -/
def apply (op : BinaryOp) (a b : Int64) : Except ArithmeticError Int64 :=
  match op with
  | .mul => .ok (a * b)
  | .div => divide (· / ·) a b
  | .mod => divide (· % ·) a b
  | .add => .ok (a + b)
  | .sub => .ok (a - b)
  | .shiftLeft => .ok (a <<< b)
  | .shiftRight => .ok (a >>> b)
  | .less => .ok (ofBool (a < b))
  | .lessEqual => .ok (ofBool (a ≤ b))
  | .greater => .ok (ofBool (b < a))
  | .greaterEqual => .ok (ofBool (b ≤ a))
  | .equal => .ok (ofBool (a == b))
  | .notEqual => .ok (ofBool (a != b))
  | .and => .ok (a &&& b)
  | .xor => .ok (a ^^^ b)
  | .or => .ok (a ||| b)

/-- What an expression may ask about variables. -/
structure Variables where
  value? : Text → Option Text
  isConstant : Text → Bool

/-- The tokens that are left, and the values that were assigned, the last one first. -/
structure Progress where
  rest : List Token
  assigned : List (Text × Text)

/-- A working out, which keeps what it has assigned when it fails. -/
abbrev Calculation := ExceptT ArithmeticError (StateM Progress)

/-- The next token, if there is one. -/
def peek? : Calculation (Option Token) := do
  pure (← get).rest.head?

/-- Step over the next token. -/
def advance : Calculation Unit :=
  modify fun progress => { progress with rest := progress.rest.tail }

/-- The number that a variable holds; one without a value counts as zero. -/
def lookup (known : Variables) (name : Text) : Calculation Int64 := do
  let text := (((← get).assigned.lookup name).or (known.value? name)).getD []
  match Integer.whole? true text with
  | some n => pure (Int64.ofInt n)
  | none => throw (.illegal text)

/-- Assign a number to a variable. -/
def assign (known : Variables) (name : Text) (value : Int64) : Calculation Unit := do
  if known.isConstant name then throw (.constant name)
  modify fun progress =>
    { progress with assigned := (name, Integer.render value.toInt) :: progress.assigned }

mutual

/-- Work out an expression: an assignment or a conditional.  What is not live has no effect.
The fuel counts the levels of binding and nesting. -/
def expression (known : Variables) : Nat → Bool → Calculation Int64
  | 0, _ => throw (.malformed "expecting primary")
  | fuel + 1, live => do
      match (← get).rest with
      | .name name :: .assign op :: _ => do
          advance
          advance
          let b ← expression known fuel live
          if !live then pure b
          else
            let result ← match op with
              | none => pure b
              | some op => do
                  let a ← lookup known name
                  ExceptT.mk (pure (apply op a b))
            assign known name result
            pure result
      | _ => conditional known fuel live

/-- Work out a choice between two expressions. -/
def conditional (known : Variables) : Nat → Bool → Calculation Int64
  | 0, _ => throw (.malformed "expecting primary")
  | fuel + 1, live => do
      let test ← disjunction known fuel live
      if (← peek?) == some .question then
        advance
        let yes ← expression known fuel (live && test != 0)
        if (← peek?) != some .colon then throw (.malformed "expecting ':'")
        advance
        let no ← conditional known fuel (live && test == 0)
        pure (if test != 0 then yes else no)
      else pure test

/-- Work out conditions of which one has to hold. -/
def disjunction (known : Variables) : Nat → Bool → Calculation Int64
  | 0, _ => throw (.malformed "expecting primary")
  | fuel + 1, live => do
      let a ← conjunction known fuel live
      if (← peek?) == some .either then
        advance
        let b ← disjunction known fuel (live && a == 0)
        pure (ofBool (a != 0 || b != 0))
      else pure a

/-- Work out conditions that all have to hold. -/
def conjunction (known : Variables) : Nat → Bool → Calculation Int64
  | 0, _ => throw (.malformed "expecting primary")
  | fuel + 1, live => do
      let a ← operand known fuel live
      let a ← operations known fuel live a 8
      if (← peek?) == some .both then
        advance
        let b ← conjunction known fuel (live && a != 0)
        pure (ofBool (a != 0 && b != 0))
      else pure a

/-- Apply the operators that come next and bind more tightly than a level. -/
def operations (known : Variables) : Nat → Bool → Int64 → Nat → Calculation Int64
  | 0, _, _, _ => throw (.malformed "expecting primary")
  | fuel + 1, live, a, level => do
      match ← peek? with
      | some (.binary op) =>
          if level ≤ BinaryOp.level op then pure a
          else
            advance
            let b ← operand known fuel live
            let b ← operations known fuel live b (BinaryOp.level op)
            let result ← if live then ExceptT.mk (pure (apply op a b)) else pure b
            operations known fuel live result level
      | _ => pure a

/-- Work out an operand with the signs in front of it. -/
def operand (known : Variables) : Nat → Bool → Calculation Int64
  | 0, _ => throw (.malformed "expecting primary")
  | fuel + 1, live => do
      let token ← peek?
      advance
      match token with
      | some .opening => do
          let inner ← expression known fuel live
          if (← peek?) != some .closing then throw (.malformed "expecting ')'")
          advance
          pure inner
      | some (.number n) => pure n
      | some (.name name) => if live then lookup known name else pure 0
      | some (.binary .add) => operand known fuel live
      | some (.binary .sub) => do pure (-(← operand known fuel live))
      | some .not => do pure (ofBool ((← operand known fuel live) == 0))
      | some .complement => do pure (~~~(← operand known fuel live))
      | _ => throw (.malformed "expecting primary")

end

/-- Work out a whole expression. -/
def total (known : Variables) (fuel : Nat) : Calculation Int64 := do
  let value ← expression known fuel true
  if (← peek?).isSome then throw (.malformed "expecting EOF")
  pure value

/-- The value of an expression, and what it has assigned, the first assignment first.  The
number of tokens bounds the depth of the reading. -/
def evaluate (known : Variables) (s : Text) :
    Except ArithmeticError Int64 × List (Text × Text) :=
  let found := tokens s.length s
  let (result, progress) := (total known (8 * found.length + 8)).run.run ⟨found, []⟩
  (result, progress.assigned.reverse)

/-- What is told about an error in an expression. -/
def message (s : Text) : ArithmeticError → Text
  | .malformed reason =>
      "arithmetic expression: ".toList ++ reason.toList ++ ": \"".toList ++ s ++ ['"']
  | .illegal number => "Illegal number: ".toList ++ number
  | .constant name => name ++ ": is read only".toList
  | .overflow => []

end Arithmetic

end Reroute.Shell
