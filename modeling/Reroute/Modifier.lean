import Reroute.Template

/-!
Modifiers: lines of the rules file that change the request, or what will become of the
response, before the action of the rule runs.  The command word is read without its case,
the words of the argument are joined by single spaces, and values are templates that see no
groups.
-/
namespace Reroute

/-- A change to a request. -/
inductive Modifier where
  | setHeader (scope : HeaderScope) (name value : Text)
  | removeHeader (scope : HeaderScope) (name : Text)
  | setParam (name value : Text)
  | removeParam (name : Text)
  | setCookie (name value : Text)
  | removeCookie (name : Text)
  | setStatus (code : Nat)
  | setDelay (millis : Nat)
  | setDocumentRoot (root : Text)
deriving Repr, DecidableEq

namespace Modifier

/-- The commands a modifier line can begin with. -/
inductive Command where
  | setRequestHeader
  | setResponseHeader
  | setQueryParam
  | setCookie
  | removeRequestHeader
  | removeResponseHeader
  | removeQueryParam
  | removeCookie
  | statusCode
  | delay
  | setDocumentRoot
deriving Repr, DecidableEq

/-- The words of the commands. -/
def commands : List (Text × Command) := [
  ("SetRequestHeader".toList, .setRequestHeader),
  ("SetResponseHeader".toList, .setResponseHeader),
  ("SetQueryParam".toList, .setQueryParam),
  ("SetCookie".toList, .setCookie),
  ("RemoveRequestHeader".toList, .removeRequestHeader),
  ("RemoveResponseHeader".toList, .removeResponseHeader),
  ("RemoveQueryParam".toList, .removeQueryParam),
  ("RemoveCookie".toList, .removeCookie),
  ("StatusCode".toList, .statusCode),
  ("Delay".toList, .delay),
  ("SetDocumentRoot".toList, .setDocumentRoot)]

/-- The command of a word. -/
def Command.ofWord? (word : Text) : Option Command :=
  (commands.find? fun entry => Text.sameIgnoringCase entry.1 word).map Prod.snd

/-- The name before a separator and the value behind it.  Without the separator the value is
empty. -/
def assignment (separator : Char) (argument : Text) : Text × Text :=
  match Text.cut separator argument with
  | some (name, value) => (Text.trim name, Text.trim value)
  | none => (Text.trim argument, [])

/-- A positive number of at most `bound`. -/
def positive? (bound : Nat) (argument : Text) : Option Nat :=
  (Numeral.read? bound argument).filter fun n => n ≠ 0

/-- The modifier of a command.  A status or a delay that is no positive number has no
effect. -/
def ofCommand (argument : Text) : Command → Option Modifier
  | .setRequestHeader =>
      let (name, value) := assignment ':' argument
      some (.setHeader .request name value)
  | .setResponseHeader =>
      let (name, value) := assignment ':' argument
      some (.setHeader .response name value)
  | .setQueryParam =>
      let (name, value) := assignment '=' argument
      some (.setParam name value)
  | .setCookie =>
      let (name, value) := assignment '=' argument
      some (.setCookie name value)
  | .removeRequestHeader => some (.removeHeader .request argument)
  | .removeResponseHeader => some (.removeHeader .response argument)
  | .removeQueryParam => some (.removeParam argument)
  | .removeCookie => some (.removeCookie argument)
  | .statusCode => (positive? Numeral.maxWord16 argument).map .setStatus
  | .delay => (positive? Numeral.maxWord64 argument).map .setDelay
  | .setDocumentRoot => some (.setDocumentRoot argument)

/-- A line begins with a word that is no command. -/
structure UnknownCommand where
  word : Text
deriving Repr, DecidableEq

/-- The wording of the error. -/
def UnknownCommand.message (error : UnknownCommand) : Text :=
  "unknown modifier ".toList ++ error.word

/-- The first word of a line. -/
def commandWord (line : Text) : Text :=
  (Text.words line).headD []

/-- The words behind the first one, joined by single spaces. -/
def argument (line : Text) : Text :=
  Text.joinWith [' '] (Text.words line).tail

/-- Compile a line without its dollar sign.  A line of a known command may have no effect. -/
def compile (line : Text) : Except UnknownCommand (Option Modifier) :=
  match Command.ofWord? (commandWord line) with
  | some command => .ok (ofCommand (argument line) command)
  | none => .error ⟨commandWord line⟩

/-- Apply a modifier. -/
def apply (request : Request) : Modifier → Request
  | .setHeader scope name value =>
      request.setHeader scope name (request.expand [] value)
  | .removeHeader scope name => request.removeHeader scope name
  | .setParam name value => request.setParam name (request.expand [] value)
  | .removeParam name => request.removeParam name
  | .setCookie name value => request.setCookie name (request.expand [] value)
  | .removeCookie name => request.removeCookie name
  | .setStatus code => request.setStatus code
  | .setDelay millis => request.set Request.delayKey (Numeral.render millis)
  | .setDocumentRoot root =>
      request.set Request.documentRootKey (request.expand [] root)

end Modifier

/-- Apply modifiers in order. -/
def Request.modify (request : Request) (modifiers : List Modifier) : Request :=
  modifiers.foldl Modifier.apply request

end Reroute
