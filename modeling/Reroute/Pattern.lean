import Reroute.Query
import Reroute.Regex.Parser
import Reroute.Regex.Search
import Reroute.Regex.Size

/-!
Patterns: the left side of a rule.  `/expr/` is a regular expression that ignores case,
`!url` stands for one URL and `url` for all URLs that begin with it.  The two literal forms
compare normalized URLs, have no groups, and leave a suffix: what the URL has behind as many
bytes as the literal is long.
-/
namespace Reroute

open Regex in
/-- A compiled regular expression. -/
structure Regex where
  source : Text
  program : Program

namespace Regex

/-- Compile an expression whose letters match either case. -/
def compileIgnoringCase (source : Text) : Except Error Regex := do
  let expr ← Expr.parse true source
  if Size.fits expr then pure ⟨source, Program.ofExpr expr⟩ else throw .tooLarge

/-- The groups of the first match in a text. -/
def captures? (regex : Regex) (s : Text) : Option (List (Option Text)) :=
  regex.program.captures? s

end Regex

/-- The left side of a rule. -/
inductive Pattern where
  | regex (compiled : Regex)
  | exact (url : Text)
  | startsWith (url : Text)

namespace Pattern

/-- The expression between the slashes of a text that begins and ends with one.  A lone
slash is both. -/
def expression? : Text → Option Text
  | ['/'] => some []
  | '/' :: rest => if rest.getLast? = some '/' then some rest.dropLast else none
  | _ => none

/-- Compile the left side of a rule. -/
def compile (source : Text) : Except Regex.Error Pattern :=
  match expression? source with
  | some expr => (Regex.compileIgnoringCase expr).map .regex
  | none =>
      match source with
      | '!' :: url => .ok (.exact (Url.normalize url))
      | _ => .ok (.startsWith (Url.normalize source))

/-- The literal of a pattern that has one. -/
def literal? : Pattern → Option Text
  | .regex _ => none
  | .exact url => some url
  | .startsWith url => some url

/-- Whether a pattern is a literal one. -/
def isLiteral (pattern : Pattern) : Bool :=
  pattern.literal?.isSome

/-- Match a URL; the result holds the groups. -/
def match? (pattern : Pattern) (url : Text) : Option Captures :=
  match pattern with
  | .regex compiled => compiled.captures? url
  | .exact expected => if Url.normalize url = expected then some [] else none
  | .startsWith start => if start.isPrefixOf (Url.normalize url) then some [] else none

/-- What a normalized URL has behind as many bytes as a literal is long; nothing where that
is no place between two of its characters. -/
def suffixBehind (literal url : Text) : Text :=
  (Text.dropBytes? (Text.byteLength literal) (Url.normalize url)).getD []

/-- The suffix of a URL.  Regular expressions leave none. -/
def suffix? (pattern : Pattern) (url : Text) : Option Text :=
  pattern.literal?.map fun literal => suffixBehind literal url

end Pattern

end Reroute
