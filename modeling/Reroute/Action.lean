import Reroute.Modifier
import Reroute.Pattern
import Reroute.Text.Base64

/-!
Actions: the right side of a rule, which finishes a request.  The text of an action is
matched against a row of forms, and what fits none is a URL template.  Of all actions only
`bin:` calls the executor.
-/
namespace Reroute

/-- The right side of a rule. -/
inductive Action where
  | default
  | abort
  | data (template contentType : Text) (base64 : Bool)
  | file (template : Text)
  | forwardVia (hop : Option NextHop)
  | run (command : Text)
  | eval (command : Text)
  | redirect (url : Text)
deriving Repr, DecidableEq

/-- How a request ends. -/
inductive Disposition where
  | forward
  | send (body : List UInt8)
  | sendFile (path : Text)
  | abort
deriving Repr, DecidableEq

/-- What a command has written. -/
structure CommandOutput where
  stdout : List UInt8
  stderr : List UInt8
deriving Repr, DecidableEq

/-- What counts as the answer of a command: its output, or its complaints where it wrote
nothing else. -/
def CommandOutput.body (output : CommandOutput) : List UInt8 :=
  if output.stdout.isEmpty then output.stderr else output.stdout

/-- Runs a command, or says why it failed. -/
abbrev Executor := Text → Except Text CommandOutput

namespace Action

/-- The media type of data that names none. -/
def defaultContentType : Text := "text/plain".toList

/-- The characters that a media type is recognized by. -/
def isTypeChar (c : Char) : Bool :=
  c.isAlpha || c == '/' || c == '-'

/-- Split off a media type and the semicolon behind it. -/
def splitType (s : Text) : Option Text × Text :=
  match s.takeWhile isTypeChar, s.dropWhile isTypeChar with
  | [], _ => (none, s)
  | type, ';' :: rest => (some type, rest)
  | _, _ => (none, s)

/-- Split off the mark of base64. -/
def splitBase64 (s : Text) : Bool × Text :=
  match Text.after? "base64,".toList s with
  | some rest => (true, rest)
  | none => (false, s)

/-- The action of data: `[type;][base64,]payload`, where the payload ends with its line. -/
def ofData (s : Text) : Action :=
  let (type, rest) := splitType s
  let (base64, payload) := splitBase64 rest
  .data (payload.takeWhile fun c => c != '\n') (type.getD defaultContentType) base64

/-- The proxy target of an action's text that names one. -/
def proxyTarget? (text : Text) : Option Text :=
  Text.after? "proxy:".toList text

/-- The URL template of an action.  Behind a literal pattern it is normalized. -/
def ofUrl (pattern : Pattern) (text : Text) : Action :=
  .redirect (if pattern.isLiteral then Url.normalize text else text)

/-- The action of a text that is neither `$` nor empty. -/
def ofForm (pattern : Pattern) (text : Text) : Action :=
  match Text.after? "data:".toList text with
  | some rest => ofData rest
  | none =>
  match Text.after? "file://".toList text with
  | some path => .file path
  | none =>
  match proxyTarget? text with
  | some target => .forwardVia (NextHop.parse? (Text.trim target))
  | none =>
  match Text.after? "bin:".toList text with
  | some command => .run (Text.trim command)
  | none =>
  match Text.after? "eval:".toList text with
  | some command => .eval (Text.trim command)
  | none => ofUrl pattern text

/-- Compile the right side of a rule. -/
def compile (pattern : Pattern) (text : Text) : Action :=
  if text = ['$'] then .default
  else if text.isEmpty then .abort
  else ofForm pattern text

/-- The target of a `proxy:` text that cannot be read. -/
def malformedTarget? (text : Text) : Option Text :=
  (proxyTarget? text).filter fun target => (NextHop.parse? (Text.trim target)).isNone

/-- Put a suffix behind a path with one slash between them.  An empty suffix leaves the path
as it is. -/
def joinPath (base suffix : Text) : Text :=
  let suffix := suffix.dropWhile fun c => c == '/'
  if suffix.isEmpty then base
  else (base.reverse.dropWhile fun c => c == '/').reverse ++ '/' :: suffix

/-- The template of a path: behind a literal pattern the suffix of the URL joins it. -/
def pathTemplate (pattern : Pattern) (template url : Text) : Text :=
  match pattern.suffix? url with
  | some suffix => joinPath template suffix
  | none => template

/-- The template of a URL: behind a literal pattern the suffix of the URL follows it. -/
def urlTemplate (pattern : Pattern) (template url : Text) : Text :=
  match pattern.suffix? url with
  | some suffix => template ++ suffix
  | none => template

/-- The path of a file: the expanded template up to a `?`, with the document root for every
`~` that is left. -/
def filePath (pattern : Pattern) (captures : Captures) (request : Request) (template : Text) :
    Text :=
  let expanded := request.expand captures (pathTemplate pattern template request.url)
  Text.replaceChar '~' request.documentRoot (expanded.takeWhile fun c => c != '?')

/-- The wording of the failure to read a payload. -/
def payloadMessage (error : Base64.DecodeError) : Text :=
  "invalid base64 payload: ".toList ++ error.message

/-- The body that data makes, or why there is none. -/
def dataBody (captures : Captures) (request : Request) (template : Text) (base64 : Bool) :
    Except Text (List UInt8) :=
  if base64 then (Base64.decode template).mapError payloadMessage
  else .ok (Utf8.encode (request.expand captures template))

/-- What comes of a request: how it ends or why it failed, the request as it is left, and
the commands that were run. -/
structure Outcome where
  result : Except Text Disposition
  request : Request
  commands : List Text

/-- An outcome without commands. -/
def Outcome.quiet (disposition : Disposition) (request : Request) : Outcome :=
  ⟨.ok disposition, request, []⟩

/-- Perform an action.  The groups are those of the match of the pattern. -/
def perform (executor : Executor) (pattern : Pattern) (captures : Captures)
    (request : Request) : Action → Outcome
  | .default => .quiet .forward request
  | .abort => .quiet .abort request
  | .data template contentType base64 =>
      match dataBody captures request template base64 with
      | .ok body => .quiet (.send body) (request.setContentType contentType)
      | .error message => ⟨.error message, request, []⟩
  | .file template => .quiet (.sendFile (filePath pattern captures request template)) request
  | .forwardVia hop => .quiet .forward (request.setNextHop hop)
  | .run command =>
      let command := request.expand captures command
      ⟨(executor command).map fun output => .send output.body, request, [command]⟩
  | .eval command =>
      .quiet .forward (request.setEvalCommand (request.expand captures command))
  | .redirect url =>
      .quiet .forward
        (request.setUrl (request.expand captures (urlTemplate pattern url request.url)))

end Action

end Reroute
