import Reroute.Connection
import Reroute.Ruleset

/-!
The way of a request through the proxy: its URL is put together, the rule set decides, and
what it decides is carried out.  What the gateway needs from outside (a shell, files, the
exchange with an origin) comes in as functions, so that the way itself is a function too.
Whatever the response comes from, the decisions taken about it are carried out on it last.
-/
namespace Reroute

/-- A request as a client sends it.  The target is absolute, or is completed by the host. -/
structure Incoming where
  method : Text
  target : Uri
  headers : Headers
  body : List UInt8

/-- A response with its body. -/
structure Reply where
  head : Response
  body : List UInt8
deriving DecidableEq

/-- Why a request cannot be forwarded, or not even be evaluated. -/
inductive GatewayError where
  | noHost (target : Text)
  | unreadableHost
  | invalidTarget (error : UriError)
  | illegalCredentials
  | failed (reason : Text)
deriving Repr, DecidableEq

/-- The wording of an error, which becomes the body of the response. -/
def GatewayError.message : GatewayError → Text
  | .noHost target => "request to ".toList ++ target ++ " has no host".toList
  | .unreadableHost => "failed to convert header to a str".toList
  | .invalidTarget error => error.message
  | .illegalCredentials => "failed to parse header value".toList
  | .failed reason => reason

namespace Incoming

/-- The URL of a request: the target itself where it is absolute, and otherwise the host and
what of the target stands behind one. -/
def url (incoming : Incoming) : Except GatewayError Text :=
  if incoming.target.scheme.isSome && !incoming.target.authority.isEmpty then
    .ok incoming.target.text
  else
    match incoming.headers.get? .host with
    | none => .error (.noHost incoming.target.text)
    | some value =>
        match value.toText? with
        | none => .error .unreadableHost
        | some host =>
            let path := incoming.target.pathAndQuery
            .ok ("http://".toList ++ host ++ if path.isEmpty then ['/'] else path)

/-- The request that the rules see. -/
def request (incoming : Incoming) (url : Text) (documentRoot : Option Text) : Request :=
  Request.arriving url incoming.headers documentRoot

/-- Get a request ready to leave, as its rule left it.  The host follows from the URL, so
that the header about it goes, and what was meant for this proxy goes too. -/
def leaveAs (incoming : Incoming) (request : Request) : Except GatewayError Outgoing := do
  let target ← (Uri.parse request.url).mapError .invalidTarget
  let headers := (request.headers.erase .host).erase .proxyConnection
  let outgoing (headers : Headers) : Outgoing :=
    ⟨incoming.method, target, headers, incoming.body, request.nextHop⟩
  match request.nextHop.bind NextHop.credentials with
  | none => pure (outgoing headers)
  | some credentials =>
      match HeaderValue.ofText? credentials.authorization with
      | some value => pure (outgoing (headers.insert .proxyAuthorization value))
      | none => throw .illegalCredentials

end Incoming

namespace Reply

/-- A response of the proxy itself. -/
def ofStatus (code : Nat) (body : Text) : Reply :=
  ⟨⟨code, Headers.empty⟩, Utf8.encode body⟩

/-- A response with a body that a rule makes. -/
def ofBody (body : List UInt8) : Reply := ⟨⟨200, Headers.empty⟩, body⟩

/-- A response with the contents of a file, which may be missing. -/
def ofFile : Option (List UInt8) → Reply
  | some contents => ofBody contents
  | none => ofStatus 404 []

/-- Carry the decisions about a response out on it. -/
def finishedBy (reply : Reply) (request : Request) : Reply :=
  { reply with head := request.respond reply.head }

end Reply

/-- What the gateway needs from outside. -/
structure Services where
  execute : Executor
  readFile : Text → Option (List UInt8)
  exchange : Outgoing → Except Text Reply

/-- What a client gets: nothing at all, or a response after a delay in milliseconds. -/
inductive Answer where
  | closed
  | response (reply : Reply) (delay : Option Nat)
deriving DecidableEq

namespace Gateway

/-- Forward a request, behind the command that is to be run before it leaves. -/
def forward (services : Services) (incoming : Incoming) (request : Request) :
    Except GatewayError Reply := do
  match request.evalCommand with
  | none => pure ()
  | some command =>
      let _ ← (services.execute command).mapError .failed
  let outgoing ← incoming.leaveAs request
  (services.exchange outgoing).mapError .failed

/-- Carry out how a request ends.  There is no response where the connection is closed. -/
def settle (services : Services) (incoming : Incoming) (outcome : Action.Outcome) :
    Except GatewayError (Option Reply) :=
  match outcome.result with
  | .error reason => .error (.failed reason)
  | .ok .abort => .ok none
  | .ok .forward => (forward services incoming outcome.request).map some
  | .ok (.send body) => .ok (some (.ofBody body))
  | .ok (.sendFile path) => .ok (some (.ofFile (services.readFile path)))

/-- Answer a request.  A failure behind the rule is a response too, and is finished like
every other. -/
def handle (services : Services) (ruleset : Ruleset) (documentRoot : Option Text)
    (incoming : Incoming) : Answer :=
  match incoming.url with
  | .error error => .response (.ofStatus 400 error.message) none
  | .ok url =>
      let outcome := ruleset.evaluate services.execute (incoming.request url documentRoot)
      match settle services incoming outcome with
      | .ok none => .closed
      | .ok (some reply) =>
          .response (reply.finishedBy outcome.request) outcome.request.delay?
      | .error error =>
          .response ((Reply.ofStatus 502 error.message).finishedBy outcome.request)
            outcome.request.delay?

end Gateway

end Reroute
