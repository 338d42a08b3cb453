import Reroute.Cookie
import Reroute.NextHop
import Reroute.Query
import Reroute.Response
import Reroute.Uri

/-!
A request on its way through the rules: its URL and headers, what has been decided about the
response, and a store of named values.  Setting what cannot be sent changes nothing, and the
edits of the response headers wait until there is a response.
-/
namespace Reroute

/-- Named values. -/
abbrev Store := List (Text × Text)

namespace Store

/-- The value of a key. -/
def get? (store : Store) (key : Text) : Option Text :=
  store.lookup key

/-- Give a key a value. -/
def set (store : Store) (key value : Text) : Store :=
  (key, value) :: store.filter fun entry => entry.1 != key

end Store

/-- Which headers a change is about. -/
inductive HeaderScope where
  | request
  | response
deriving Repr, DecidableEq

/-- A request with the decisions taken about it. -/
structure Request where
  url : Text
  headers : Headers
  responseEdits : List HeaderEdit := []
  status : Option Nat := none
  contentType : Option Text := none
  nextHop : Option NextHop := none
  evalCommand : Option Text := none
  store : Store := []
deriving DecidableEq

namespace Request

/-- The key of the value that `~` stands for. -/
def documentRootKey : Text := "documentRoot".toList

/-- The key of the delay of the response. -/
def delayKey : Text := "delay".toList

/-- A request as it arrives. -/
def arriving (url : Text) (headers : Headers) (documentRoot : Option Text) : Request :=
  { url := url
    headers := headers
    store := match documentRoot with
      | some root => [(documentRootKey, root)]
      | none => [] }

/-! ### Reading -/

/-- The URL as a target, if it is one. -/
def uri? (request : Request) : Option Uri :=
  (Uri.parse request.url).toOption

/-- The host of the URL. -/
def host (request : Request) : Text :=
  (request.uri?.bind Uri.host?).getD []

/-- The port of the URL, or the one its scheme stands for. -/
def port (request : Request) : Text :=
  (request.uri?.map fun uri => Numeral.render uri.portOrDefault).getD []

/-- The path of the URL. -/
def path (request : Request) : Text :=
  (request.uri?.map Uri.path).getD []

/-- The query of the URL, as it is written. -/
def query (request : Request) : Text :=
  Url.query request.url

/-- The first value of a header, if it reads as text. -/
def header? (request : Request) (name : Text) : Option Text :=
  request.headers.text? name

/-- The first value of a query parameter. -/
def param? (request : Request) (name : Text) : Option Text :=
  Query.get? name (Url.pairs request.url)

/-- The first value of a cookie. -/
def cookie? (request : Request) (name : Text) : Option Text :=
  Cookie.get? request.headers name

/-- A stored value. -/
def get? (request : Request) (key : Text) : Option Text :=
  request.store.get? key

/-- The document root, empty when there is none. -/
def documentRoot (request : Request) : Text :=
  (request.get? documentRootKey).getD []

/-- The delay of the response: a positive number of milliseconds. -/
def delay? (request : Request) : Option Nat :=
  ((request.get? delayKey).bind (Numeral.read? Numeral.maxWord64)).filter fun n => 0 < n

/-! ### Changing -/

/-- Store a value. -/
def set (request : Request) (key value : Text) : Request :=
  { request with store := request.store.set key value }

/-- Send the request elsewhere. -/
def setUrl (request : Request) (url : Text) : Request :=
  { request with url := url }

/-- Make an edit to the headers of one side. -/
def editHeaders (request : Request) (scope : HeaderScope) (edit : HeaderEdit) : Request :=
  match scope with
  | .request => { request with headers := edit.apply request.headers }
  | .response => { request with responseEdits := request.responseEdits ++ [edit] }

/-- Set a header, if name and value are legal. -/
def setHeader (request : Request) (scope : HeaderScope) (name value : Text) : Request :=
  match HeaderName.ofText? name, HeaderValue.ofText? value with
  | some name, some value => request.editHeaders scope (.set name value)
  | _, _ => request

/-- Remove a header, if the name is legal. -/
def removeHeader (request : Request) (scope : HeaderScope) (name : Text) : Request :=
  match HeaderName.ofText? name with
  | some name => request.editHeaders scope (.remove name)
  | none => request

/-- Give a query parameter one value. -/
def setParam (request : Request) (name value : Text) : Request :=
  { request with url := Url.setParam name value request.url }

/-- Remove a query parameter. -/
def removeParam (request : Request) (name : Text) : Request :=
  { request with url := Url.eraseParam name request.url }

/-- Set a cookie. -/
def setCookie (request : Request) (name value : Text) : Request :=
  { request with headers := Cookie.set request.headers name value }

/-- Remove a cookie. -/
def removeCookie (request : Request) (name : Text) : Request :=
  { request with headers := Cookie.erase request.headers name }

/-- Decide on the status of the response. -/
def setStatus (request : Request) (code : Nat) : Request :=
  { request with status := some code }

/-- Decide on the media type of the response. -/
def setContentType (request : Request) (contentType : Text) : Request :=
  { request with contentType := some contentType }

/-- Decide on the proxy to go through; none is the direct way. -/
def setNextHop (request : Request) (hop : Option NextHop) : Request :=
  { request with nextHop := hop }

/-- Decide on the command to run before the request is sent. -/
def setEvalCommand (request : Request) (command : Text) : Request :=
  { request with evalCommand := some command }

/-! ### Answering -/

/-- Carry the decisions out on a response: the media type, the status, then the edits of the
headers in their order. -/
def respond (request : Request) (response : Response) : Response :=
  let typed := match request.contentType with
    | some contentType => response.withContentType contentType
    | none => response
  let coded := match request.status with
    | some code => typed.withStatus code
    | none => typed
  coded.withEdits request.responseEdits

end Request

end Reroute
