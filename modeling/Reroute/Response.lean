import Reroute.Header

/-!
Responses: what a client gets back from an origin, a file, or the proxy itself.
-/
namespace Reroute

/-- The head of a response. -/
structure Response where
  status : Nat
  headers : Headers
deriving DecidableEq

namespace Response

/-- The status codes that may be sent. -/
def isStatus (code : Nat) : Bool :=
  100 ≤ code && code ≤ 999

/-- Give a response another status, if the code may be sent. -/
def withStatus (response : Response) (code : Nat) : Response :=
  if isStatus code then { response with status := code } else response

/-- Give a response another media type, if that is a legal header value. -/
def withContentType (response : Response) (contentType : Text) : Response :=
  match HeaderValue.ofText? contentType with
  | some value => { response with headers := response.headers.insert .contentType value }
  | none => response

/-- Carry edits of the headers out, in order. -/
def withEdits (response : Response) (edits : List HeaderEdit) : Response :=
  { response with headers := edits.foldl HeaderEdit.apply response.headers }

end Response

end Reroute
