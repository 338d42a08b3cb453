import Reroute.Header

/-!
Cookies of a request.  Every Cookie header that reads as text is cut at `;`, blanks around a
piece and around its first `=` go, and a piece without `=` is no cookie.  Writing joins all
cookies into one header; where the joined text is no legal value no header is left.
-/
namespace Reroute

/-- Cookies: names with their values, in order. -/
abbrev Cookies := List (Text × Text)

namespace Cookie

/-- The cookie a piece spells. -/
def ofPiece? (piece : Text) : Option (Text × Text) :=
  (Text.cut '=' (Text.trim piece)).map fun halves =>
    (Text.trim halves.1, Text.trim halves.2)

/-- The cookies one header value spells. -/
def ofText (s : Text) : Cookies :=
  (s.splitOn ';').filterMap ofPiece?

/-- The cookies of a request. -/
def read (headers : Headers) : Cookies :=
  ((headers.values .cookie).filterMap HeaderValue.toText?).flatMap ofText

/-- One cookie in its written form. -/
def pair (cookie : Text × Text) : Text :=
  cookie.1 ++ '=' :: cookie.2

/-- The written form of cookies. -/
def render (cookies : Cookies) : Text :=
  Text.joinWith "; ".toList (cookies.map pair)

/-- Put cookies in place of the Cookie headers. -/
def write (headers : Headers) (cookies : Cookies) : Headers :=
  let bare := headers.erase .cookie
  if cookies.isEmpty then bare
  else match HeaderValue.ofText? (render cookies) with
    | some value => bare.insert .cookie value
    | none => bare

/-- The value of the first cookie of a name. -/
def get? (headers : Headers) (name : Text) : Option Text :=
  (read headers).lookup name

/-- Give the first cookie of a name another value, or add a cookie at the end. -/
def assign (name value : Text) : Cookies → Cookies
  | [] => [(name, value)]
  | cookie :: rest =>
      if cookie.1 = name then (name, value) :: rest else cookie :: assign name value rest

/-- Set a cookie of a request. -/
def set (headers : Headers) (name value : Text) : Headers :=
  write headers (assign name value (read headers))

/-- Remove every cookie of a name from a request. -/
def erase (headers : Headers) (name : Text) : Headers :=
  write headers ((read headers).filter fun cookie => cookie.1 != name)

end Cookie

end Reroute
