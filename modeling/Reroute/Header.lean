import Reroute.Text.Utf8

/-!
Header names, header values and the headers of a message.  Both parts carry their legality
in their type, so that no operation can put a line end into a message: a name is a
lower-case token and a value has no control byte but tab.

`Headers` keeps its entries in order of arrival.  One name may have many values; `insert`
leaves it with one and `erase` with none.
-/
namespace Reroute

namespace Header

/-- The characters of a lower-case token.  A double quote counts as one. -/
def isTokenChar (c : Char) : Bool :=
  c.isLower || c.isDigit ||
    ['!', '"', '#', '$', '%', '&', '\'', '*', '+', '-', '.', '^', '_', '\x60', '|', '~'].contains c

/-- The greatest length of a name. -/
def maxNameLength : Nat := 65535

/-- A name is a token of bounded length. -/
def isName (s : Text) : Bool :=
  !s.isEmpty && s.length ≤ maxNameLength && s.all isTokenChar

/-- The bytes of a value: all but the controls, of which only tab is legal. -/
def isValueByte (b : UInt8) : Bool :=
  (0x20 ≤ b && b != 0x7F) || b == 0x09

/-- The bytes of a value that reads as text: visible ASCII, space and tab. -/
def isVisibleByte (b : UInt8) : Bool :=
  (0x20 ≤ b && b ≤ 0x7E) || b == 0x09

end Header

/-- A legal header name, in lower case. -/
structure HeaderName where
  text : Text
  legal : Header.isName text = true
deriving DecidableEq

namespace HeaderName

/-- Read a name of any case. -/
def ofText? (s : Text) : Option HeaderName :=
  let lower := Text.lowerAscii s
  if h : Header.isName lower then some ⟨lower, h⟩ else none

/-- The media type of a body. -/
def contentType : HeaderName := ⟨"content-type".toList, by decide⟩

/-- The cookies of a request. -/
def cookie : HeaderName := ⟨"cookie".toList, by decide⟩

/-- The host a request is meant for. -/
def host : HeaderName := ⟨"host".toList, by decide⟩

/-- The credentials for a proxy on the way. -/
def proxyAuthorization : HeaderName := ⟨"proxy-authorization".toList, by decide⟩

/-- The connection options meant for the proxy itself. -/
def proxyConnection : HeaderName := ⟨"proxy-connection".toList, by decide⟩

end HeaderName

/-- A legal header value. -/
structure HeaderValue where
  bytes : List UInt8
  legal : bytes.all Header.isValueByte = true
deriving DecidableEq

namespace HeaderValue

/-- Read a value from bytes. -/
def ofBytes? (bytes : List UInt8) : Option HeaderValue :=
  if h : bytes.all Header.isValueByte then some ⟨bytes, h⟩ else none

/-- Read a value from a text. -/
def ofText? (s : Text) : Option HeaderValue :=
  ofBytes? (Utf8.encode s)

/-- The text of a value of visible ASCII; other values have none. -/
def toText? (value : HeaderValue) : Option Text :=
  if value.bytes.all Header.isVisibleByte then
    some (value.bytes.map fun b => Char.ofNat b.toNat)
  else none

end HeaderValue

/-- The headers of a message, in order of arrival. -/
structure Headers where
  entries : List (HeaderName × HeaderValue)
deriving DecidableEq

namespace Headers

/-- No headers. -/
def empty : Headers := ⟨[]⟩

/-- The values of a name, in order. -/
def values (headers : Headers) (name : HeaderName) : List HeaderValue :=
  (headers.entries.filter fun entry => entry.1 = name).map Prod.snd

/-- The first value of a name. -/
def get? (headers : Headers) (name : HeaderName) : Option HeaderValue :=
  (headers.values name).head?

/-- Add a value behind those a name has. -/
def append (headers : Headers) (name : HeaderName) (value : HeaderValue) : Headers :=
  ⟨headers.entries ++ [(name, value)]⟩

/-- Take every value of a name away. -/
def erase (headers : Headers) (name : HeaderName) : Headers :=
  ⟨headers.entries.filter fun entry => !decide (entry.1 = name)⟩

/-- Leave a name with one value. -/
def insert (headers : Headers) (name : HeaderName) (value : HeaderValue) : Headers :=
  (headers.erase name).append name value

/-- The first value of a name of any case, if it reads as text. -/
def text? (headers : Headers) (name : Text) : Option Text := do
  let value ← headers.get? (← HeaderName.ofText? name)
  value.toText?

/-- The entries with their names sorted, the values of one name in their order. -/
def sorted (headers : Headers) : List (HeaderName × HeaderValue) :=
  headers.entries.mergeSort fun a b => Text.precedes a.1.text b.1.text

end Headers

/-- A change to the headers of a message. -/
inductive HeaderEdit where
  | set (name : HeaderName) (value : HeaderValue)
  | remove (name : HeaderName)
deriving DecidableEq

namespace HeaderEdit

/-- The name an edit is about. -/
def name : HeaderEdit → HeaderName
  | .set name _ => name
  | .remove name => name

/-- Carry an edit out. -/
def apply (headers : Headers) : HeaderEdit → Headers
  | .set name value => headers.insert name value
  | .remove name => headers.erase name

end HeaderEdit

end Reroute
