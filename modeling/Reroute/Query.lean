import Reroute.Percent

/-!
Query strings as lists of decoded pairs.  Pieces stand between `&`s, empty ones are
skipped, a name ends at the first `=` of its piece, `+` is a space, and bytes that are no
UTF-8 read as U+FFFD.  Writing spells every byte but letters, digits and `*-._` with a
percent sign, and a space as `+`.

The operations on URLs touch only the part after the first `?`: `set` gives a name the place
of its first occurrence, or the end, and `erase` takes every occurrence away.
-/
namespace Reroute

/-- A decoded query: names with their values, in order. -/
abbrev Pairs := List (Text × Text)

namespace Query

/-- The text that a name or a value of a query spells. -/
def decodePart (s : Text) : Text :=
  Utf8.decodeLossy (Percent.decode (Utf8.encode (s.map fun c => if c = '+' then ' ' else c)))

/-- The pair that a piece spells; without `=` the value is empty. -/
def decodePiece (piece : Text) : Text × Text :=
  match Text.cut '=' piece with
  | some (name, value) => (decodePart name, decodePart value)
  | none => (decodePart piece, [])

/-- The pairs of a query string. -/
def decode (s : Text) : Pairs :=
  ((s.splitOn '&').filter fun piece => !piece.isEmpty).map decodePiece

/-- The bytes that stand for themselves in a written query. -/
def isPlainByte (b : UInt8) : Bool :=
  Percent.isAlphanumeric b || [0x2A, 0x2D, 0x2E, 0x5F].contains b

/-- Write a name or a value. -/
def encodePart (s : Text) : Text :=
  (Utf8.encode s).flatMap fun b =>
    if b = 0x20 then ['+'] else Percent.encode isPlainByte [b]

/-- Write one pair. -/
def encodePair (pair : Text × Text) : Text :=
  encodePart pair.1 ++ '=' :: encodePart pair.2

/-- Write pairs with `&` between them. -/
def encode (pairs : Pairs) : Text :=
  Text.joinWith ['&'] (pairs.map encodePair)

/-- The value of the first pair of a name. -/
def get? (name : Text) (pairs : Pairs) : Option Text :=
  pairs.lookup name

/-- Take every pair of a name away. -/
def erase (name : Text) (pairs : Pairs) : Pairs :=
  pairs.filter fun pair => pair.1 != name

/-- Give a name one value: in the place of its first pair, its other pairs going, or in a
new last pair. -/
def set (name value : Text) : Pairs → Pairs
  | [] => [(name, value)]
  | pair :: rest =>
      if pair.1 = name then (name, value) :: erase name rest else pair :: set name value rest

end Query

namespace Url

/-- The text before the first `?`. -/
def base (url : Text) : Text :=
  url.takeWhile fun c => c != '?'

/-- The text after the first `?`. -/
def query (url : Text) : Text :=
  (url.dropWhile fun c => c != '?').drop 1

/-- The decoded query of a URL. -/
def pairs (url : Text) : Pairs :=
  Query.decode (query url)

/-- Put pairs in place of the query.  Without pairs the `?` goes as well. -/
def withPairs (url : Text) (pairs : Pairs) : Text :=
  let written := Query.encode pairs
  if written.isEmpty then base url else base url ++ '?' :: written

/-- Give a query parameter one value. -/
def setParam (name value url : Text) : Text :=
  withPairs url (Query.set name value (pairs url))

/-- Take a query parameter away. -/
def eraseParam (name url : Text) : Text :=
  withPairs url (Query.erase name (pairs url))

/-- A URL that carries neither `http://` nor `https://` gets the former. -/
def normalize (url : Text) : Text :=
  if "http://".toList.isPrefixOf url || "https://".toList.isPrefixOf url then url
  else "http://".toList ++ url

end Url

end Reroute
