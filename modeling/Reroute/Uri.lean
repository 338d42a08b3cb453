import Reroute.Text.Numeral

/-!
Absolute request targets: a scheme, an authority and a path with its query.  `Uri.parse`
accepts the targets an HTTP request may name and says of every other text what is wrong with
it; a fragment is accepted unread and dropped.
-/
namespace Reroute

/-- What makes a text no target. -/
inductive UriError where
  | empty
  | tooLong
  | schemeTooLong
  | invalidCharacter
  | invalidAuthority
  | invalidFormat
deriving Repr, DecidableEq

/-- The wording of an error. -/
def UriError.message : UriError → Text
  | .empty => "empty string".toList
  | .tooLong => "uri too long".toList
  | .schemeTooLong => "scheme too long".toList
  | .invalidCharacter => "invalid uri character".toList
  | .invalidAuthority => "invalid authority".toList
  | .invalidFormat => "invalid format".toList

/-- The two schemes a request is sent with, and every other one. -/
inductive Scheme where
  | http
  | https
  | other (name : Text)
deriving Repr, DecidableEq

/-- The written form of a scheme. -/
def Scheme.text : Scheme → Text
  | .http => "http".toList
  | .https => "https".toList
  | .other name => name

/-- A parsed target.  `authority` and `target` are empty where the text has no such part. -/
structure Uri where
  scheme : Option Scheme
  authority : Text
  target : Text
deriving Repr, DecidableEq

namespace Uri

/-- The greatest length of a target, in bytes. -/
def maxLength : Nat := 65534

/-- The greatest length of a scheme's name. -/
def maxSchemeLength : Nat := 64

/-- The most colons that may stand in a row of address parts and a port. -/
def maxColons : Nat := 8

/-- Letters, digits and `+-.~` make up the name of a scheme. -/
def isSchemeChar (c : Char) : Bool :=
  c.isAlphanum || ['+', '-', '.', '~'].contains c

/-- The characters of an authority that have no meaning of their own in it. -/
def isPlainAuthorityChar (c : Char) : Bool :=
  c.isAlphanum || ['!', '$', '&', '\'', '(', ')', '*', '+', ',', '-', '.', ';', '=', '_',
    '~'].contains c

/-- The characters that end an authority. -/
def endsAuthority (c : Char) : Bool :=
  c == '/' || c == '?' || c == '#'

/-- The characters a path may hold: all visible ASCII but `#`, `<`, `>`, `?`, a backquote. -/
def isPathChar (c : Char) : Bool :=
  let n := c.toNat
  0x21 ≤ n && n ≤ 0x7E && !(['#', '<', '>', '?', '\x60'].contains c)

/-- The characters a query may hold: all visible ASCII but `"`, `#`, `<`, `>`. -/
def isQueryChar (c : Char) : Bool :=
  let n := c.toNat
  0x21 ≤ n && n ≤ 0x7E && !(['"', '#', '<', '>'].contains c)

/-- What the scan of an authority has seen since the user part and the address brackets. -/
structure AuthorityScan where
  colons : Nat
  opened : Bool
  closed : Bool
  percent : Bool
  lastIsAt : Bool
deriving Repr, DecidableEq

/-- Nothing seen yet. -/
def AuthorityScan.start : AuthorityScan :=
  ⟨0, false, false, false, false⟩

/-- Take in one character of an authority. -/
def AuthorityScan.step (scan : AuthorityScan) (c : Char) : Except UriError AuthorityScan :=
  if c = ':' then
    if maxColons ≤ scan.colons then .error .invalidAuthority
    else .ok { scan with colons := scan.colons + 1, lastIsAt := false }
  else if c = '[' then
    if scan.percent || scan.opened then .error .invalidAuthority
    else .ok { scan with opened := true, lastIsAt := false }
  else if c = ']' then
    if !scan.opened || scan.closed then .error .invalidAuthority
    else .ok { scan with closed := true, colons := 0, percent := false, lastIsAt := false }
  else if c = '@' then .ok { scan with colons := 0, percent := false, lastIsAt := true }
  else if c = '%' then .ok { scan with percent := true, lastIsAt := false }
  else if isPlainAuthorityChar c then .ok { scan with lastIsAt := false }
  else .error .invalidCharacter

/-- Brackets pair up, at most the colon of a port is left, something follows the user part,
and a percent sign stands in the user part or the brackets only. -/
def AuthorityScan.accepts (scan : AuthorityScan) : Bool :=
  scan.opened == scan.closed && scan.colons ≤ 1 && !scan.lastIsAt && !scan.percent

/-- Check the authority a text begins with and split it off. -/
def splitAuthority (s : Text) : Except UriError (Text × Text) := do
  let authority := s.takeWhile fun c => !endsAuthority c
  let scan ← authority.foldlM AuthorityScan.step .start
  if scan.accepts then pure (authority, s.dropWhile fun c => !endsAuthority c)
  else throw .invalidAuthority

/-- Check a path with its query, and drop the fragment. -/
def checkTarget (s : Text) : Except UriError Text :=
  let path := s.takeWhile fun c => c != '?' && c != '#'
  match s.dropWhile fun c => c != '?' && c != '#' with
  | '?' :: rest =>
      let query := rest.takeWhile fun c => c != '#'
      if path.all isPathChar && query.all isQueryChar then .ok (path ++ '?' :: query)
      else .error .invalidCharacter
  | _ => if path.all isPathChar then .ok path else .error .invalidCharacter

/-- Split off the scheme and the `://` behind it, where a text begins with them.  The two
schemes of requests are known in either case. -/
def splitScheme (s : Text) : Except UriError (Option Scheme × Text) :=
  if Text.sameIgnoringCase (s.take 7) "http://".toList then .ok (some .http, s.drop 7)
  else if Text.sameIgnoringCase (s.take 8) "https://".toList then .ok (some .https, s.drop 8)
  else if s.length ≤ 3 then .ok (none, s)
  else
    let name := s.takeWhile isSchemeChar
    match Text.after? "://".toList (s.dropWhile isSchemeChar) with
    | some rest =>
        if maxSchemeLength < name.length then .error .schemeTooLong
        else .ok (some (.other name), rest)
    | none => .ok (none, s)

/-- Parse a text of two characters or more that begins with no slash.  Without a scheme the
whole text is an authority; with one, an authority must follow. -/
def parseFull (s : Text) : Except UriError Uri := do
  let (scheme?, rest) ← splitScheme s
  let (authority, after) ← splitAuthority rest
  match scheme? with
  | none => if after.isEmpty then pure ⟨none, authority, []⟩ else throw .invalidFormat
  | some scheme =>
      if authority.isEmpty then throw .invalidFormat
      else pure ⟨some scheme, authority, ← checkTarget after⟩

/-- Parse a target. -/
def parse (s : Text) : Except UriError Uri :=
  if maxLength < Text.byteLength s then .error .tooLong
  else match s with
    | [] => .error .empty
    | ['/'] => .ok ⟨none, [], ['/']⟩
    | ['*'] => .ok ⟨none, [], ['*']⟩
    | [c] => do
        let (authority, after) ← splitAuthority [c]
        if after.isEmpty then pure ⟨none, authority, []⟩ else throw .invalidCharacter
    | '/' :: rest => do pure ⟨none, [], ← checkTarget ('/' :: rest)⟩
    | s => parseFull s

/-- The part of the authority behind the user part. -/
def hostAndPort (uri : Uri) : Text :=
  (uri.authority.reverse.takeWhile fun c => c != '@').reverse

/-- The host: an address in brackets, or all before the colon of the port. -/
def host? (uri : Uri) : Option Text :=
  if uri.authority.isEmpty then none
  else match hostAndPort uri with
    | '[' :: rest => some ('[' :: (rest.takeWhile fun c => c != ']') ++ [']'])
    | s => some (s.takeWhile fun c => c != ':')

/-- The port: a number of 16 bits behind the last colon. -/
def port? (uri : Uri) : Option Nat :=
  if uri.authority.contains ':' then
    Numeral.read? Numeral.maxWord16 (uri.authority.reverse.takeWhile fun c => c != ':').reverse
  else none

/-- The port, or the one its scheme stands for. -/
def portOrDefault (uri : Uri) : Nat :=
  match uri.port? with
  | some port => port
  | none => if uri.scheme = some .https then 443 else 80

/-- The path.  It is `/` where an absolute target leaves it out, and empty for a bare
authority. -/
def path (uri : Uri) : Text :=
  if uri.target.isEmpty && uri.scheme.isNone then []
  else match uri.target.takeWhile fun c => c != '?' with
    | [] => ['/']
    | path => path

/-- The path with the query, as it is sent to an origin. -/
def pathAndQuery (uri : Uri) : Text :=
  match uri.target with
  | [] => if uri.scheme.isNone then [] else ['/']
  | '?' :: query => '/' :: '?' :: query
  | target => target

/-- The written form of a target. -/
def text (uri : Uri) : Text :=
  (match uri.scheme with
    | some scheme => scheme.text ++ "://".toList
    | none => []) ++ uri.authority ++ uri.pathAndQuery

end Uri

end Reroute
