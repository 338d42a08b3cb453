import Reroute.Percent
import Reroute.Regex.Search
import Reroute.Request

/-!
Templates: texts with placeholders.  `~` stands for the document root, `$N` for a group of
the match, `${name}` for a value of the request and `${&name}` for its form as a URI
component.  A template is cut into pieces once and each piece is replaced on its own, so
what a placeholder brings in is never read again.
-/
namespace Reroute

namespace Template

/-- A piece of a template. -/
inductive Piece where
  | char (c : Char)
  | root
  | group (digits : Text)
  | reference (encoded : Bool) (name : Text)
deriving Repr, DecidableEq

/-- The value that the text between braces refers to.  A `&` asks for the encoded value, but
one that stands alone is itself the name. -/
def reference? : Text → Option Piece
  | [] => none
  | ['&'] => some (.reference false ['&'])
  | '&' :: name => some (.reference true name)
  | name => some (.reference false name)

/-- The placeholder that the text behind a `$` makes with it, with what follows: all digits
that stand there, or a name in braces. -/
def placeholder? (s : Text) : Option (Piece × Text) :=
  if (s.takeWhile Text.isDecimalDigit).isEmpty then
    match s with
    | '{' :: body =>
        match body.dropWhile fun c => c != '}' with
        | [] => none
        | _ :: after =>
            (reference? (body.takeWhile fun c => c != '}')).map fun piece => (piece, after)
    | _ => none
  else some (.group (s.takeWhile Text.isDecimalDigit), s.dropWhile Text.isDecimalDigit)

/-- A placeholder leaves no more text than there was. -/
theorem length_of_placeholder? {s after : Text} {piece : Piece}
    (h : placeholder? s = some (piece, after)) : after.length ≤ s.length := by
  unfold placeholder? at h
  split at h
  · split at h
    · rename_i body _
      split at h
      · simp at h
      · rename_i c rest hdrop
        simp only [Option.map_eq_some_iff, Prod.mk.injEq] at h
        obtain ⟨_, _, _, rfl⟩ := h
        have hsuffix := (List.dropWhile_suffix (fun c => c != '}') (l := body)).length_le
        rw [hdrop] at hsuffix
        simp only [List.length_cons] at hsuffix ⊢
        omega
    · simp at h
  · simp only [Option.some.injEq, Prod.mk.injEq] at h
    obtain ⟨_, rfl⟩ := h
    exact (List.dropWhile_suffix Text.isDecimalDigit).length_le

/-- Cut a template into its pieces. -/
def pieces : Text → List Piece
  | [] => []
  | c :: rest =>
      if c = '~' then .root :: pieces rest
      else if c = '$' then
        match _h : placeholder? rest with
        | some (piece, after) => piece :: pieces after
        | none => .char c :: pieces rest
      else .char c :: pieces rest
termination_by s => s.length
decreasing_by
  all_goals simp only [List.length_cons]
  · omega
  · have := length_of_placeholder? _h
    omega
  · omega
  · omega

/-- The value of a name: a part of the URL, a header, a parameter or a cookie.  Other names
and values that are missing give the empty text. -/
def lookup (request : Request) (name : Text) : Text :=
  if name = "url".toList then request.url
  else if name = "host".toList then request.host
  else if name = "port".toList then request.port
  else if name = "path".toList then request.path
  else if name = "query".toList then request.query
  else match Text.after? "header:".toList name with
    | some header => (request.header? header).getD []
    | none =>
        match Text.after? "param:".toList name with
        | some param => (request.param? param).getD []
        | none =>
            match Text.after? "cookie:".toList name with
            | some cookie => (request.cookie? cookie).getD []
            | none => []

/-- The text of a group.  Its number is written in ASCII digits and fits 64 bits; any other
number is that of no group. -/
def groupText (captures : Captures) (digits : Text) : Text :=
  match Numeral.digits? Numeral.maxWord64 digits with
  | some index => captures.group index
  | none => []

/-- What a piece is replaced by. -/
def Piece.value (request : Request) (captures : Captures) : Piece → Text
  | .char c => [c]
  | .root => request.documentRoot
  | .group digits => groupText captures digits
  | .reference encoded name =>
      if encoded then Percent.encodeComponent (lookup request name) else lookup request name

end Template

/-- Replace the placeholders of a template. -/
def Request.expand (request : Request) (captures : Captures) (template : Text) : Text :=
  (Template.pieces template).flatMap (Template.Piece.value request captures)

end Reroute
