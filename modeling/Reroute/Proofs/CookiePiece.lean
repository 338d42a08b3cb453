import Reroute.Proofs.CookieJar
import Reroute.Proofs.Query

/-!
The pieces of Cookie headers, byte for byte.  Whoever receives a request sees every piece of its
Cookie headers, whether or not it is read as a cookie.  What is read are the pieces that have an
`=` and came in a header that reads as text, and a change to one cookie writes these and no
others.  The main statements say which of the pieces with other names come through the change,
and how many with its own name are sent on.
-/
namespace Reroute

namespace Cookie

/-! ### Pieces -/

/-- The blanks that a header may hold. -/
def isSpace (c : Char) : Bool :=
  c == ' ' || c == '\t'

/-- Drop the blanks of a header at both ends. -/
def strip (s : Text) : Text :=
  (s.dropWhile isSpace).rdropWhile isSpace

/-- A piece of a Cookie header: what stands before its first `=`, and what stands behind it, if
there is one.  Blanks around the piece and around the `=` are no part of it. -/
structure Piece where
  name : Text
  value? : Option Text
deriving DecidableEq

namespace Piece

/-- Take a piece apart. -/
def ofText (s : Text) : Piece :=
  match Text.cut '=' (strip s) with
  | some (name, value) => ⟨strip name, some (strip value)⟩
  | none => ⟨strip s, none⟩

/-- The piece of a cookie. -/
def ofCookie (cookie : Text × Text) : Piece :=
  ⟨cookie.1, some cookie.2⟩

end Piece

/-- A piece with the header value that it came in. -/
structure Arrival where
  header : HeaderValue
  piece : Piece
deriving DecidableEq

/-- A piece is read as a cookie if it has an `=` and its header reads as text. -/
def Arrival.isLegible (arrival : Arrival) : Bool :=
  arrival.header.toText?.isSome && arrival.piece.value?.isSome

/-- The pieces of the Cookie headers in order.  Every character stands for a byte. -/
def arrivals (headers : Headers) : List Arrival :=
  (headers.values .cookie).flatMap fun header =>
    ((Text.ofBytes header.bytes).splitOn ';').map fun s => ⟨header, .ofText s⟩

/-- The pieces of the Cookie headers without the headers. -/
def pieces (headers : Headers) : List Piece :=
  (arrivals headers).map Arrival.piece

/-- The pieces that are read. -/
def legible (headers : Headers) : List Piece :=
  ((arrivals headers).filter Arrival.isLegible).map Arrival.piece

/-! ### Reading -/

section Read

variable {s : Text}

/-- In a header that reads as text there are no other blanks. -/
theorem isSpace_eq_isBlank {c : Char} (hvisible : Header.IsVisible c) :
    isSpace c = Text.isBlank c := by
  have hspace : c = ' ' ↔ c.toNat = 0x20 := Char.toNat_inj.symm
  have htab : c = '\t' ↔ c.toNat = 0x09 := Char.toNat_inj.symm
  rw [Bool.eq_iff_iff]
  simp only [isSpace, Text.isBlank, Bool.or_eq_true, Bool.and_eq_true, beq_iff_eq,
    decide_eq_true_eq, hspace, htab]
  unfold Header.IsVisible at hvisible
  omega

theorem dropWhile_isSpace (hvisible : ∀ c ∈ s, Header.IsVisible c) :
    s.dropWhile isSpace = Text.trimStart s := by
  induction s with
  | nil => rfl
  | cons c rest ih =>
      rw [Text.trimStart, List.dropWhile_cons, List.dropWhile_cons,
        isSpace_eq_isBlank (hvisible c List.mem_cons_self),
        ih fun d hd => hvisible d (List.mem_cons_of_mem c hd), Text.trimStart]

theorem strip_eq_trim (hvisible : ∀ c ∈ s, Header.IsVisible c) : strip s = Text.trim s := by
  have hreverse : ∀ c ∈ (Text.trimStart s).reverse, Header.IsVisible c := fun c hc =>
    hvisible c ((List.dropWhile_suffix Text.isBlank).subset (List.mem_reverse.mp hc))
  rw [strip, dropWhile_isSpace hvisible, List.rdropWhile, dropWhile_isSpace hreverse]
  rfl

/-- Where all is visible, a piece is what is read of it, or it has no `=`. -/
theorem ofPiece?_cases (hvisible : ∀ c ∈ s, Header.IsVisible c) :
    (∃ cookie, ofPiece? s = some cookie ∧ Piece.ofText s = .ofCookie cookie) ∨
      ofPiece? s = none ∧ (Piece.ofText s).value? = none := by
  rw [ofPiece?, Piece.ofText, strip_eq_trim hvisible]
  cases hcut : Text.cut '=' (Text.trim s) with
  | none => exact Or.inr ⟨rfl, rfl⟩
  | some halves =>
      obtain ⟨name, value⟩ := halves
      obtain ⟨hjoined, -⟩ := Text.cut_eq_some hcut
      have hpart : ∀ c ∈ name ++ '=' :: value, Header.IsVisible c := fun c hc =>
        hvisible c (Text.mem_of_mem_trim (hjoined ▸ hc))
      have hname : strip name = Text.trim name :=
        strip_eq_trim fun c hc => hpart c (List.mem_append_left _ hc)
      have hvalue : strip value = Text.trim value :=
        strip_eq_trim fun c hc => hpart c (List.mem_append_right _ (List.mem_cons_of_mem _ hc))
      refine Or.inl ⟨_, rfl, ?_⟩
      simp only [hname, hvalue, Piece.ofCookie]

theorem legible_of_isVisible {header : HeaderValue} {text : Text}
    (htext : header.toText? = some text) {parts : List Text}
    (hvisible : ∀ part ∈ parts, ∀ c ∈ part, Header.IsVisible c) :
    ((parts.map fun part => Arrival.mk header (.ofText part)).filter Arrival.isLegible).map
        Arrival.piece =
      (parts.filterMap ofPiece?).map Piece.ofCookie := by
  induction parts with
  | nil => rfl
  | cons part rest ih =>
      have hrest := ih fun other hother => hvisible other (List.mem_cons_of_mem part hother)
      rw [List.map_cons]
      rcases ofPiece?_cases (hvisible part List.mem_cons_self) with
        ⟨cookie, hcookie, hpiece⟩ | ⟨hnone, hpiece⟩
      · have hlegible : (Arrival.mk header (.ofText part)).isLegible = true := by
          simp [Arrival.isLegible, htext, hpiece, Piece.ofCookie]
        rw [List.filter_cons_of_pos hlegible, List.map_cons, hrest,
          List.filterMap_cons_some hcookie, List.map_cons, hpiece]
      · have hlegible : ¬(Arrival.mk header (.ofText part)).isLegible = true := by
          simp [Arrival.isLegible, hpiece]
        rw [List.filter_cons_of_neg hlegible, hrest, List.filterMap_cons_none hnone]

/-- The pieces that are read are the cookies. -/
theorem legible_eq_map_read (headers : Headers) :
    legible headers = (read headers).map Piece.ofCookie := by
  unfold legible arrivals read
  induction headers.values .cookie with
  | nil => rfl
  | cons header rest ih =>
      rw [List.flatMap_cons, List.filter_append, List.map_append, ih]
      cases htext : header.toText? with
      | none =>
          have hnone : ∀ parts : List Text,
              (parts.map fun part => Arrival.mk header (.ofText part)).filter
                Arrival.isLegible = [] := by
            intro parts
            rw [List.filter_eq_nil_iff]
            intro arrival harrival
            obtain ⟨part, -, rfl⟩ := List.mem_map.mp harrival
            simp [Arrival.isLegible, htext]
          rw [hnone, List.filterMap_cons_none htext]
          rfl
      | some text =>
          have hvisible : ∀ part ∈ text.splitOn ';', ∀ c ∈ part, Header.IsVisible c :=
            fun part hpart c hc => HeaderValue.isVisible_of_toText? htext c
              (Text.mem_of_mem_splitOn hpart c hc).1
          rw [HeaderValue.ofBytes_of_toText? htext, legible_of_isVisible htext hvisible,
            List.filterMap_cons_some htext, List.flatMap_cons, List.map_append]
          rfl

end Read

/-! ### Writing -/

section Write

variable {headers : Headers} {cookies : Cookies}

/-- Nothing but cookies is written. -/
theorem isLegible_of_mem_arrivals_write (htidy : ∀ cookie ∈ cookies, Tidy cookie)
    {arrival : Arrival} (harrival : arrival ∈ arrivals (write headers cookies)) :
    arrival.isLegible = true := by
  obtain ⟨header, hheader, harrival⟩ := List.mem_flatMap.mp harrival
  by_cases hne : cookies = []
  · rw [hne, write_nil, Headers.values_erase, if_pos rfl] at hheader
    exact absurd hheader List.not_mem_nil
  · obtain ⟨value, hvalues, htext⟩ := values_write_of_tidy hne htidy headers
    rw [hvalues, List.mem_singleton] at hheader
    subst hheader
    obtain ⟨part, hpart, rfl⟩ := List.mem_map.mp harrival
    rw [HeaderValue.ofBytes_of_toText? htext] at hpart
    have hcookie : ofPiece? part ∈ cookies.map some :=
      map_ofPiece?_render hne htidy ▸ List.mem_map_of_mem hpart
    obtain ⟨cookie, -, hcookie⟩ := List.mem_map.mp hcookie
    have hvisible : ∀ c ∈ part, Header.IsVisible c := fun c hc =>
      isVisible_render htidy c (Text.mem_of_mem_splitOn hpart c hc).1
    rcases ofPiece?_cases hvisible with ⟨_, -, hpiece⟩ | ⟨hnone, -⟩
    · simp [Arrival.isLegible, htext, hpiece, Piece.ofCookie]
    · exact nomatch hcookie.trans hnone

/-- The pieces that are sent on are the cookies that were written. -/
theorem pieces_write (htidy : ∀ cookie ∈ cookies, Tidy cookie) (headers : Headers) :
    pieces (write headers cookies) = cookies.map Piece.ofCookie := by
  have hlegible : legible (write headers cookies) = pieces (write headers cookies) :=
    congrArg (List.map Arrival.piece) (List.filter_eq_self.mpr fun _ harrival =>
      isLegible_of_mem_arrivals_write htidy harrival)
  rw [← hlegible, legible_eq_map_read, read_write htidy]

end Write

/-! ### Setting and erasing -/

section Edit

variable {name value : Text}

theorem filter_assign_others (name value : Text) (cookies : Cookies) :
    (assign name value cookies).filter (fun cookie => cookie.1 != name) =
      cookies.filter fun cookie => cookie.1 != name := by
  induction cookies with
  | nil => simp [assign]
  | cons cookie rest ih =>
      by_cases hname : cookie.1 = name
      · simp [assign, hname]
      · simp [assign, hname, ih]

/-- The first cookie of the name gives way to the new one, and the others of it stay. -/
theorem filter_assign_named (name value : Text) (cookies : Cookies) :
    (assign name value cookies).filter (fun cookie => cookie.1 == name) =
      (name, value) :: (cookies.filter fun cookie => cookie.1 == name).tail := by
  induction cookies with
  | nil => simp [assign]
  | cons cookie rest ih =>
      by_cases hname : cookie.1 = name
      · simp [assign, hname]
      · simp [assign, hname, ih]

theorem filter_map_ofCookie (p : Text → Bool) (cookies : Cookies) :
    (cookies.map Piece.ofCookie).filter (fun piece => p piece.name) =
      (cookies.filter fun cookie => p cookie.1).map Piece.ofCookie :=
  List.filter_map

theorem filter_legible (p : Text → Bool) (headers : Headers) :
    (legible headers).filter (fun piece => p piece.name) =
      ((read headers).filter fun cookie => p cookie.1).map Piece.ofCookie := by
  rw [legible_eq_map_read, filter_map_ofCookie]

theorem pieces_set (htidy : Tidy (name, value)) (headers : Headers) :
    pieces (set headers name value) =
      (assign name value (read headers)).map Piece.ofCookie :=
  pieces_write (tidy_of_mem_assign htidy) headers

theorem pieces_erase (headers : Headers) (name : Text) :
    pieces (erase headers name) =
      ((read headers).filter fun cookie => cookie.1 != name).map Piece.ofCookie :=
  pieces_write (fun _ hcookie => tidy_of_mem_read (List.mem_filter.mp hcookie).1) headers

theorem filter_pieces_set_others (htidy : Tidy (name, value)) (headers : Headers) :
    (pieces (set headers name value)).filter (fun piece => piece.name != name) =
      (legible headers).filter fun piece => piece.name != name := by
  rw [pieces_set htidy, filter_map_ofCookie (· != name), filter_assign_others,
    filter_legible (· != name)]

theorem filter_pieces_erase_others (headers : Headers) (name : Text) :
    (pieces (erase headers name)).filter (fun piece => piece.name != name) =
      (legible headers).filter fun piece => piece.name != name := by
  have htwice : ((read headers).filter fun cookie => cookie.1 != name).filter
      (fun cookie => cookie.1 != name) = (read headers).filter fun cookie => cookie.1 != name := by
    simp only [List.filter_filter, Bool.and_self]
  rw [pieces_erase, filter_map_ofCookie (· != name), htwice, filter_legible (· != name)]

theorem filter_pieces_set_named (htidy : Tidy (name, value)) (headers : Headers) :
    (pieces (set headers name value)).filter (fun piece => piece.name == name) =
      ⟨name, some value⟩ ::
        ((legible headers).filter fun piece => piece.name == name).tail := by
  rw [pieces_set htidy, filter_map_ofCookie (· == name), filter_assign_named, List.map_cons,
    filter_legible (· == name), List.map_tail]
  rfl

/-- Where of certain names the legible pieces are sent on and no others, all pieces of these names
come through exactly where all are legible. -/
theorem sublist_iff_isLegible {headers : Headers} {sent : List Piece} {p : Text → Bool}
    (hsent : sent.filter (fun piece => p piece.name) =
      (legible headers).filter fun piece => p piece.name) :
    ((pieces headers).filter fun piece => p piece.name).Sublist sent ↔
      ∀ arrival ∈ arrivals headers, p arrival.piece.name = true → arrival.isLegible = true := by
  let named := (arrivals headers).filter fun arrival => p arrival.piece.name
  have hpieces : (pieces headers).filter (fun piece => p piece.name) =
      named.map Arrival.piece := List.filter_map
  have hlegible : (legible headers).filter (fun piece => p piece.name) =
      (named.filter Arrival.isLegible).map Arrival.piece := by
    rw [legible, List.filter_map, List.filter_comm]
    rfl
  have hall : named.filter Arrival.isLegible = named ↔
      ∀ arrival ∈ arrivals headers, p arrival.piece.name = true → arrival.isLegible = true := by
    rw [List.filter_eq_self]
    simp only [named, List.mem_filter, and_imp]
  rw [← hall]
  constructor
  · intro hsublist
    have htwice : ((pieces headers).filter fun piece => p piece.name).filter
        (fun piece => p piece.name) = named.map Arrival.piece := by
      rw [← hpieces, List.filter_filter]
      simp only [Bool.and_self]
    -- The pieces of these names are among those sent, which are no more than the legible ones.
    have hnamed := hsublist.filter fun piece => p piece.name
    rw [htwice, hsent, hlegible] at hnamed
    have hlength := hnamed.length_le
    rw [List.length_map, List.length_map] at hlength
    exact List.filter_sublist.eq_of_length_le hlength
  · intro hsame
    rw [hpieces, ← hsame, ← hlegible, ← hsent]
    exact List.filter_sublist

end Edit

end Cookie

namespace Request

/-- The pieces with other names that come through a change to one cookie are those that are
read, in their order: those that have an `=` and came in a header of visible characters.  So all
come through exactly where all are such. -/
theorem setCookie_removeCookie_others (request : Request) {name value : Text}
    (hname : Cookie.IsPlain name) (hvalue : Cookie.IsPlain value) (hequals : '=' ∉ name)
    (hsemicolon : ';' ∉ name) (hend : ';' ∉ value) :
    ∀ changed ∈ [request.setCookie name value, request.removeCookie name],
      let others := fun piece : Cookie.Piece => piece.name != name
      let sent := Cookie.pieces changed.headers
      sent.filter others = (Cookie.legible request.headers).filter others ∧
        (((Cookie.pieces request.headers).filter others).Sublist sent ↔
          ∀ arrival ∈ Cookie.arrivals request.headers, arrival.piece.name ≠ name →
            arrival.header.toText?.isSome ∧ arrival.piece.value?.isSome) := by
  intro changed hchanged others sent
  have htidy := hname.tidy hvalue hequals hsemicolon hend
  have hsent : sent.filter others = (Cookie.legible request.headers).filter others := by
    simp only [List.mem_cons, List.not_mem_nil, or_false] at hchanged
    rcases hchanged with rfl | rfl
    · exact Cookie.filter_pieces_set_others htidy request.headers
    · exact Cookie.filter_pieces_erase_others request.headers name
  refine ⟨hsent, (Cookie.sublist_iff_isLegible (p := fun s => s != name) hsent).trans ?_⟩
  simp only [Cookie.Arrival.isLegible, bne_iff_ne, ne_eq, Bool.and_eq_true]

namespace PieceWitness

/-- A request with one Cookie header. -/
def sending (url : String) (cookies : List UInt8)
    (hlegal : cookies.all Header.isValueByte = true) : Request where
  url := url.toList
  headers := ⟨[(.cookie, ⟨cookies, hlegal⟩)]⟩

/-- Cookies that can all be read. -/
def clean : Request :=
  sending "http://a.test/" (Utf8.encode "session=1; lang=en".toList) (by decide)

/-- A letter beyond ASCII in one of two cookies. -/
def accented : Request :=
  sending "http://a.test/" (Utf8.encode "theme=é; session=1".toList) (by decide)

/-- A piece without `=`. -/
def bare : Request :=
  sending "http://a.test/" (Utf8.encode "session; lang=en".toList) (by decide)

/-- A name that comes twice, in the cookies and in the query. -/
def repeated : Request :=
  sending "http://a.test/?id=1&lang=en&id=2" (Utf8.encode "id=1; lang=en; id=2".toList)
    (by decide)

end PieceWitness

open PieceWitness in
/-- Of three headers the pieces that can be read come through, and of a clean one all. -/
theorem setCookie_removeCookie_others_merged :
    (Cookie.IsPlain "a".toList ∧ Cookie.IsPlain "7".toList ∧ '=' ∉ "a".toList ∧
      ';' ∉ "a".toList ∧ ';' ∉ "7".toList) ∧
    (Cookie.pieces (JarWitness.merged.setCookie "a".toList "7".toList).headers).filter
        (fun piece => piece.name != "a".toList) =
      [⟨"b".toList, some "2".toList⟩, ⟨"c".toList, some "4=5".toList⟩] ∧
    ((Cookie.pieces clean.headers).filter fun piece => piece.name != "a".toList).Sublist
      (Cookie.pieces (clean.removeCookie "a".toList).headers) := by
  have hplain : Cookie.IsPlain "a".toList ∧ Cookie.IsPlain "7".toList ∧ '=' ∉ "a".toList ∧
      ';' ∉ "a".toList ∧ ';' ∉ "7".toList := by decide
  obtain ⟨hname, hvalue, hequals, hsemicolon, hend⟩ := hplain
  have hmerged := (JarWitness.merged.setCookie_removeCookie_others hname hvalue hequals hsemicolon
    hend _ List.mem_cons_self).1
  have hclean := (clean.setCookie_removeCookie_others hname hvalue hequals hsemicolon hend _
    (List.mem_cons_of_mem _ List.mem_cons_self)).2
  refine ⟨⟨hname, hvalue, hequals, hsemicolon, hend⟩, ?_, hclean.mpr ?_⟩
  · rw [hmerged]
    decide
  · decide

open PieceWitness in
/-- A session is lost for a letter in another cookie, and for having no `=`. -/
theorem setCookie_removeCookie_dropped :
    (Cookie.IsPlain "seen".toList ∧ '=' ∉ "seen".toList ∧ ';' ∉ "seen".toList ∧
      Cookie.IsPlain "1".toList ∧ ';' ∉ "1".toList) ∧
    (⟨"session".toList, some "1".toList⟩ ∈ Cookie.pieces accented.headers ∧
      Cookie.pieces (accented.setCookie "seen".toList "1".toList).headers =
        [⟨"seen".toList, some "1".toList⟩]) ∧
    (Cookie.IsPlain "lang".toList ∧ '=' ∉ "lang".toList ∧ ';' ∉ "lang".toList) ∧
    (⟨"session".toList, none⟩ ∈ Cookie.pieces bare.headers ∧
      Cookie.pieces (bare.removeCookie "lang".toList).headers = []) := by
  decide

/-- The first cookie of a name that is set gives way to the new one and the others of it are sent
on behind it, so that the name is sent once only where no more than one of it was read. -/
theorem setCookie_named (request : Request) {name value : Text}
    (hname : Cookie.IsPlain name) (hvalue : Cookie.IsPlain value) (hequals : '=' ∉ name)
    (hsemicolon : ';' ∉ name) (hend : ';' ∉ value) :
    let named := fun piece : Cookie.Piece => piece.name == name
    let read := (Cookie.legible request.headers).filter named
    let sent := (Cookie.pieces (request.setCookie name value).headers).filter named
    sent = ⟨name, some value⟩ :: read.tail ∧
      (sent = [⟨name, some value⟩] ↔ read.length ≤ 1) := by
  intro named read sent
  have htidy := hname.tidy hvalue hequals hsemicolon hend
  have hsent : sent = ⟨name, some value⟩ :: read.tail :=
    Cookie.filter_pieces_set_named htidy request.headers
  have htail : read.tail = [] ↔ read.length ≤ 1 := by
    rw [← List.length_eq_zero_iff, List.length_tail, Nat.sub_eq_zero_iff_le]
  exact ⟨hsent, by rw [hsent, List.cons_eq_cons, htail, and_iff_right rfl]⟩

open PieceWitness in
/-- A name that came once is sent once. -/
theorem setCookie_named_clean :
    (Cookie.IsPlain "lang".toList ∧ Cookie.IsPlain "de".toList ∧ '=' ∉ "lang".toList ∧
      ';' ∉ "lang".toList ∧ ';' ∉ "de".toList) ∧
    (Cookie.pieces (clean.setCookie "lang".toList "de".toList).headers).filter
        (fun piece => piece.name == "lang".toList) =
      [⟨"lang".toList, some "de".toList⟩] := by
  have hplain : Cookie.IsPlain "lang".toList ∧ Cookie.IsPlain "de".toList ∧
      '=' ∉ "lang".toList ∧ ';' ∉ "lang".toList ∧ ';' ∉ "de".toList := by decide
  obtain ⟨hname, hvalue, hequals, hsemicolon, hend⟩ := hplain
  have hclean := (clean.setCookie_named hname hvalue hequals hsemicolon hend).2
  exact ⟨⟨hname, hvalue, hequals, hsemicolon, hend⟩, hclean.mpr (by decide)⟩

open PieceWitness in
/-- The old value of the second cookie stays, and that of the second parameter does not. -/
theorem setCookie_named_stale :
    (Cookie.IsPlain "id".toList ∧ '=' ∉ "id".toList ∧ ';' ∉ "id".toList ∧
      Cookie.IsPlain "3".toList ∧ ';' ∉ "3".toList) ∧
    Cookie.pieces (repeated.setCookie "id".toList "3".toList).headers =
      [⟨"id".toList, some "3".toList⟩, ⟨"lang".toList, some "en".toList⟩,
        ⟨"id".toList, some "2".toList⟩] ∧
    Url.pairs (repeated.setParam "id".toList "3".toList).url =
      [("id".toList, "3".toList), ("lang".toList, "en".toList)] := by
  have hurl : repeated.url = Url.withPairs "http://a.test/".toList
      [("id".toList, "1".toList), ("lang".toList, "en".toList), ("id".toList, "2".toList)] := by
    decide
  refine ⟨by decide, by decide, ?_⟩
  rw [setParam, Url.setParam, Url.pairs_withPairs, hurl, Url.pairs_withPairs]
  decide

end Request

end Reroute
