import Reroute.Proofs.Expansion
import Reroute.Proofs.Legality
import Reroute.Proofs.Text

/-!
The cookies of a request as a list.  Whatever the Cookie headers hold, what is read from them is
tidy: visible characters, no blanks around a name or a value, and no mark where it would be
taken for one.  Tidy cookies are read back from the one header that is written for them, so a
change to the headers is the change to the list.  The main statements say what setting and
removing a cookie do to a request, and what becomes of it where no header can be written.
-/
namespace Reroute

namespace Cookie

/-! ### Tidy cookies -/

/-- A name or a value as a header carries it: it can be read, ends with its piece and has no
blanks around it. -/
structure IsPart (s : Text) : Prop where
  visible : ∀ c ∈ s, Header.IsVisible c
  unmarked : ';' ∉ s
  start : Text.trimStart s = s
  finish : Text.trimEnd s = s

theorem IsPart.trim_eq {s : Text} (hpart : IsPart s) : Text.trim s = s := by
  rw [Text.trim, hpart.start, hpart.finish]

/-- A cookie as a header carries it: its name ends at the first `=`. -/
structure Tidy (cookie : Text × Text) : Prop where
  name : IsPart cookie.1
  value : IsPart cookie.2
  unmarked : '=' ∉ cookie.1

/-- Characters from the space to the tilde without spaces around them. -/
structure IsPlain (s : Text) : Prop where
  printable : ∀ c ∈ s, 0x20 ≤ c.toNat ∧ c.toNat ≤ 0x7E
  head : s.head? ≠ some ' '
  last : s.getLast? ≠ some ' '

instance (s : Text) : Decidable (IsPlain s) :=
  decidable_of_iff (s.all (fun c => decide (0x20 ≤ c.toNat ∧ c.toNat ≤ 0x7E)) = true ∧
      s.head? ≠ some ' ' ∧ s.getLast? ≠ some ' ') <| by
    rw [List.all_eq_true]
    simp only [decide_eq_true_eq]
    exact ⟨fun h => ⟨h.1, h.2.1, h.2.2⟩, fun h => ⟨h.printable, h.head, h.last⟩⟩

/-- Of the printable characters only the space is blank. -/
theorem isBlank_of_printable {c : Char} (hprintable : 0x20 ≤ c.toNat ∧ c.toNat ≤ 0x7E)
    (hspace : c ≠ ' ') : Text.isBlank c = false := by
  have hnumber : c.toNat ≠ 0x20 := fun hnumber => hspace (Char.toNat_inj.mp hnumber)
  simp only [Text.isBlank, Bool.or_eq_false_iff, Bool.and_eq_false_imp, decide_eq_true_eq,
    decide_eq_false_iff_not, beq_eq_false_iff_ne]
  omega

theorem IsPlain.isPart {s : Text} (hplain : IsPlain s) (hmark : ';' ∉ s) : IsPart s where
  visible c hc := Or.inl (hplain.printable c hc)
  unmarked := hmark
  start := by
    rw [Text.trimStart, List.dropWhile_eq_self_iff]
    intro hlength
    have hhead : s[0] ≠ ' ' := fun hspace => hplain.head (by
      rw [List.head?_eq_getElem?, List.getElem?_eq_getElem hlength, hspace])
    rw [isBlank_of_printable (hplain.printable _ (List.getElem_mem hlength)) hhead]
    exact Bool.false_ne_true
  finish := by
    change List.rdropWhile Text.isBlank s = s
    rw [List.rdropWhile_eq_self_iff]
    intro hne
    have hlast : s.getLast hne ≠ ' ' := fun hspace => hplain.last (by
      rw [List.getLast?_eq_getLast_of_ne_nil hne, hspace])
    rw [isBlank_of_printable (hplain.printable _ (List.getLast_mem hne)) hlast]
    exact Bool.false_ne_true

theorem IsPlain.tidy {name value : Text} (hname : IsPlain name) (hvalue : IsPlain value)
    (hequals : '=' ∉ name) (hsemicolon : ';' ∉ name) (hend : ';' ∉ value) :
    Tidy (name, value) where
  name := hname.isPart hsemicolon
  value := hvalue.isPart hend
  unmarked := hequals

/-! ### Reading -/

theorem IsPart.of_trim {s : Text} (hvisible : ∀ c ∈ s, Header.IsVisible c) (hmark : ';' ∉ s) :
    IsPart (Text.trim s) where
  visible c hc := hvisible c (Text.mem_of_mem_trim hc)
  unmarked := fun hmem => hmark (Text.mem_of_mem_trim hmem)
  start := Text.trimStart_trim s
  finish := Text.trimEnd_trim s

theorem tidy_of_ofPiece? {piece : Text} {cookie : Text × Text}
    (hvisible : ∀ c ∈ piece, Header.IsVisible c) (hmark : ';' ∉ piece)
    (hcookie : ofPiece? piece = some cookie) : Tidy cookie := by
  obtain ⟨⟨before, behind⟩, hcut, rfl⟩ := Option.map_eq_some_iff.mp hcookie
  obtain ⟨hjoined, hequals⟩ := Text.cut_eq_some hcut
  have hbefore : ∀ c ∈ before, c ∈ piece := fun c hc =>
    Text.mem_of_mem_trim (hjoined ▸ List.mem_append_left _ hc)
  have hbehind : ∀ c ∈ behind, c ∈ piece := fun c hc =>
    Text.mem_of_mem_trim (hjoined ▸ List.mem_append_right _ (List.mem_cons_of_mem _ hc))
  exact
    { name := .of_trim (fun c hc => hvisible c (hbefore c hc)) fun hmem => hmark (hbefore _ hmem)
      value := .of_trim (fun c hc => hvisible c (hbehind c hc)) fun hmem => hmark (hbehind _ hmem)
      unmarked := fun hmem => hequals (Text.mem_of_mem_trim hmem) }

/-- All that is read is tidy. -/
theorem tidy_of_mem_read {headers : Headers} {cookie : Text × Text}
    (hcookie : cookie ∈ read headers) : Tidy cookie := by
  obtain ⟨s, hs, hcookie⟩ := List.mem_flatMap.mp hcookie
  obtain ⟨value, -, htext⟩ := List.mem_filterMap.mp hs
  obtain ⟨piece, hpiece, hcookie⟩ := List.mem_filterMap.mp hcookie
  have hpiece := Text.mem_of_mem_splitOn hpiece
  have hvisible := HeaderValue.isVisible_of_toText? htext
  exact tidy_of_ofPiece? (fun c hc => hvisible c (hpiece c hc).1)
    (fun hmem => (hpiece _ hmem).2 rfl) hcookie

/-! ### Writing -/

section Render

variable {cookies : Cookies} {cookie : Text × Text}

theorem ofPiece?_of_trim_eq_pair (htidy : Tidy cookie) {piece : Text}
    (htrim : Text.trim piece = pair cookie) : ofPiece? piece = some cookie := by
  have hcut : Text.cut '=' (Text.trim piece) = some cookie := by
    rw [htrim]
    exact Text.cut_append htidy.unmarked cookie.2
  rw [ofPiece?, hcut, Option.map_some, htidy.name.trim_eq, htidy.value.trim_eq]

theorem trim_pair (htidy : Tidy cookie) : Text.trim (pair cookie) = pair cookie :=
  Text.trim_around (by decide) htidy.name.start htidy.value.finish

/-- The pieces of written cookies: all but the first have a space before them. -/
theorem render_cons (first : Text × Text) (rest : Cookies) :
    render (first :: rest) =
      Text.joinWith [';'] (pair first :: rest.map fun cookie => ' ' :: pair cookie) := by
  have hspace : ∀ (s : Text) (others : List Text),
      Text.joinWith [';'] ((' ' :: s) :: others) = ' ' :: Text.joinWith [';'] (s :: others) := by
    intro s others
    cases others with
    | nil => simp [Text.joinWith_singleton]
    | cons other others => simp [Text.joinWith_cons_cons]
  induction rest generalizing first with
  | nil => simp [render, Text.joinWith_singleton]
  | cons second others ih =>
      have hrender : render (first :: second :: others) =
          pair first ++ "; ".toList ++ render (second :: others) :=
        Text.joinWith_cons_cons _ _ _ _
      rw [hrender, ih, List.map_cons, Text.joinWith_cons_cons, hspace]
      simp

/-- Every piece of written cookies spells the cookie it was written for. -/
theorem map_ofPiece?_render (hne : cookies ≠ []) (htidy : ∀ cookie ∈ cookies, Tidy cookie) :
    ((render cookies).splitOn ';').map ofPiece? = cookies.map some := by
  obtain ⟨first, rest, rfl⟩ := List.exists_cons_of_ne_nil hne
  have hunmarked : ∀ cookie ∈ first :: rest, ';' ∉ pair cookie := by
    intro cookie hcookie
    have hcookie := htidy cookie hcookie
    simp [pair, hcookie.name.unmarked, hcookie.value.unmarked]
  have hpieces : ∀ piece ∈ pair first :: rest.map fun cookie => ' ' :: pair cookie,
      ';' ∉ piece := by
    intro piece hpiece
    rcases List.mem_cons.mp hpiece with rfl | hpiece
    · exact hunmarked first List.mem_cons_self
    · obtain ⟨cookie, hcookie, rfl⟩ := List.mem_map.mp hpiece
      simpa using hunmarked cookie (List.mem_cons_of_mem first hcookie)
  have hfirst : ofPiece? (pair first) = some first :=
    ofPiece?_of_trim_eq_pair (htidy first List.mem_cons_self)
      (trim_pair (htidy first List.mem_cons_self))
  have hrest : (rest.map fun cookie => ' ' :: pair cookie).map ofPiece? = rest.map some := by
    rw [List.map_map]
    refine List.map_congr_left fun cookie hcookie => ?_
    have hcookie := htidy cookie (List.mem_cons_of_mem first hcookie)
    refine ofPiece?_of_trim_eq_pair hcookie ?_
    rw [Text.trim_blank_cons (by decide), trim_pair hcookie]
  rw [render_cons, Text.joinWith, List.splitOn_intercalate ';' hpieces (by simp),
    List.map_cons, hfirst, hrest, List.map_cons]

/-- Tidy cookies are read back. -/
theorem ofText_render (hne : cookies ≠ []) (htidy : ∀ cookie ∈ cookies, Tidy cookie) :
    ofText (render cookies) = cookies := by
  have hread : ofText (render cookies) =
      (((render cookies).splitOn ';').map ofPiece?).filterMap id := by
    rw [List.filterMap_map]
    rfl
  rw [hread, map_ofPiece?_render hne htidy, List.filterMap_map, Function.id_comp,
    List.filterMap_some]

/-- What holds of the marks holds of written cookies where it holds of their parts. -/
theorem forall_mem_render {p : Char → Prop} (hmarks : ∀ c ∈ ['=', ';', ' '], p c) :
    (∀ c ∈ render cookies, p c) ↔
      ∀ cookie ∈ cookies, (∀ c ∈ cookie.1, p c) ∧ ∀ c ∈ cookie.2, p c := by
  constructor
  · intro hrender cookie hcookie
    have hpair : ∀ c ∈ pair cookie, p c := fun c hc =>
      hrender c (Text.mem_joinWith_of_mem (List.mem_map_of_mem hcookie) hc _)
    exact ⟨fun c hc => hpair c (List.mem_append_left _ hc),
      fun c hc => hpair c (List.mem_append_right _ (List.mem_cons_of_mem _ hc))⟩
  · intro hparts c hc
    rcases Text.mem_joinWith hc with hmark | ⟨part, hpart, hc⟩
    · exact hmarks c (List.mem_cons_of_mem _ hmark)
    · obtain ⟨cookie, hcookie, rfl⟩ := List.mem_map.mp hpart
      rcases List.mem_append.mp hc with hname | hvalue
      · exact (hparts cookie hcookie).1 c hname
      · rcases List.mem_cons.mp hvalue with rfl | hvalue
        · exact hmarks _ List.mem_cons_self
        · exact (hparts cookie hcookie).2 c hvalue

theorem isVisible_mark : ∀ c ∈ ['=', ';', ' '], Header.IsVisible c := by
  simp [Header.IsVisible]

theorem isVisible_render (htidy : ∀ cookie ∈ cookies, Tidy cookie) :
    ∀ c ∈ render cookies, Header.IsVisible c := by
  rw [forall_mem_render isVisible_mark]
  exact fun cookie hcookie => ⟨(htidy cookie hcookie).name.visible,
    (htidy cookie hcookie).value.visible⟩

end Render

/-! ### The header -/

section Write

variable {headers : Headers} {cookies : Cookies}

theorem write_nil (headers : Headers) : write headers [] = headers.erase .cookie := rfl

theorem write_of_legal {value : HeaderValue} (hne : cookies ≠ [])
    (hvalue : HeaderValue.ofText? (render cookies) = some value) :
    write headers cookies = headers.insert .cookie value := by
  have hsome : cookies.isEmpty = false := by simpa using hne
  simp only [write, hsome, hvalue, Bool.false_eq_true, if_false, Headers.insert,
    Headers.erase_erase]

/-- What cannot be written is not there, and nothing else is. -/
theorem write_of_illegal (hnone : HeaderValue.ofText? (render cookies) = none) :
    write headers cookies = headers.erase .cookie := by
  unfold write
  rw [hnone]
  exact ite_self _

/-- Writing depends on the other headers alone. -/
theorem write_congr {other : Headers} (hsame : headers.erase .cookie = other.erase .cookie)
    (cookies : Cookies) : write headers cookies = write other cookies := by
  simp only [write, hsame]

theorem erase_write (headers : Headers) (cookies : Cookies) :
    (write headers cookies).erase .cookie = headers.erase .cookie := by
  cases hvalue : HeaderValue.ofText? (render cookies) with
  | none => rw [write_of_illegal hvalue, Headers.erase_erase]
  | some value =>
      by_cases hne : cookies = []
      · rw [hne, write_nil, Headers.erase_erase]
      · rw [write_of_legal hne hvalue, Headers.erase_insert]

/-- Writing cookies leaves the values of every other header. -/
theorem values_write_of_ne {name : HeaderName} (hname : name ≠ .cookie) (headers : Headers)
    (cookies : Cookies) : (write headers cookies).values name = headers.values name := by
  have hsame := congrArg (fun left : Headers => left.values name) (erase_write headers cookies)
  simpa only [Headers.values_erase, if_neg hname.symm] using hsame

/-- Nothing of earlier cookies is left by later ones. -/
theorem write_write (headers : Headers) (before cookies : Cookies) :
    write (write headers before) cookies = write headers cookies :=
  write_congr (erase_write headers before) cookies

theorem values_write_of_tidy (hne : cookies ≠ []) (htidy : ∀ cookie ∈ cookies, Tidy cookie)
    (headers : Headers) :
    ∃ value, (write headers cookies).values .cookie = [value] ∧
      value.toText? = some (render cookies) := by
  obtain ⟨value, hvalue, htext⟩ := HeaderValue.exists_toText?_eq (isVisible_render htidy)
  refine ⟨value, ?_, htext⟩
  rw [write_of_legal hne hvalue, Headers.values_insert, if_pos rfl]

theorem read_headers_erase (headers : Headers) : read (headers.erase .cookie) = [] := by
  rw [read, Headers.values_erase, if_pos rfl]
  rfl

/-- The cookies that are written are those that are read. -/
theorem read_write (htidy : ∀ cookie ∈ cookies, Tidy cookie) (headers : Headers) :
    read (write headers cookies) = cookies := by
  by_cases hne : cookies = []
  · rw [hne, write_nil, read_headers_erase]
  · obtain ⟨value, hvalues, htext⟩ := values_write_of_tidy hne htidy headers
    rw [read, hvalues]
    simp [htext, ofText_render hne htidy]

end Write

/-! ### Setting and erasing -/

section Edit

variable (name value : Text) (cookies : Cookies)

theorem lookup_assign (other : Text) :
    (assign name value cookies).lookup other =
      if other = name then some value else cookies.lookup other := by
  induction cookies with
  | nil => exact Text.lookup_cons (name, value) [] other
  | cons cookie rest ih =>
      rw [assign]
      split
      case isTrue hname =>
          rw [Text.lookup_cons, Text.lookup_cons, hname]
          split <;> rfl
      case isFalse hname =>
          rw [Text.lookup_cons, Text.lookup_cons, ih]
          by_cases hother : other = cookie.1
          · rw [if_pos hother, if_pos hother, if_neg (hother ▸ hname)]
          · rw [if_neg hother, if_neg hother]

theorem mem_assign_self : (name, value) ∈ assign name value cookies := by
  induction cookies with
  | nil => exact List.mem_cons_self
  | cons cookie rest ih =>
      rw [assign]
      split
      · exact List.mem_cons_self
      · exact List.mem_cons_of_mem _ ih

theorem assign_ne_nil : assign name value cookies ≠ [] :=
  List.ne_nil_of_mem (mem_assign_self name value cookies)

variable {name value cookies} in
theorem mem_assign {cookie : Text × Text} (hcookie : cookie ∈ assign name value cookies) :
    cookie = (name, value) ∨ cookie ∈ cookies := by
  induction cookies with
  | nil => exact Or.inl (List.mem_singleton.mp hcookie)
  | cons first rest ih =>
      rw [assign] at hcookie
      split at hcookie
      · exact (List.mem_cons.mp hcookie).imp_right (List.mem_cons_of_mem first)
      · rcases List.mem_cons.mp hcookie with rfl | hcookie
        · exact Or.inr List.mem_cons_self
        · exact (ih hcookie).imp_right (List.mem_cons_of_mem first)

theorem assign_assign : assign name value (assign name value cookies) =
    assign name value cookies := by
  induction cookies with
  | nil => simp [assign]
  | cons cookie rest ih =>
      by_cases hname : cookie.1 = name
      · simp [assign, hname]
      · simp [assign, hname, ih]

end Edit

section Headers

variable {name value : Text}

theorem tidy_of_mem_assign {headers : Headers} (htidy : Tidy (name, value)) :
    ∀ cookie ∈ assign name value (read headers), Tidy cookie := by
  intro cookie hcookie
  rcases mem_assign hcookie with rfl | hcookie
  · exact htidy
  · exact tidy_of_mem_read hcookie

theorem read_set (htidy : Tidy (name, value)) (headers : Headers) :
    read (set headers name value) = assign name value (read headers) :=
  read_write (tidy_of_mem_assign htidy) headers

theorem get?_set (htidy : Tidy (name, value)) (headers : Headers) (other : Text) :
    get? (set headers name value) other =
      if other = name then some value else get? headers other := by
  rw [get?, read_set htidy, lookup_assign, get?]

theorem set_set (htidy : Tidy (name, value)) (headers : Headers) :
    set (set headers name value) name value = set headers name value := by
  rw [set, read_set htidy, assign_assign, set, write_write]

/-- Setting leaves one header. -/
theorem exists_values_set (htidy : Tidy (name, value)) (headers : Headers) :
    ∃ header, (set headers name value).values .cookie = [header] := by
  obtain ⟨header, hheader, -⟩ := values_write_of_tidy (assign_ne_nil name value (read headers))
    (tidy_of_mem_assign htidy) headers
  exact ⟨header, hheader⟩

theorem read_erase (headers : Headers) (name : Text) :
    read (erase headers name) = (read headers).filter fun cookie => cookie.1 != name :=
  read_write (fun _ hcookie => tidy_of_mem_read (List.mem_filter.mp hcookie).1) headers

theorem get?_erase (headers : Headers) (name other : Text) :
    get? (erase headers name) other = if other = name then none else get? headers other := by
  rw [get?, read_erase, Text.lookup_without, get?]

theorem erase_erase (headers : Headers) (name : Text) :
    erase (erase headers name) name = erase headers name := by
  rw [erase, read_erase, List.filter_filter, erase, write_write]
  simp

/-- Erasing leaves one header or none. -/
theorem length_values_erase_le (headers : Headers) (name : Text) :
    ((erase headers name).values .cookie).length ≤ 1 := by
  by_cases hne : (read headers).filter (fun cookie => cookie.1 != name) = []
  · rw [erase, hne, write_nil, Headers.values_erase, if_pos rfl]
    exact Nat.zero_le 1
  · obtain ⟨value, hvalues, -⟩ := values_write_of_tidy hne
      (fun _ hcookie => tidy_of_mem_read (List.mem_filter.mp hcookie).1) headers
    rw [erase, hvalues]
    exact Nat.le_refl 1

/-- The cookies can be written with a new one exactly where its parts are harmless, since the
others are. -/
theorem ofText?_render_assign_eq_none_iff {headers : Headers} :
    HeaderValue.ofText? (render (assign name value (read headers))) = none ↔
      ¬(Header.Harmless (Utf8.encode name) ∧ Header.Harmless (Utf8.encode value)) := by
  have hmarks : ∀ c ∈ ['=', ';', ' '], Header.Harmless (String.utf8EncodeChar c) :=
    Header.harmless_encode_iff.mp (HeaderValue.harmless_of_isVisible isVisible_mark)
  rw [HeaderValue.ofText?_eq_none_iff, Header.harmless_encode_iff, forall_mem_render hmarks,
    not_iff_not, Header.harmless_encode_iff, Header.harmless_encode_iff]
  constructor
  · exact fun hall => hall _ (mem_assign_self name value _)
  · rintro hparts cookie hcookie
    rcases mem_assign hcookie with rfl | hcookie
    · exact hparts
    · have htidy := tidy_of_mem_read hcookie
      exact ⟨Header.harmless_encode_iff.mp (HeaderValue.harmless_of_isVisible htidy.name.visible),
        Header.harmless_encode_iff.mp (HeaderValue.harmless_of_isVisible htidy.value.visible)⟩

end Headers

end Cookie

namespace Request

theorem headers_setCookie (request : Request) (name value : Text) :
    (request.setCookie name value).headers = Cookie.set request.headers name value := rfl

theorem headers_removeCookie (request : Request) (name : Text) :
    (request.removeCookie name).headers = Cookie.erase request.headers name := rfl

theorem cookie?_setCookie {name value : Text} (htidy : Cookie.Tidy (name, value))
    (request : Request) (other : Text) :
    (request.setCookie name value).cookie? other =
      if other = name then some value else request.cookie? other :=
  Cookie.get?_set htidy request.headers other

theorem cookie?_removeCookie (request : Request) (name other : Text) :
    (request.removeCookie name).cookie? other =
      if other = name then none else request.cookie? other :=
  Cookie.get?_erase request.headers name other

/-- A cookie that is set has its new value, one that is removed has none, and all others have
the value they had, however many headers they came in and whatever else those held.  One header
is left for them, or none where nothing is left; the other headers and fields of the request stay,
and doing it again changes nothing. -/
theorem setCookie_removeCookie (request : Request) {name value : Text}
    (hname : Cookie.IsPlain name) (hvalue : Cookie.IsPlain value) (hequals : '=' ∉ name)
    (hsemicolon : ';' ∉ name) (hend : ';' ∉ value) :
    let changed := request.setCookie name value
    let removed := request.removeCookie name
    (changed.cookie? name = some value ∧
        (∀ other, other ≠ name → changed.cookie? other = request.cookie? other) ∧
        (∃ header, changed.headers.values .cookie = [header]) ∧
        (∀ other, other ≠ .cookie →
          changed.headers.values other = request.headers.values other) ∧
        { changed with headers := request.headers } = request ∧
        changed.setCookie name value = changed) ∧
      removed.cookie? name = none ∧
        (∀ other, other ≠ name → removed.cookie? other = request.cookie? other) ∧
        (removed.headers.values .cookie).length ≤ 1 ∧
        (∀ other, other ≠ .cookie →
          removed.headers.values other = request.headers.values other) ∧
        { removed with headers := request.headers } = request ∧
        removed.removeCookie name = removed := by
  intro changed removed
  have htidy : Cookie.Tidy (name, value) :=
    ⟨hname.isPart hsemicolon, hvalue.isPart hend, hequals⟩
  refine ⟨⟨?found, ?kept, ?one, ?others, rfl, ?again⟩,
    ?none, ?removedKept, ?oneOrNone, ?removedOthers, rfl, ?removedAgain⟩
  case found => rw [request.cookie?_setCookie htidy, if_pos rfl]
  case kept =>
    intro other hother
    rw [request.cookie?_setCookie htidy, if_neg hother]
  case one =>
    rw [request.headers_setCookie]
    exact Cookie.exists_values_set htidy request.headers
  case others =>
    intro other hother
    exact Cookie.values_write_of_ne hother request.headers _
  case again => simp only [changed, setCookie, Cookie.set_set htidy]
  case none => rw [request.cookie?_removeCookie, if_pos rfl]
  case removedKept =>
    intro other hother
    rw [request.cookie?_removeCookie, if_neg hother]
  case oneOrNone =>
    rw [request.headers_removeCookie]
    exact Cookie.length_values_erase_le request.headers name
  case removedOthers =>
    intro other hother
    exact Cookie.values_write_of_ne hother request.headers _
  case removedAgain => simp only [removed, removeCookie, Cookie.erase_erase]

namespace JarWitness

def accept : HeaderName := ⟨"accept".toList, by decide⟩

def plain : HeaderValue := ⟨Utf8.encode "text/plain".toList, by decide⟩

def binary : HeaderValue := ⟨[0xFF], by decide⟩

/-- Cookies in three headers: a name that comes twice, bytes that are no text, and a piece that is
no cookie.  Around them stand two values of another header. -/
def merged : Request where
  url := "http://a.test/".toList
  headers := ⟨[(accept, plain), (.cookie, ⟨Utf8.encode "a=1; b=2; a=3".toList, by decide⟩),
    (.cookie, binary), (.cookie, ⟨Utf8.encode "q; c = 4=5".toList, by decide⟩), (accept, binary)]⟩

/-- A session, and a parameter with a control in it. -/
def belled : Request where
  url := "http://a.test/?page=%07".toList
  headers := ⟨[(.cookie, ⟨Utf8.encode "session=1".toList, by decide⟩)]⟩

def seen : Text := "seen".toList

def session : Text := "session".toList

theorem expand_page : belled.expand [] "${param:page}".toList = ['\x07'] := by
  have hreads : Template.Reads (Template.braced "param:page".toList)
      (.reference false "param:page".toList) :=
    Template.reads_braced (by decide) rfl
  have hurl : belled.url =
      Url.withPairs "http://a.test/".toList [("page".toList, ['\x07'])] := by decide
  have hparam : belled.param? "page".toList = some ['\x07'] := by
    rw [Request.param?, hurl, Url.pairs_withPairs]
    rfl
  calc belled.expand [] "${param:page}".toList
      = (belled.param? "page".toList).getD [] := belled.expand_of_reads [] hreads
    _ = ['\x07'] := by rw [hparam, Option.getD_some]

theorem ofText?_belled :
    HeaderValue.ofText? (Cookie.render (Cookie.assign seen ['\x07']
      (Cookie.read belled.headers))) = none := by decide

end JarWitness

open JarWitness in
/-- The cookies of all headers that can be read come together in one, and the header around them
keeps both of its values. -/
theorem setCookie_removeCookie_merged :
    (Cookie.IsPlain "a".toList ∧ Cookie.IsPlain "7 = x".toList ∧ '=' ∉ "a".toList ∧
      ';' ∉ "a".toList ∧ ';' ∉ "7 = x".toList) ∧
    (merged.setCookie "a".toList "7 = x".toList).cookie? "a".toList = some "7 = x".toList ∧
    (merged.setCookie "a".toList "7 = x".toList).cookie? "c".toList = some "4=5".toList ∧
    (∃ header, (merged.setCookie "a".toList "7 = x".toList).headers.values .cookie = [header]) ∧
    (merged.setCookie "a".toList "7 = x".toList).headers.values accept = [plain, binary] ∧
    (merged.removeCookie "a".toList).cookie? "a".toList = none ∧
    (merged.removeCookie "a".toList).cookie? "b".toList = some "2".toList ∧
    (merged.removeCookie "a".toList).headers.values accept = [plain, binary] := by
  have hplain : Cookie.IsPlain "a".toList ∧ Cookie.IsPlain "7 = x".toList ∧ '=' ∉ "a".toList ∧
      ';' ∉ "a".toList ∧ ';' ∉ "7 = x".toList := by decide
  obtain ⟨hname, hvalue, hequals, hsemicolon, hend⟩ := hplain
  obtain ⟨⟨hfound, hkept, hone, hothers, -⟩, hnone, hremoved, -, hremovedOthers, -⟩ :=
    merged.setCookie_removeCookie hname hvalue hequals hsemicolon hend
  refine ⟨⟨hname, hvalue, hequals, hsemicolon, hend⟩, hfound, ?_, hone, ?_, hnone, ?_, ?_⟩
  · rw [hkept _ (by decide)]
    decide
  · rw [hothers accept (by decide)]
    decide
  · rw [hremoved _ (by decide)]
    decide
  · rw [hremovedOthers accept (by decide)]
    decide

/-- Where the cookies with a new one make no legal header, the request is left without any
cookie, though nothing else of it changes.  Only a request that had no Cookie header is left as
it was.  It is the new cookie that has a control in it. -/
theorem setCookie_unwritable (request : Request) {name value : Text}
    (hillegal : HeaderValue.ofText?
      (Cookie.render (Cookie.assign name value (Cookie.read request.headers))) = none) :
    let changed := request.setCookie name value
    changed = { request with headers := request.headers.erase .cookie } ∧
      (∀ other, changed.cookie? other = none) ∧
      (changed = request ↔ request.headers.values .cookie = []) ∧
      ¬(Header.Harmless (Utf8.encode name) ∧ Header.Harmless (Utf8.encode value)) := by
  intro changed
  have hchanged : changed = { request with headers := request.headers.erase .cookie } :=
    congrArg (fun headers => { request with headers := headers })
      (Cookie.write_of_illegal hillegal)
  refine ⟨hchanged, ?gone, ?same, Cookie.ofText?_render_assign_eq_none_iff.mp hillegal⟩
  case gone =>
    intro other
    rw [hchanged, cookie?, Cookie.get?, Cookie.read_headers_erase]
    rfl
  case same =>
    rw [← Headers.erase_eq_self_iff, hchanged]
    constructor
    · exact congrArg Request.headers
    · intro herase
      rw [herase]

open JarWitness in
/-- The session is gone, for a control in another cookie. -/
theorem setCookie_unwritable_session :
    HeaderValue.ofText? (Cookie.render (Cookie.assign seen ['\x07']
      (Cookie.read belled.headers))) = none ∧
    belled.headers.values .cookie ≠ [] ∧
    (belled.setCookie seen ['\x07']).cookie? session = none ∧
    belled.setCookie seen ['\x07'] ≠ belled := by
  obtain ⟨-, hgone, hsame, -⟩ := belled.setCookie_unwritable ofText?_belled
  have harrived : belled.headers.values .cookie ≠ [] := by decide
  exact ⟨ofText?_belled, harrived, hgone session, fun h => harrived (hsame.mp h)⟩

open JarWitness in
/-- A value that the client chose takes the session away when it is set as a cookie, and changes
nothing when it is set as a header. -/
theorem setCookie_unwritable_lost :
    belled.cookie? session = some ['1'] ∧
    ((Modifier.setCookie seen "${param:page}".toList).apply belled).cookie? session = none ∧
    (Modifier.setCookie seen "${param:page}".toList).apply belled ≠ belled ∧
    (Modifier.setHeader .request seen "${param:page}".toList).apply belled = belled := by
  have hset : (Modifier.setCookie seen "${param:page}".toList).apply belled =
      belled.setCookie seen ['\x07'] := by
    rw [Modifier.apply, expand_page]
  have harrived : belled.cookie? session = some ['1'] := by decide
  have hlost : (belled.setCookie seen ['\x07']).cookie? session = none := by decide
  refine ⟨harrived, ?_, ?_, ?_⟩
  · rw [hset, hlost]
  · rw [hset]
    intro hsame
    rw [hsame, harrived] at hlost
    exact Option.some_ne_none _ hlost
  · rw [Modifier.apply, expand_page]
    rfl

end Request

end Reroute
