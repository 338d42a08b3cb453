import Reroute.Proofs.Header
import Reroute.Proofs.Modification
import Reroute.Proofs.Reading

/-!
Legal headers.  A text becomes a header name or a header value only if it is legal, and every
way into the headers of a request and into the edits of its response goes through one of the
two.  The main statement follows the headers of a request through its evaluation: none of them
can hold a line end, whatever templates brought in, and what is not legal changes nothing.
-/
namespace Reroute

namespace Header

/-- The visible characters that no name may hold.  A double quote is none of them. -/
def delimiters : Text :=
  ['(', ')', ',', '/', ':', ';', '<', '=', '>', '?', '@', '[', '\\', ']', '{', '}']

/-- A text that is a name in some case: visible ASCII without delimiters. -/
structure IsToken (s : Text) : Prop where
  ne_nil : s ≠ []
  short : s.length ≤ 65535
  visible : ∀ c ∈ s, 0x21 ≤ c.toNat ∧ c.toNat ≤ 0x7E ∧ c ∉ delimiters

/-- A name as it is kept: no capitals. -/
def IsLowerToken (s : Text) : Prop :=
  IsToken s ∧ ∀ c ∈ s, c.isUpper = false

/-- Bytes without controls but for tabs. -/
def Harmless (bytes : List UInt8) : Prop :=
  ∀ b ∈ bytes, (0x20 ≤ b.toNat ∨ b.toNat = 0x09) ∧ b.toNat ≠ 0x7F

theorem harmless_encode_iff {s : Text} :
    Harmless (Utf8.encode s) ↔ ∀ c ∈ s, Harmless (String.utf8EncodeChar c) := by
  constructor
  · exact fun hall c hc b hb => hall b (List.mem_flatMap.mpr ⟨c, hc, hb⟩)
  · intro hall b hb
    obtain ⟨c, hc, hb⟩ := List.mem_flatMap.mp hb
    exact hall c hc b hb

theorem isLower_bounds {c : Char} (hlower : c.isLower = true) :
    0x61 ≤ c.toNat ∧ c.toNat ≤ 0x7A := by
  obtain ⟨hlow, hhigh⟩ := Bool.and_eq_true_iff.mp hlower
  exact ⟨UInt32.le_iff_toNat_le.mp (of_decide_eq_true hlow),
    UInt32.le_iff_toNat_le.mp (of_decide_eq_true hhigh)⟩

theorem isUpper_bounds {c : Char} (hupper : c.isUpper = true) :
    0x41 ≤ c.toNat ∧ c.toNat ≤ 0x5A := by
  have hbounds : 65 ≤ c.val ∧ c.val ≤ 90 := of_decide_eq_true hupper
  exact hbounds.imp UInt32.le_iff_toNat_le.mp UInt32.le_iff_toNat_le.mp

theorem toNat_lt_of_isTokenChar {c : Char} (htoken : isTokenChar c = true) : c.toNat < 0x80 := by
  simp only [isTokenChar, Bool.or_eq_true, List.contains_eq_mem, decide_eq_true_eq] at htoken
  rcases htoken with (hlower | hdigit) | hmark
  · exact Nat.lt_of_le_of_lt (isLower_bounds hlower).2 (by decide)
  · simp only [Char.isDigit, Bool.and_eq_true, decide_eq_true_eq, UInt32.le_iff_toNat_le] at hdigit
    exact Nat.lt_of_le_of_lt hdigit.2 (by decide)
  · have hmarks : ['!', '"', '#', '$', '%', '&', '\'', '*', '+', '-', '.', '^', '_', '\x60',
        '|', '~'].all (fun d => d.toNat < 0x80) = true := by decide
    exact of_decide_eq_true (List.all_eq_true.mp hmarks c hmark)

/-- ASCII, tried out: lower-casing makes a name character of the visible ones but delimiters,
and no capital is one. -/
theorem isTokenChar_of_ascii : ∀ n < 0x80,
    (isTokenChar (Char.ofNat n).toLower = true ↔
      0x21 ≤ (Char.ofNat n).toNat ∧ (Char.ofNat n).toNat ≤ 0x7E ∧ Char.ofNat n ∉ delimiters) ∧
    (isTokenChar (Char.ofNat n) = true → (Char.ofNat n).isUpper = false) := by decide

theorem toLower_eq_self {c : Char} (hupper : c.isUpper = false) : c.toLower = c :=
  dif_neg (of_decide_eq_false hupper)

theorem isUpper_of_isTokenChar {c : Char} (htoken : isTokenChar c = true) :
    c.isUpper = false := by
  have hc := (isTokenChar_of_ascii c.toNat (toNat_lt_of_isTokenChar htoken)).2
  rw [Char.ofNat_toNat] at hc
  exact hc htoken

theorem isTokenChar_toLower_iff {c : Char} :
    isTokenChar c.toLower = true ↔ 0x21 ≤ c.toNat ∧ c.toNat ≤ 0x7E ∧ c ∉ delimiters := by
  by_cases hc : c.toNat < 0x80
  · have hiff := (isTokenChar_of_ascii c.toNat hc).1
    rwa [Char.ofNat_toNat] at hiff
  · have hupper : c.isUpper = false := by
      rw [Bool.eq_false_iff]
      exact fun hupper => hc (Nat.lt_of_le_of_lt (isUpper_bounds hupper).2 (by decide))
    constructor
    · intro htoken
      rw [toLower_eq_self hupper] at htoken
      exact absurd (toNat_lt_of_isTokenChar htoken) hc
    · intro hvisible
      exact absurd (Nat.lt_succ_of_le (Nat.le_succ_of_le hvisible.2.1)) hc

end Header

namespace HeaderName

/-- A text is read as a name, without its capitals, exactly where it is a token. -/
theorem ofText?_cases (s : Text) :
    (Header.IsToken s ∧ ∃ name, name.text = Text.lowerAscii s ∧ ofText? s = some name) ∨
      ¬Header.IsToken s ∧ ofText? s = none := by
  have hlegal : Header.isName (Text.lowerAscii s) = true ↔ Header.IsToken s := by
    simp only [Header.isName, Text.lowerAscii, Header.maxNameLength, Bool.and_eq_true,
      Bool.not_eq_true', List.isEmpty_eq_false_iff, ne_eq, List.map_eq_nil_iff, List.length_map,
      decide_eq_true_eq, List.all_eq_true, List.forall_mem_map, Header.isTokenChar_toLower_iff]
    exact ⟨fun h => ⟨h.1.1, h.1.2, h.2⟩, fun h => ⟨⟨h.ne_nil, h.short⟩, h.visible⟩⟩
  by_cases htoken : Header.IsToken s
  · have hname := hlegal.mpr htoken
    exact Or.inl ⟨htoken, ⟨_, hname⟩, rfl, dif_pos hname⟩
  · exact Or.inr ⟨htoken, dif_neg fun hname => htoken (hlegal.mp hname)⟩

theorem isLowerToken (name : HeaderName) : Header.IsLowerToken name.text := by
  have hlegal := name.legal
  simp only [Header.isName, Bool.and_eq_true, Bool.not_eq_true', List.isEmpty_eq_false_iff,
    decide_eq_true_eq, List.all_eq_true] at hlegal
  have hupper : ∀ c ∈ name.text, c.isUpper = false :=
    fun c hc => Header.isUpper_of_isTokenChar (hlegal.2 c hc)
  refine ⟨⟨hlegal.1.1, hlegal.1.2, ?_⟩, hupper⟩
  intro c hc
  rw [← Header.isTokenChar_toLower_iff, Header.toLower_eq_self (hupper c hc)]
  exact hlegal.2 c hc

end HeaderName

namespace HeaderValue

theorem harmless_iff {bytes : List UInt8} :
    bytes.all Header.isValueByte = true ↔ Header.Harmless bytes := by
  simp only [Header.Harmless, List.all_eq_true]
  refine forall₂_congr fun b _ => ?_
  simp only [Header.isValueByte, Bool.or_eq_true, Bool.and_eq_true, decide_eq_true_eq, bne_iff_ne,
    ne_eq, beq_iff_eq, UInt8.le_iff_toNat_le, ← UInt8.toNat_inj, UInt8.reduceToNat]
  omega

/-- A text is read as a value exactly where its bytes are harmless. -/
theorem ofText?_cases (s : Text) :
    (Header.Harmless (Utf8.encode s) ∧
        ∃ value, value.bytes = Utf8.encode s ∧ ofText? s = some value) ∨
      ¬Header.Harmless (Utf8.encode s) ∧ ofText? s = none := by
  by_cases hharmless : Header.Harmless (Utf8.encode s)
  · have hbytes := harmless_iff.mpr hharmless
    exact Or.inl ⟨hharmless, ⟨_, hbytes⟩, rfl, dif_pos hbytes⟩
  · exact Or.inr ⟨hharmless, dif_neg fun hbytes => hharmless (harmless_iff.mp hbytes)⟩

theorem ofText?_eq_none_iff {s : Text} :
    ofText? s = none ↔ ¬Header.Harmless (Utf8.encode s) := by
  rcases ofText?_cases s with ⟨hharmless, value, -, hvalue⟩ | ⟨hharmless, hnone⟩
  · simp [hvalue, hharmless]
  · simp [hnone, hharmless]

theorem harmless_of_isVisible {s : Text} (hvisible : ∀ c ∈ s, Header.IsVisible c) :
    Header.Harmless (Utf8.encode s) := by
  obtain ⟨value, hvalue, -⟩ := exists_toText?_eq hvisible
  by_contra hnot
  rw [ofText?_eq_none_iff.mpr hnot] at hvalue
  exact nomatch hvalue

theorem harmless (value : HeaderValue) : Header.Harmless value.bytes :=
  harmless_iff.mp value.legal

end HeaderValue

/-! ### The ways into the headers -/

namespace HeaderEdit

/-- A header is set if name and value are legal, and otherwise not at all. -/
theorem setting?_cases (name value : Text) :
    ((Header.IsToken name ∧ Header.Harmless (Utf8.encode value)) ∧
      ∃ legalName legalValue, legalName.text = Text.lowerAscii name ∧
        legalValue.bytes = Utf8.encode value ∧
        setting? name value = some (.set legalName legalValue)) ∨
    ¬(Header.IsToken name ∧ Header.Harmless (Utf8.encode value)) ∧
      setting? name value = none := by
  unfold setting?
  rcases HeaderName.ofText?_cases name with ⟨htoken, legalName, htext, hname⟩ | ⟨htoken, hname⟩
  · rcases HeaderValue.ofText?_cases value with
      ⟨hharmless, legalValue, hbytes, hvalue⟩ | ⟨hharmless, hvalue⟩
    · exact Or.inl ⟨⟨htoken, hharmless⟩, legalName, legalValue, htext, hbytes, by
        rw [hname, hvalue]⟩
    · exact Or.inr ⟨fun hlegal => hharmless hlegal.2, by rw [hname, hvalue]⟩
  · exact Or.inr ⟨fun hlegal => htoken hlegal.1, by rw [hname]⟩

/-- A header is removed if its name is legal, and otherwise not at all. -/
theorem removing?_cases (name : Text) :
    (Header.IsToken name ∧ ∃ legalName, legalName.text = Text.lowerAscii name ∧
        removing? name = some (.remove legalName)) ∨
      ¬Header.IsToken name ∧ removing? name = none := by
  unfold removing?
  rcases HeaderName.ofText?_cases name with ⟨htoken, legalName, htext, hname⟩ | ⟨htoken, hname⟩
  · exact Or.inl ⟨htoken, legalName, htext, by rw [hname]; rfl⟩
  · exact Or.inr ⟨htoken, by rw [hname]; rfl⟩

theorem mem_apply {headers : Headers} {edit : HeaderEdit} {entry : HeaderName × HeaderValue}
    (hentry : entry ∈ (edit.apply headers).entries) :
    entry ∈ headers.entries ∨ edit = .set entry.1 entry.2 := by
  cases edit with
  | set name value =>
      simp only [apply, Headers.insert, Headers.append, Headers.erase, List.mem_append,
        List.mem_filter, List.mem_singleton] at hentry
      rcases hentry with ⟨hold, -⟩ | rfl
      · exact Or.inl hold
      · exact Or.inr rfl
  | remove name => exact Or.inl (List.mem_filter.mp hentry).1

end HeaderEdit

theorem Cookie.mem_write {headers : Headers} {cookies : Cookies}
    {entry : HeaderName × HeaderValue} (hentry : entry ∈ (write headers cookies).entries) :
    entry ∈ headers.entries ∨
      entry.1 = .cookie ∧ HeaderValue.ofText? (render cookies) = some entry.2 := by
  have hbare : ∀ other ∈ (headers.erase .cookie).entries, other ∈ headers.entries :=
    fun other hother => (List.mem_filter.mp hother).1
  unfold write at hentry
  split at hentry
  case isTrue => exact Or.inl (hbare entry hentry)
  case isFalse =>
      split at hentry
      case h_1 value hvalue =>
          have hset : entry ∈ (HeaderEdit.apply (headers.erase .cookie)
              (.set .cookie value)).entries := hentry
          rcases HeaderEdit.mem_apply hset with hold | hnew
          · exact Or.inl (hbare entry hold)
          · obtain ⟨hname, rfl⟩ := HeaderEdit.set.inj hnew
            exact Or.inr ⟨hname.symm, hvalue⟩
      case h_2 => exact Or.inl (hbare entry hentry)

namespace Request

/-- Setting a header makes an edit of what is legal and leaves the request alone otherwise. -/
theorem setHeader_cases (request : Request) (scope : HeaderScope) (name value : Text) :
    ((Header.IsToken name ∧ Header.Harmless (Utf8.encode value)) ∧
      ∃ legalName legalValue, legalName.text = Text.lowerAscii name ∧
        legalValue.bytes = Utf8.encode value ∧
        request.setHeader scope name value =
          request.editHeaders scope (.set legalName legalValue)) ∨
    ¬(Header.IsToken name ∧ Header.Harmless (Utf8.encode value)) ∧
      request.setHeader scope name value = request := by
  rw [setHeader_eq]
  rcases HeaderEdit.setting?_cases name value with
    ⟨hlegal, legalName, legalValue, htext, hbytes, hedit⟩ | ⟨hlegal, hedit⟩
  · exact Or.inl ⟨hlegal, legalName, legalValue, htext, hbytes, by rw [hedit]; rfl⟩
  · exact Or.inr ⟨hlegal, by rw [hedit]; rfl⟩

theorem removeHeader_cases (request : Request) (scope : HeaderScope) (name : Text) :
    (Header.IsToken name ∧ ∃ legalName, legalName.text = Text.lowerAscii name ∧
        request.removeHeader scope name = request.editHeaders scope (.remove legalName)) ∨
      ¬Header.IsToken name ∧ request.removeHeader scope name = request := by
  rw [removeHeader_eq]
  rcases HeaderEdit.removing?_cases name with ⟨htoken, legalName, htext, hedit⟩ | ⟨htoken, hedit⟩
  · exact Or.inl ⟨htoken, legalName, htext, by rw [hedit]; rfl⟩
  · exact Or.inr ⟨htoken, by rw [hedit]; rfl⟩

/-- How a header can have come to a request behind modifiers: it was there, a modifier set it,
or it holds cookies. -/
inductive Supplied (request : Request) (modifiers : List Modifier) (name : HeaderName)
    (value : HeaderValue) : Prop
  | arrived (hentry : (name, value) ∈ request.headers.entries)
  | modified (place : Nat) (hedits : request.EditsAt .request modifiers place (.set name value))
  | cookies (cookies : Cookies) (hname : name = .cookie)
      (hvalue : HeaderValue.ofText? (Cookie.render cookies) = some value)

section Supplied

variable {request : Request} {modifiers : List Modifier} {name : HeaderName}
  {value : HeaderValue}

theorem Supplied.concat (modifier : Modifier)
    (hsupplied : request.Supplied modifiers name value) :
    request.Supplied (modifiers ++ [modifier]) name value := by
  cases hsupplied with
  | arrived hentry => exact .arrived hentry
  | modified place hedits => exact .modified place (editsAt_concat.mpr (Or.inl hedits))
  | cookies cookies hname hvalue => exact .cookies cookies hname hvalue

/-- There are no other ways. -/
theorem supplied_of_mem (hentry : (name, value) ∈ (request.modify modifiers).headers.entries) :
    request.Supplied modifiers name value := by
  induction modifiers using List.reverseRecOn with
  | nil => exact .arrived hentry
  | append_singleton modifiers modifier ih =>
      rw [modify_concat] at hentry
      rcases modifier.apply_headers (request.modify modifiers) with hedit | ⟨cookies, hcookies⟩
      · rw [hedit] at hentry
        cases hmodifier : modifier.edit? .request (request.modify modifiers) with
        | none =>
            rw [hmodifier] at hentry
            exact (ih hentry).concat modifier
        | some edit =>
            rw [hmodifier] at hentry
            rcases HeaderEdit.mem_apply hentry with hold | rfl
            · exact (ih hold).concat modifier
            · exact .modified _ (editsAt_concat.mpr (Or.inr ⟨rfl, hmodifier⟩))
      · rw [hcookies] at hentry
        rcases Cookie.mem_write hentry with hold | ⟨hname, hvalue⟩
        · exact (ih hold).concat modifier
        · exact .cookies cookies hname hvalue

end Supplied

end Request

/-! ### Media types -/

namespace Action

theorem harmless_of_isTypeChar {s : Text} (htype : ∀ c ∈ s, isTypeChar c = true) :
    Header.Harmless (Utf8.encode s) := by
  refine HeaderValue.harmless_of_isVisible fun c hc => Or.inl ?_
  have hchar := htype c hc
  simp only [isTypeChar, Bool.or_eq_true, beq_iff_eq] at hchar
  rcases hchar with (halpha | rfl) | rfl
  · rcases Bool.or_eq_true_iff.mp halpha with hupper | hlower
    · have hbounds := Header.isUpper_bounds hupper
      omega
    · have hbounds := Header.isLower_bounds hlower
      omega
  · decide
  · decide

/-- A media type is made of the characters it is recognized by. -/
theorem isTypeChar_of_splitType {s type : Text} (hsplit : (splitType s).1 = some type) :
    ∀ c ∈ type, isTypeChar c = true := by
  unfold splitType at hsplit
  split at hsplit
  case h_1 => exact nomatch hsplit
  case h_2 =>
      obtain rfl := Option.some.inj hsplit
      exact fun c hc => List.mem_takeWhile_imp hc
  case h_3 => exact nomatch hsplit

theorem isTypeChar_of_compile {pattern : Pattern} {source contentType : Text}
    (htype : (compile pattern source).contentType? = some contentType) :
    ∀ c ∈ contentType, isTypeChar c = true := by
  have hdata : ∀ rest, (ofData rest).contentType? = some contentType →
      ∀ c ∈ contentType, isTypeChar c = true := by
    intro rest hrest
    have hrest : (splitType rest).1.getD defaultContentType = contentType :=
      Option.some.inj hrest
    cases hsplit : (splitType rest).1 with
    | none =>
        rw [hsplit] at hrest
        rw [← hrest]
        exact List.all_eq_true.mp (by decide)
    | some type =>
        rw [hsplit] at hrest
        rw [← hrest]
        exact isTypeChar_of_splitType hsplit
  unfold compile ofForm at htype
  split at htype
  · exact nomatch htype
  · split at htype
    · exact nomatch htype
    · split at htype
      case h_1 rest _ => exact hdata rest htype
      case h_2 =>
          -- No other form names a media type.
          repeat' split at htype
          all_goals exact nomatch htype

/-- The media type of a compiled action is a legal header value. -/
theorem ofText?_of_compile {pattern : Pattern} {source contentType : Text}
    (htype : (compile pattern source).contentType? = some contentType) :
    ∃ value, HeaderValue.ofText? contentType = some value := by
  have hharmless := harmless_of_isTypeChar (isTypeChar_of_compile htype)
  rcases HeaderValue.ofText?_cases contentType with ⟨-, value, -, hvalue⟩ | ⟨hnot, -⟩
  · exact ⟨value, hvalue⟩
  · exact absurd hharmless hnot

end Action

namespace RulesFile

theorem action_of_mem_contents {lines : List Text} {rule : Rule}
    (hrule : rule ∈ (contents lines).2) :
    ∃ pattern source, rule.action = Action.compile pattern source := by
  obtain ⟨group, -, hgroup⟩ := List.mem_filterMap.mp hrule
  obtain ⟨compiled, hcompiled, rfl⟩ := Option.map_eq_some_iff.mp hgroup
  obtain ⟨pattern, -, rfl⟩ := Option.map_eq_some_iff.mp hcompiled
  exact ⟨pattern, group.1.2, rfl⟩

/-- The rules of a file have compiled actions. -/
theorem action_of_select? {text url : Text} {selected : Ruleset.Selected}
    (hselect : (parse text).select? url = some selected) :
    ∃ pattern source, selected.entry.rule.action = Action.compile pattern source := by
  obtain ⟨entry, hentry, hmatch⟩ := List.exists_of_findSome?_eq_some hselect
  obtain ⟨captures, -, rfl⟩ := Option.map_eq_some_iff.mp hmatch
  have hrule : ∀ owner rules, entry ∈ Ruleset.entriesOf owner rules → entry.rule ∈ rules := by
    intro owner rules hmem
    obtain ⟨pair, hpair, rfl⟩ := List.mem_map.mp hmem
    exact List.fst_mem_of_mem_zipIdx hpair
  rw [parse_eq_grouping] at hentry
  rcases List.mem_append.mp hentry with hroot | hsection
  · exact action_of_mem_contents (hrule _ _ hroot)
  · obtain ⟨owner, howner, hmem⟩ := List.mem_flatMap.mp hsection
    obtain ⟨howner, -⟩ := List.mem_filter.mp howner
    obtain ⟨part, -, rfl⟩ := List.mem_map.mp howner
    have hmem := hrule _ _ hmem
    unfold sectionOf at hmem
    split at hmem
    case isTrue => exact action_of_mem_contents hmem
    case isFalse => exact absurd hmem List.not_mem_nil

/-- No header that an evaluation leaves holds a control or a capital in its name, or a control
but tab in its value, and neither does an edit that waits for the response.  Each of them came
with the request, or a modifier set it, or it holds the cookies.  Setting or removing what is
not legal changes nothing at all, and the media types of actions are legal too. -/
theorem evaluate_headers_legal (text : Text) (executor : Executor) (request : Request) :
    let left := ((parse text).evaluate executor request).request
    (∀ name value, (name, value) ∈ left.headers.entries →
      Header.IsLowerToken name.text ∧ Header.Harmless value.bytes) ∧
    (∀ edit ∈ left.responseEdits,
      Header.IsLowerToken edit.name.text ∧ ∀ value ∈ edit.values, Header.Harmless value.bytes) ∧
    (∀ selected, (parse text).select? request.url = some selected →
      (∀ name value, (name, value) ∈ left.headers.entries →
        request.Supplied ((parse text).modifiersFor selected.entry) name value) ∧
      ∀ edit ∈ left.responseEdits, edit ∈ request.responseEdits ∨
        ∃ place, request.EditsAt .response ((parse text).modifiersFor selected.entry) place
          edit) ∧
    ((parse text).select? request.url = none → left = request) ∧
    (∀ (found : Request) scope name value,
      (((Header.IsToken name ∧ Header.Harmless (Utf8.encode value)) ∧
        ∃ legalName legalValue, legalName.text = Text.lowerAscii name ∧
          legalValue.bytes = Utf8.encode value ∧
          found.setHeader scope name value =
            found.editHeaders scope (.set legalName legalValue)) ∨
      ¬(Header.IsToken name ∧ Header.Harmless (Utf8.encode value)) ∧
        found.setHeader scope name value = found) ∧
      ((Header.IsToken name ∧ ∃ legalName, legalName.text = Text.lowerAscii name ∧
          found.removeHeader scope name = found.editHeaders scope (.remove legalName)) ∨
        ¬Header.IsToken name ∧ found.removeHeader scope name = found)) ∧
    (∀ pattern source contentType,
      (Action.compile pattern source).contentType? = some contentType →
        ∃ value, HeaderValue.ofText? contentType = some value) ∧
    (request.contentType = none → ∀ contentType, left.contentType = some contentType →
      ∃ value, HeaderValue.ofText? contentType = some value) := by
  intro left
  refine ⟨?headers, ?edits, ?sources, ?unmatched, ?illegal, ?compiled, ?decided⟩
  case headers => exact fun name value _ => ⟨name.isLowerToken, value.harmless⟩
  case edits => exact fun edit _ => ⟨edit.name.isLowerToken, fun value _ => value.harmless⟩
  case sources =>
      intro selected hselect
      obtain ⟨hheaders, hedits, -, -⟩ := Ruleset.evaluate_request hselect executor
      rw [show left.headers = _ from hheaders, show left.responseEdits = _ from hedits]
      exact ⟨fun name value => Request.supplied_of_mem,
        fun edit => Request.mem_responseEdits_modify.mp⟩
  case unmatched =>
      intro hnone
      exact congrArg Action.Outcome.request (Ruleset.evaluate_of_none hnone executor)
  case illegal =>
      exact fun found scope name value =>
        ⟨found.setHeader_cases scope name value, found.removeHeader_cases scope name⟩
  case compiled => exact fun pattern source contentType => Action.ofText?_of_compile
  case decided =>
      intro hundecided contentType hdecided
      cases hselect : (parse text).select? request.url with
      | none =>
          have hleft : left = request :=
            congrArg Action.Outcome.request (Ruleset.evaluate_of_none hselect executor)
          rw [hleft, hundecided] at hdecided
          exact nomatch hdecided
      | some selected =>
          obtain ⟨-, -, -, htype⟩ := Ruleset.evaluate_request hselect executor
          obtain ⟨pattern, source, haction⟩ := action_of_select? hselect
          rw [show left.contentType = _ from htype, hundecided, Option.or_none, haction]
            at hdecided
          exact Action.ofText?_of_compile hdecided

end RulesFile

end Reroute
