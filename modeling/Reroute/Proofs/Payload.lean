import Reroute.Proofs.Expansion
import Reroute.Proofs.Failure
import Reroute.Proofs.Text

/-!
Data in base64.  The text of an action names a media type, asks for base64 and carries the
bytes.  The media type is recognized by letters, slashes and hyphens alone, and what is not
recognized stays in the payload.  The main statement: the answer has the bytes and the media type
exactly where the media type is made of such characters.
-/
namespace Reroute

namespace Action

/-- The characters of a restricted name. -/
def isRestrictedNameChar (c : Char) : Bool :=
  c.isAlphanum || ['!', '#', '$', '&', '-', '^', '_', '.', '+'].contains c

/-- A media type: a slash between restricted names. -/
def IsMediaType (s : Text) : Prop :=
  ∃ type subtype, s = type ++ '/' :: subtype ∧ type.all isRestrictedNameChar = true ∧
    subtype.all isRestrictedNameChar = true

/-- Bytes in base64 behind their media type. -/
def payloadText (contentType : Text) (body : List UInt8) : Text :=
  contentType ++ ';' :: ("base64,".toList ++ Base64.encode body)

/-- The text of an action that answers with bytes of a media type. -/
def dataText (contentType : Text) (body : List UInt8) : Text :=
  "data:".toList ++ payloadText contentType body

/-! ### Media types -/

section MediaType

variable {contentType : Text}

/-- A media type holds none of the marks around it. -/
theorem IsMediaType.mark_notMem (htype : IsMediaType contentType) {mark : Char}
    (hmark : mark ≠ '/') (hname : isRestrictedNameChar mark = false) : mark ∉ contentType := by
  obtain ⟨type, subtype, rfl, hleft, hright⟩ := htype
  have hnot : ∀ {half : Text}, half.all isRestrictedNameChar = true → mark ∉ half := by
    intro half hhalf hmem
    have hmark := List.all_eq_true.mp hhalf mark hmem
    rw [hname] at hmark
    exact Bool.false_ne_true hmark
  simp [hnot hleft, hnot hright, hmark]

theorem IsMediaType.ne_nil (htype : IsMediaType contentType) : contentType ≠ [] := by
  obtain ⟨type, subtype, rfl, -⟩ := htype
  exact List.append_ne_nil_of_right_ne_nil type (List.cons_ne_nil '/' subtype)

theorem isTypeChar_iff {c : Char} :
    isTypeChar c = true ↔ c.isAlpha = true ∨ c = '/' ∨ c = '-' := by
  simp [isTypeChar, or_assoc]

/-! ### Splitting -/

/-- A media type of recognized characters is split off. -/
theorem splitType_of_recognized (hne : contentType ≠ [])
    (hrecognized : ∀ c ∈ contentType, isTypeChar c = true) (rest : Text) :
    splitType (contentType ++ ';' :: rest) = (some contentType, rest) := by
  have hmark : isTypeChar ';' = false := by decide
  obtain ⟨c, others, rfl⟩ := List.exists_cons_of_ne_nil hne
  rw [splitType, List.takeWhile_append_of_pos hrecognized,
    List.dropWhile_append_of_pos hrecognized, List.takeWhile_cons_of_neg (by simp [hmark]),
    List.dropWhile_cons_of_neg (by simp [hmark]), List.append_nil]
  rfl

/-- Any other stays where it is. -/
theorem splitType_of_unrecognized {c : Char} (hc : c ∈ contentType)
    (hunrecognized : isTypeChar c = false) (hsemicolon : ';' ∉ contentType) (rest : Text) :
    splitType (contentType ++ rest) = (none, contentType ++ rest) := by
  have hstop : contentType.dropWhile isTypeChar ≠ [] := by
    rw [ne_eq, List.dropWhile_eq_nil_iff]
    intro hall
    rw [hall c hc] at hunrecognized
    exact Bool.true_eq_false.mp hunrecognized
  obtain ⟨d, behind, hbehind⟩ := List.exists_cons_of_ne_nil hstop
  have hd : d ≠ ';' := by
    rintro rfl
    have hsuffix : ';' :: behind <:+ contentType := hbehind ▸ List.dropWhile_suffix isTypeChar
    exact hsemicolon (hsuffix.subset List.mem_cons_self)
  have hdrop : (contentType ++ rest).dropWhile isTypeChar = d :: (behind ++ rest) := by
    rw [List.dropWhile_append, hbehind]
    rfl
  rw [splitType, hdrop]
  split
  case h_1 => rfl
  case h_2 _ hsame _ => exact absurd (List.cons.inj hsame).1 hd
  case h_3 => rfl

theorem splitBase64_marked (rest : Text) :
    splitBase64 ("base64,".toList ++ rest) = (true, rest) := by
  rw [splitBase64, Text.after?_eq_some_iff.mpr rfl]

/-- The mark of base64 is not found behind a media type that stays. -/
theorem splitBase64_of_notMem (hcomma : ',' ∉ contentType) (rest : Text) :
    splitBase64 (contentType ++ ';' :: rest) = (false, contentType ++ ';' :: rest) := by
  have hnone : Text.after? "base64,".toList (contentType ++ ';' :: rest) = none := by
    rw [Option.eq_none_iff_forall_ne_some]
    intro after hafter
    rcases List.append_eq_append_iff.mp (Text.after?_eq_some_iff.mp hafter) with
      ⟨middle, htype, -⟩ | ⟨middle, hmark, hbehind⟩
    · apply hcomma
      rw [htype]
      exact List.mem_append_left _ (by decide)
    · cases middle with
      | nil =>
          rw [List.append_nil] at hmark
          apply hcomma
          rw [← hmark]
          decide
      | cons d middle =>
          obtain ⟨rfl, -⟩ := List.cons.inj hbehind
          have hsemicolon : ';' ∈ "base64,".toList := by
            rw [hmark]
            simp
          exact absurd hsemicolon (by decide)
  rw [splitBase64, hnone]

/-! ### Compiling -/

theorem compile_data (pattern : Pattern) (s : Text) :
    compile pattern ("data:".toList ++ s) = ofData s := by
  have hafter : Text.after? "data:".toList ("data:".toList ++ s) = some s :=
    Text.after?_eq_some_iff.mpr rfl
  have hlong : "data:".toList ++ s ≠ ['$'] := by simp
  have hsome : ("data:".toList ++ s).isEmpty = false := by simp
  rw [compile, if_neg hlong, hsome, if_neg Bool.false_ne_true, ofForm, hafter]

theorem compile_dataText (pattern : Pattern) (contentType : Text) (body : List UInt8) :
    compile pattern (dataText contentType body) = ofData (payloadText contentType body) :=
  compile_data pattern _

theorem takeWhile_line {s : Text} (hfeed : '\n' ∉ s) : s.takeWhile (fun c => c != '\n') = s := by
  rw [List.takeWhile_eq_self_iff]
  intro c hc
  simpa using fun hmark : c = '\n' => hfeed (hmark ▸ hc)

/-- The action has the media type and the bytes where all of the type is recognized. -/
theorem compile_dataText_of_recognized (hne : contentType ≠ [])
    (hrecognized : ∀ c ∈ contentType, isTypeChar c = true) (pattern : Pattern)
    (body : List UInt8) :
    compile pattern (dataText contentType body) =
      .data (Base64.encode body) contentType true := by
  rw [compile_dataText, ofData, payloadText, splitType_of_recognized hne hrecognized]
  dsimp only
  rw [splitBase64_marked]
  dsimp only
  rw [takeWhile_line (Base64.lineFeed_notMem_encode body), Option.getD_some]

/-- Otherwise the media type is template, and so is the mark of base64 behind it. -/
theorem compile_dataText_of_unrecognized (htype : IsMediaType contentType) {c : Char}
    (hc : c ∈ contentType) (hunrecognized : isTypeChar c = false) (pattern : Pattern)
    (body : List UInt8) :
    compile pattern (dataText contentType body) =
      .data (payloadText contentType body) defaultContentType false := by
  have hsemicolon : ';' ∉ contentType := htype.mark_notMem (by decide) (by decide)
  have hcomma : ',' ∉ contentType := htype.mark_notMem (by decide) (by decide)
  have hfeed : '\n' ∉ payloadText contentType body := by
    have htypeFeed : '\n' ∉ contentType := htype.mark_notMem (by decide) (by decide)
    simp [payloadText, htypeFeed, Base64.lineFeed_notMem_encode body]
  rw [compile_dataText, ofData, payloadText,
    splitType_of_unrecognized hc hunrecognized hsemicolon]
  dsimp only
  rw [splitBase64_of_notMem hcomma]
  dsimp only
  rw [← payloadText, takeWhile_line hfeed, Option.getD_none]

end MediaType

end Action

namespace Ruleset

section Data

variable {ruleset : Ruleset} {request : Request} {selected : Selected}

/-- A rule with a media type and bytes in base64, under any modifiers, answers with exactly those
where the media type is made of letters, slashes and hyphens.  With any other character in it
the whole payload is expanded as a template and sent as plain text. -/
theorem evaluate_data_base64 {contentType : Text} {body : List UInt8}
    (hselect : ruleset.select? request.url = some selected)
    (htype : Action.IsMediaType contentType)
    (haction : selected.entry.rule.action =
      .compile selected.entry.rule.pattern (Action.dataText contentType body))
    (executor : Executor) :
    let outcome := ruleset.evaluate executor request
    let found := ruleset.ready selected.entry request
    ((∀ c ∈ contentType, c.isAlpha = true ∨ c = '/' ∨ c = '-') →
      outcome = .quiet (.send body) (found.setContentType contentType)) ∧
    (∀ c ∈ contentType, ¬(c.isAlpha = true ∨ c = '/' ∨ c = '-') →
      outcome = .quiet
        (.send (Utf8.encode (found.expand selected.captures
          (Action.payloadText contentType body))))
        (found.setContentType "text/plain".toList)) ∧
    (outcome.result = .ok (.send body) ∧ outcome.request.contentType = some contentType ↔
      ∀ c ∈ contentType, c.isAlpha = true ∨ c = '/' ∨ c = '-') := by
  intro outcome found
  simp only [← Action.isTypeChar_iff]
  have houtcome : outcome = selected.entry.rule.action.perform executor
      selected.entry.rule.pattern selected.captures found := evaluate_of_some hselect executor
  have hrecognized : (∀ c ∈ contentType, Action.isTypeChar c = true) →
      outcome = .quiet (.send body) (found.setContentType contentType) := by
    intro hall
    rw [houtcome, haction, Action.compile_dataText_of_recognized htype.ne_nil hall]
    simp [Action.perform, Action.dataBody, Base64.decode_encode, Except.mapError]
  have hunrecognized : ∀ c ∈ contentType, ¬Action.isTypeChar c = true →
      outcome = .quiet
        (.send (Utf8.encode (found.expand selected.captures
          (Action.payloadText contentType body))))
        (found.setContentType "text/plain".toList) := by
    intro c hc hnot
    rw [houtcome, haction, Action.compile_dataText_of_unrecognized htype hc
      (Bool.eq_false_iff.mpr hnot)]
    rfl
  refine ⟨hrecognized, hunrecognized, ?_, fun hall => ?_⟩
  · rintro ⟨-, hcontentType⟩ c hc
    by_contra hnot
    rw [hunrecognized c hc hnot] at hcontentType
    have hplain : ∀ d ∈ "text/plain".toList, Action.isTypeChar d = true :=
      List.all_eq_true.mp (by decide)
    rw [Option.some.inj hcontentType] at hplain
    exact hnot (hplain c hc)
  · rw [hrecognized hall]
    exact ⟨rfl, rfl⟩

end Data

namespace PayloadWitness

/-- An icon behind modifiers, and a drawing whose media type has a plus in it. -/
def ruleset : Ruleset :=
  RulesFile.parse ("$StatusCode 404\na.test/ => data:image/x-icon;base64,AP8QCA==\n".toList ++
    "$SetQueryParam a=b\nb.test/ => data:image/svg+xml;base64,PHN2Zy8+".toList)

def request (url : String) : Request := { url := url.toList, headers := Headers.empty }

def executor : Executor := fun _ => .error "no".toList

def icon : Text := "image/x-icon".toList

def drawing : Text := "image/svg+xml".toList

theorem isMediaType_icon : Action.IsMediaType icon :=
  ⟨"image".toList, "x-icon".toList, rfl, by decide, by decide⟩

theorem isMediaType_drawing : Action.IsMediaType drawing :=
  ⟨"image".toList, "svg+xml".toList, rfl, by decide, by decide⟩

theorem select?_icon :
    ∃ selected, ruleset.select? (request "http://a.test/favicon").url = some selected ∧
      selected.entry.rule.action = .compile selected.entry.rule.pattern
        (Action.dataText icon [0x00, 0xFF, 0x10, 0x08]) := ⟨_, rfl, rfl⟩

theorem select?_drawing :
    ∃ selected, ruleset.select? (request "http://b.test/logo").url = some selected ∧
      selected.entry.rule.action = .compile selected.entry.rule.pattern
        (Action.dataText drawing (Utf8.encode "<svg/>".toList)) := ⟨_, rfl, rfl⟩

end PayloadWitness

open PayloadWitness in
theorem evaluate_data_base64_icon :
    ∃ selected, ruleset.select? (request "http://a.test/favicon").url = some selected ∧
      Action.IsMediaType icon ∧
      selected.entry.rule.action = .compile selected.entry.rule.pattern
        (Action.dataText icon [0x00, 0xFF, 0x10, 0x08]) ∧
      (ruleset.evaluate executor (request "http://a.test/favicon")).result =
        .ok (.send [0x00, 0xFF, 0x10, 0x08]) ∧
      (ruleset.evaluate executor (request "http://a.test/favicon")).request.contentType =
        some icon := by
  obtain ⟨selected, hselect, haction⟩ := select?_icon
  have hicon : ∀ c ∈ icon, c.isAlpha = true ∨ c = '/' ∨ c = '-' := by
    simp only [← Action.isTypeChar_iff]
    exact List.all_eq_true.mp (by decide)
  exact ⟨selected, hselect, isMediaType_icon, haction,
    (evaluate_data_base64 hselect isMediaType_icon haction executor).2.2.mpr hicon⟩

open PayloadWitness in
/-- The plus leaves the drawing in base64, as plain text and with its media type before it. -/
theorem evaluate_data_base64_unrecognized :
    ∃ selected, ruleset.select? (request "http://b.test/logo").url = some selected ∧
      Action.IsMediaType drawing ∧
      selected.entry.rule.action = .compile selected.entry.rule.pattern
        (Action.dataText drawing (Utf8.encode "<svg/>".toList)) ∧
      (ruleset.evaluate executor (request "http://b.test/logo")).result =
        .ok (.send (Utf8.encode "image/svg+xml;base64,PHN2Zy8+".toList)) ∧
      (ruleset.evaluate executor (request "http://b.test/logo")).result ≠
        .ok (.send (Utf8.encode "<svg/>".toList)) ∧
      (ruleset.evaluate executor (request "http://b.test/logo")).request.contentType =
        some "text/plain".toList := by
  obtain ⟨selected, hselect, haction⟩ := select?_drawing
  have houtcome := evaluate_of_some hselect executor
  rw [haction, Action.compile_dataText_of_unrecognized isMediaType_drawing (c := '+') (by decide)
    (by decide)] at houtcome
  have hexpand := (ruleset.ready selected.entry (request "http://b.test/logo")).expand_of_infix_none
    selected.captures (s := "image/svg+xml;base64,PHN2Zy8+".toList)
    fun _ hm => Template.not_isPlaceholder_of_infix (by decide) (by decide) hm
  have hresult : (ruleset.evaluate executor (request "http://b.test/logo")).result =
      .ok (.send (Utf8.encode "image/svg+xml;base64,PHN2Zy8+".toList)) := by
    rw [houtcome]
    exact congrArg (fun s => Except.ok (Disposition.send (Utf8.encode s))) hexpand
  refine ⟨selected, hselect, isMediaType_drawing, haction, hresult, ?_, ?_⟩
  · rw [hresult]
    decide
  · rw [houtcome]
    rfl

end Ruleset

end Reroute
