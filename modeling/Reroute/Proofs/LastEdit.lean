import Reroute.Gateway
import Reroute.Proofs.Header
import Reroute.Proofs.Legality

/-!
The last word on a response.  Edits of the response headers wait until there is a response and
are then carried out in order, behind the media type, so of all modifiers that edit one header
the last has its way.  The main statement says so of every response that a client gets for a
request with a rule, wherever the response comes from, and of its status as well.
-/
namespace Reroute

/-! ### Carrying edits out -/

namespace HeaderEdit

/-- An edit decides on the values of its name and on no others. -/
theorem values_apply (headers : Headers) (edit : HeaderEdit) (name : HeaderName) :
    (edit.apply headers).values name =
      if edit.name = name then edit.values else headers.values name := by
  cases edit with
  | set inserted value => exact headers.values_insert inserted name value
  | remove erased => exact headers.values_erase erased name

end HeaderEdit

namespace Response

@[simp] theorem headers_withStatus (response : Response) (code : Nat) :
    (response.withStatus code).headers = response.headers := by
  unfold withStatus
  split <;> rfl

theorem status_withStatus (response : Response) (code : Nat) :
    (response.withStatus code).status = if isStatus code then code else response.status := by
  unfold withStatus
  split <;> rfl

@[simp] theorem status_withContentType (response : Response) (contentType : Text) :
    (response.withContentType contentType).status = response.status := by
  unfold withContentType
  split <;> rfl

theorem headers_withContentType (response : Response) (contentType : Text) :
    (response.withContentType contentType).headers =
      (HeaderValue.ofText? contentType).elim response.headers
        (response.headers.insert .contentType) := by
  unfold withContentType
  cases HeaderValue.ofText? contentType <;> rfl

/-- A media type that is legal is the one value of its header, and one that is not changes
nothing. -/
theorem values_typed (response : Response) (contentType? : Option Text) (name : HeaderName) :
    (contentType?.elim response response.withContentType).headers.values name =
      if name = .contentType then
        (contentType?.bind HeaderValue.ofText?).elim (response.headers.values name) fun value =>
          [value]
      else response.headers.values name := by
  cases contentType? with
  | none => simp
  | some contentType =>
      rw [Option.elim_some, headers_withContentType, Option.bind_some]
      cases hvalue : HeaderValue.ofText? contentType with
      | none => simp
      | some value => simp [Headers.values_insert, eq_comm]

end Response

namespace Request

/-- The last of a row of modifiers that edits a header of the response, with its edit. -/
def LastEdit (request : Request) (modifiers : List Modifier) (name : HeaderName)
    (edit : HeaderEdit) : Prop :=
  edit.name = name ∧ ∃ place, request.EditsAt .response modifiers place edit ∧
    ∀ later other, place < later → request.EditsAt .response modifiers later other →
      other.name ≠ name

/-- What the decisions about a response make of it.  A header has the value that the last modifier
to edit it set, and none if that removed it.  Without such a modifier a media type that was decided
on is the one value of its header, and every other header has its own values in their order.  The
status is that of the last modifier to decide on one, if it may be sent, and otherwise its own. -/
structure Decided (request : Request) (modifiers : List Modifier) (contentType? : Option Text)
    (response sent : Response) : Prop where
  edited : ∀ name edit, request.LastEdit modifiers name edit →
    sent.headers.values name = edit.values
  unedited : ∀ name, (∀ edit, ¬request.LastEdit modifiers name edit) →
    sent.headers.values name =
      if name = .contentType then
        (contentType?.bind HeaderValue.ofText?).elim (response.headers.values name) fun value =>
          [value]
      else response.headers.values name
  status : sent.status =
    (modifiers.filterMap Modifier.status?).getLast?.elim response.status fun code =>
      if 100 ≤ code ∧ code ≤ 999 then code else response.status

section Run

variable {request : Request} {modifiers : List Modifier} {modifier : Modifier}
  {name : HeaderName} {edit : HeaderEdit}

/-- One more modifier that edits a header is the last to do so. -/
theorem lastEdit_concat_of_edits {newest : HeaderEdit} (hname : newest.name = name)
    (hnewest : modifier.edit? .response (request.modify modifiers) = some newest) :
    request.LastEdit (modifiers ++ [modifier]) name edit ↔ edit = newest := by
  have hplace : request.EditsAt .response (modifiers ++ [modifier]) modifiers.length newest :=
    editsAt_concat.mpr (Or.inr ⟨rfl, hnewest⟩)
  constructor
  · rintro ⟨-, place, hedit, hlater⟩
    rcases editsAt_concat.mp hedit with hbefore | ⟨-, hedit⟩
    · exact absurd hname (hlater _ newest hbefore.lt_length hplace)
    · exact Option.some.inj (hedit.symm.trans hnewest)
  · rintro rfl
    refine ⟨hname, _, hplace, fun later other hlt hother => ?_⟩
    have hwithin := hother.lt_length
    simp only [List.length_append, List.length_singleton] at hwithin
    omega

/-- If it does not edit the header, the last that does is among the others. -/
theorem lastEdit_concat_of_not
    (hother : ∀ newest, modifier.edit? .response (request.modify modifiers) = some newest →
      newest.name ≠ name) :
    request.LastEdit (modifiers ++ [modifier]) name edit ↔
      request.LastEdit modifiers name edit := by
  constructor
  · rintro ⟨hname, place, hedit, hlater⟩
    rcases editsAt_concat.mp hedit with hbefore | ⟨-, hedit⟩
    · exact ⟨hname, place, hbefore, fun later other hlt hedits =>
        hlater later other hlt (editsAt_concat.mpr (Or.inl hedits))⟩
    · exact absurd hname (hother edit hedit)
  · rintro ⟨hname, place, hedit, hlater⟩
    refine ⟨hname, place, editsAt_concat.mpr (Or.inl hedit), fun later other hlt hedits => ?_⟩
    rcases editsAt_concat.mp hedits with hbefore | ⟨-, hedits⟩
    · exact hlater later other hlt hbefore
    · exact hother other hedits

/-- The edits that modifiers leave waiting, carried out: a header has the values of its last
edit, and those it had where there is none. -/
theorem values_replayed (hnone : request.responseEdits = []) (headers : Headers)
    (modifiers : List Modifier) (name : HeaderName) :
    (∀ edit, request.LastEdit modifiers name edit →
      ((request.modify modifiers).responseEdits.foldl HeaderEdit.apply headers).values name =
        edit.values) ∧
    ((∀ edit, ¬request.LastEdit modifiers name edit) →
      ((request.modify modifiers).responseEdits.foldl HeaderEdit.apply headers).values name =
        headers.values name) := by
  induction modifiers using List.reverseRecOn with
  | nil =>
      refine ⟨?_, fun _ => by simp [modify, hnone]⟩
      rintro edit ⟨-, place, hplace, -⟩
      exact absurd hplace editsAt_nil
  | append_singleton modifiers modifier ih =>
      rw [modify_concat, Modifier.apply_responseEdits, List.foldl_append]
      by_cases hedits : ∃ newest,
          modifier.edit? .response (request.modify modifiers) = some newest ∧ newest.name = name
      · obtain ⟨newest, hnewest, hname⟩ := hedits
        simp only [lastEdit_concat_of_edits hname hnewest, hnewest, Option.toList_some,
          List.foldl_cons, List.foldl_nil, HeaderEdit.values_apply, if_pos hname]
        exact ⟨fun edit hedit => by rw [hedit], fun hnot => absurd rfl (hnot newest)⟩
      · have hother : ∀ newest,
            modifier.edit? .response (request.modify modifiers) = some newest →
              newest.name ≠ name :=
          fun newest hnewest hname => hedits ⟨newest, hnewest, hname⟩
        simp only [lastEdit_concat_of_not hother]
        cases hmodifier : modifier.edit? .response (request.modify modifiers) with
        | none => exact ih
        | some newest =>
            simpa only [Option.toList_some, List.foldl_cons, List.foldl_nil,
              HeaderEdit.values_apply, if_neg (hother newest hmodifier)] using ih

end Run

/-! ### Answering -/

theorem headers_respond (request : Request) (response : Response) :
    (request.respond response).headers =
      request.responseEdits.foldl HeaderEdit.apply
        (request.contentType.elim response response.withContentType).headers := by
  cases htype : request.contentType <;> cases hcode : request.status <;>
    simp [respond, htype, hcode, Response.withEdits]

theorem status_respond (request : Request) (response : Response) :
    (request.respond response).status =
      request.status.elim response.status fun code =>
        if Response.isStatus code then code else response.status := by
  cases htype : request.contentType <;> cases hcode : request.status <;>
    simp [respond, htype, hcode, Response.withEdits, Response.status_withStatus]

end Request

namespace Ruleset

/-- The decisions that an evaluation leaves are those of the modifiers and of the action. -/
theorem decided_respond {ruleset : Ruleset} {request : Request} {selected : Selected}
    (hnone : request.responseEdits = [])
    (htype : request.contentType = none) (hstatus : request.status = none)
    (hselect : ruleset.select? request.url = some selected) (executor : Executor)
    (response : Response) :
    request.Decided (ruleset.modifiersFor selected.entry) selected.entry.rule.action.contentType?
      response ((ruleset.evaluate executor request).request.respond response) := by
  obtain ⟨-, hedits, hcode, htyped⟩ := Ruleset.evaluate_request hselect executor
  rw [htype, Option.or_none] at htyped
  rw [Request.status_modify, hstatus, Option.or_none] at hcode
  have hvalues := fun name => request.values_replayed hnone
    (selected.entry.rule.action.contentType?.elim response response.withContentType).headers
    (ruleset.modifiersFor selected.entry) name
  constructor
  case edited =>
      intro name edit hlast
      rw [Request.headers_respond, htyped, hedits]
      exact (hvalues name).1 edit hlast
  case unedited =>
      intro name hnot
      rw [Request.headers_respond, htyped, hedits, ← response.values_typed]
      exact (hvalues name).2 hnot
  case status =>
      rw [Request.status_respond, hcode]
      simp [Response.isStatus]

end Ruleset

namespace Gateway

/-- The response before the decisions about it are carried out: the origin's, a body, a file,
or one about a failure.  There is none where the connection is closed. -/
def bareReply? (services : Services) (incoming : Incoming) (outcome : Action.Outcome) :
    Option Reply :=
  match settle services incoming outcome with
  | .ok reply => reply
  | .error error => some (.ofStatus 502 error.message)

/-- Whatever the response is, the decisions about it are carried out on it. -/
theorem handle_of_url {incoming : Incoming} {url : Text} (hurl : incoming.url = .ok url)
    (services : Services) (ruleset : Ruleset) (documentRoot : Option Text) :
    let outcome := ruleset.evaluate services.execute (incoming.request url documentRoot)
    handle services ruleset documentRoot incoming =
      (bareReply? services incoming outcome).elim .closed fun reply =>
        .response (reply.finishedBy outcome.request) outcome.request.delay? := by
  intro outcome
  unfold handle bareReply?
  rw [hurl]
  dsimp only
  rw [show ruleset.evaluate services.execute (incoming.request url documentRoot) = outcome from rfl]
  cases settle services incoming outcome with
  | error error => rfl
  | ok reply => cases reply <;> rfl

section LastWord

variable {ruleset : Ruleset} {incoming : Incoming} {url : Text} {selected : Ruleset.Selected}

/-- The response that a client gets to a request with a rule, wherever it comes from, is the bare
one with the decisions of the rule carried out on it: those of the modifiers of the file, then of
the section, then of the rule itself, and that of the action about the media type.  So it is for
every response that there may be, and its body is left as it is.  An action that decides on a
media type does send a body, and the media type of a rule in a file is always legal. -/
theorem handle_last_word (hurl : incoming.url = .ok url)
    (hselect : ruleset.select? url = some selected) (services : Services)
    (documentRoot : Option Text) :
    let request := incoming.request url documentRoot
    let rule := selected.entry.rule
    let modifiers := ruleset.modifiers ++
      (selected.entry.owner.map Section.modifiers).getD [] ++ rule.modifiers
    let outcome := ruleset.evaluate services.execute request
    (bareReply? services incoming outcome = none →
      handle services ruleset documentRoot incoming = .closed) ∧
    (∀ reply, bareReply? services incoming outcome = some reply →
      ∃ sent, handle services ruleset documentRoot incoming =
          .response sent outcome.request.delay? ∧
        sent.body = reply.body ∧
        request.Decided modifiers rule.action.contentType? reply.head sent.head) ∧
    (∀ reply : Reply,
      (reply.finishedBy outcome.request).body = reply.body ∧
        request.Decided modifiers rule.action.contentType? reply.head
          (reply.finishedBy outcome.request).head) ∧
    ∀ contentType, rule.action.contentType? = some contentType →
      (∃ body, outcome.result = .ok (.send body)) ∧
        ∀ text, ruleset = RulesFile.parse text →
          ∃ value, HeaderValue.ofText? contentType = some value := by
  intro request rule modifiers outcome
  have hselected : ruleset.select? request.url = some selected := hselect
  have horder : ruleset.modifiersFor selected.entry = modifiers :=
    (List.append_assoc _ _ _).symm
  have hhandle := handle_of_url hurl services ruleset documentRoot
  have hdecided : ∀ reply : Reply, request.Decided modifiers rule.action.contentType? reply.head
      (reply.finishedBy outcome.request).head := by
    intro reply
    rw [← horder]
    exact Ruleset.decided_respond rfl rfl rfl hselected services.execute reply.head
  refine ⟨?closed, ?answered, fun reply => ⟨rfl, hdecided reply⟩, ?data⟩
  case closed =>
      intro hnone
      rw [hhandle, hnone, Option.elim_none]
  case answered =>
      intro reply hreply
      refine ⟨reply.finishedBy outcome.request, ?_, rfl, hdecided reply⟩
      rw [hhandle, hreply, Option.elim_some]
  case data =>
      intro contentType hdata
      constructor
      · rw [show outcome = _ from Ruleset.evaluate_of_some hselected services.execute]
        exact Action.perform_result_of_contentType? hdata _ _ _ _
      · rintro text rfl
        obtain ⟨pattern, source, haction⟩ := RulesFile.action_of_select? hselect
        rw [show rule.action = _ from haction] at hdata
        exact Action.ofText?_of_compile hdata

end LastWord

namespace LastWordWitness

/-- A header that is set for all rules.  One rule, for data, removes it in another case of its
name; the other forwards the request. -/
def ruleset : Ruleset :=
  RulesFile.parse ("$SetResponseHeader X: 1\na/ => data:text/html;base64,Yg==\n".toList ++
    "$RemoveResponseHeader x\n$StatusCode 404\nb/ => $".toList)

def setting : Modifier := .setHeader .response "X".toList "1".toList

def removing : Modifier := .removeHeader .response "x".toList

def incoming (host : Text) : Incoming where
  method := "GET".toList
  target := { scheme := some .http, authority := host, target := "/".toList }
  headers := Headers.empty
  body := []

def name : HeaderName := ⟨"x".toList, by decide⟩

def vary : HeaderName := ⟨"vary".toList, by decide⟩

def one : HeaderValue := ⟨Utf8.encode "1".toList, by decide⟩

def html : HeaderValue := ⟨Utf8.encode "text/html".toList, by decide⟩

/-- What the origin answers: two headers that come twice. -/
def origin : Reply :=
  ⟨⟨200, ⟨[(vary, one), (name, html), (.contentType, html), (vary, html), (name, html)]⟩⟩, [0x21]⟩

def services : Services where
  execute := fun _ => .error []
  readFile := fun _ => none
  exchange := fun _ => .ok origin

/-- A request to a host, as the rules see it. -/
def request (host : Text) : Request :=
  (incoming host).request ("http://".toList ++ host ++ ['/']) none

/-- The request of the data, as it is left. -/
def answered : Request :=
  { request "a".toList with
    responseEdits := [.set name one, .remove name]
    status := some 404
    contentType := some "text/html".toList }

/-- The request that is forwarded, as it is left. -/
def forwarded : Request :=
  { request "b".toList with responseEdits := [.set name one] }

theorem select?_data :
    ∃ selected, ruleset.select? "http://a/".toList = some selected ∧
      ruleset.modifiers = [setting] ∧ selected.entry.owner = none ∧
      selected.entry.rule.modifiers = [removing, .setStatus 404] ∧
      selected.entry.rule.action = .data "Yg==".toList "text/html".toList true :=
  ⟨_, rfl, rfl, rfl, rfl, rfl⟩

theorem select?_forward :
    ∃ selected, ruleset.select? "http://b/".toList = some selected ∧
      ruleset.modifiers = [setting] ∧ selected.entry.owner = none ∧
      selected.entry.rule.modifiers = [] ∧ selected.entry.rule.action = .default :=
  ⟨_, rfl, rfl, rfl, rfl, rfl⟩

theorem expand_one (request : Request) : request.expand [] "1".toList = "1".toList := by
  simp [Request.expand, Template.pieces, Template.Piece.value]

theorem apply_setting (request : Request) :
    setting.apply request = request.editHeaders .response (.set name one) := by
  rw [setting, Modifier.apply, expand_one]
  rfl

theorem edit?_setting (request : Request) :
    setting.edit? .response request = some (.set name one) := by
  simp only [setting, Modifier.edit?, expand_one]
  rfl

/-- The modifiers that edit the response all edit one header. -/
theorem edit?_name {modifier : Modifier} {request : Request} {edit : HeaderEdit}
    (hmodifier : modifier ∈ [setting, removing, .setStatus 404])
    (hedit : modifier.edit? .response request = some edit) : edit.name = name := by
  simp only [List.mem_cons, List.not_mem_nil, or_false] at hmodifier
  rcases hmodifier with rfl | rfl | rfl
  · rw [← Option.some.inj ((edit?_setting request).symm.trans hedit)]
    rfl
  · rw [← Option.some.inj hedit]
    rfl
  · cases hedit

/-- So no other header has a last edit. -/
theorem not_lastEdit {modifiers : List Modifier}
    (hmodifiers : modifiers ⊆ [setting, removing, .setStatus 404]) {other : HeaderName}
    (hother : other ≠ name) (request : Request) (edit : HeaderEdit) :
    ¬request.LastEdit modifiers other edit := by
  rintro ⟨hname, place, ⟨modifier, hplace, hedit⟩, -⟩
  exact hother (hname.symm.trans
    (edit?_name (hmodifiers (List.mem_of_getElem? hplace)) hedit))

theorem lastEdit_data (request : Request) :
    request.LastEdit [setting, removing, .setStatus 404] name (.remove name) := by
  change request.LastEdit (([setting] ++ [removing]) ++ [.setStatus 404]) name (.remove name)
  rw [Request.lastEdit_concat_of_not fun _ hnewest => by cases hnewest]
  exact (Request.lastEdit_concat_of_edits rfl rfl).mpr rfl

theorem lastEdit_forward (request : Request) :
    request.LastEdit [setting] name (.set name one) := by
  change request.LastEdit ([] ++ [setting]) name (.set name one)
  exact (Request.lastEdit_concat_of_edits rfl (edit?_setting _)).mpr rfl

theorem evaluate_data :
    ruleset.evaluate services.execute (request "a".toList) = .quiet (.send [0x62]) answered := by
  obtain ⟨selected, hselect, hmodifiers, howner, hrule, haction⟩ := select?_data
  have hselect : ruleset.select? (request "a".toList).url = some selected := hselect
  rw [Ruleset.evaluate_of_some hselect, Ruleset.ready, hmodifiers, howner, hrule, haction]
  simp only [Request.modify, List.foldl_cons, List.foldl_nil, apply_setting]
  rfl

theorem evaluate_forward :
    ruleset.evaluate services.execute (request "b".toList) = .quiet .forward forwarded := by
  obtain ⟨selected, hselect, hmodifiers, howner, hrule, haction⟩ := select?_forward
  have hselect : ruleset.select? (request "b".toList).url = some selected := hselect
  rw [Ruleset.evaluate_of_some hselect, Ruleset.ready, hmodifiers, howner, hrule, haction]
  simp only [Request.modify, List.foldl_cons, List.foldl_nil, apply_setting]
  rfl

theorem bareReply?_forward :
    bareReply? services (incoming "b".toList) (.quiet .forward forwarded) = some origin := by
  decide

end LastWordWitness

open LastWordWitness in
/-- Of the data the header is gone that was removed last, the media type is its own, and the
status is the one decided on.  The response of an origin has the one value that was set for two of
its own, and keeps its media type, the values of the other header and its status. -/
theorem handle_last_word_answered :
    ((incoming "a".toList).url = .ok "http://a/".toList ∧
      (ruleset.select? "http://a/".toList).isSome ∧
      (incoming "b".toList).url = .ok "http://b/".toList ∧
      (ruleset.select? "http://b/".toList).isSome) ∧
    (∃ sent, handle services ruleset none (incoming "a".toList) = .response sent none ∧
      sent.body = [0x62] ∧ sent.head.headers.values name = [] ∧
      sent.head.headers.values .contentType = [html] ∧ sent.head.status = 404) ∧
    ∃ sent, handle services ruleset none (incoming "b".toList) = .response sent none ∧
      sent.body = origin.body ∧ sent.head.headers.values name = [one] ∧
      sent.head.headers.values .contentType = [html] ∧
      sent.head.headers.values vary = [one, html] ∧ sent.head.status = 200 := by
  obtain ⟨found, hfound, hmodifiers, hfoundOwner, hfoundModifiers, hfoundAction⟩ := select?_data
  obtain ⟨other, hother, -, hotherOwner, hotherModifiers, hotherAction⟩ := select?_forward
  have hurl : (incoming "a".toList).url = .ok "http://a/".toList := rfl
  have hotherUrl : (incoming "b".toList).url = .ok "http://b/".toList := rfl
  refine ⟨⟨hurl, Option.isSome_of_eq_some hfound, hotherUrl, Option.isSome_of_eq_some hother⟩,
    ?data, ?forward⟩
  case data =>
      obtain ⟨-, hanswered, -⟩ := handle_last_word hurl hfound services none
      have hevaluate : ruleset.evaluate services.execute
          ((incoming "a".toList).request "http://a/".toList none) = _ := evaluate_data
      rw [hmodifiers, hfoundOwner, hfoundModifiers, hfoundAction, hevaluate] at hanswered
      obtain ⟨sent, hhandle, hbody, hdecided⟩ := hanswered (.ofBody [0x62]) rfl
      refine ⟨sent, hhandle, hbody, hdecided.edited name _ (lastEdit_data _), ?_,
        hdecided.status⟩
      exact hdecided.unedited .contentType (not_lastEdit (List.Subset.refl _) (by decide) _)
  case forward =>
      obtain ⟨-, hanswered, -⟩ := handle_last_word hotherUrl hother services none
      have hevaluate : ruleset.evaluate services.execute
          ((incoming "b".toList).request "http://b/".toList none) = _ := evaluate_forward
      rw [hmodifiers, hotherOwner, hotherModifiers, hotherAction, hevaluate] at hanswered
      obtain ⟨sent, hhandle, hbody, hdecided⟩ := hanswered origin bareReply?_forward
      have hsetting : [setting] ⊆ [setting, removing, .setStatus 404] := by simp
      refine ⟨sent, hhandle, hbody, hdecided.edited name _ (lastEdit_forward _), ?_, ?_,
        hdecided.status⟩
      · exact hdecided.unedited .contentType (not_lastEdit hsetting (by decide) _)
      · exact hdecided.unedited vary (not_lastEdit hsetting (by decide) _)

end Gateway

end Reroute
