import Mathlib.Data.List.Induction
import Reroute.Proofs.Failure
import Reroute.Proofs.Query

/-!
What a rule leaves of a request.  A modifier changes few parts of it, so what holds of every
part is said once for one modifier and then for all that run: which edits of headers were
asked for, what was stored, which status was decided on, and what no modifier touches at all.
The action comes last and decides on the rest.
-/
namespace Reroute

namespace HeaderEdit

/-- The edit that sets a name to a value, where both are legal. -/
def setting? (name value : Text) : Option HeaderEdit :=
  match HeaderName.ofText? name, HeaderValue.ofText? value with
  | some name, some value => some (.set name value)
  | _, _ => none

/-- The edit that removes a name, where it is legal. -/
def removing? (name : Text) : Option HeaderEdit :=
  (HeaderName.ofText? name).map .remove

/-- The values that an edit leaves its name with. -/
def values : HeaderEdit → List HeaderValue
  | .set _ value => [value]
  | .remove _ => []

end HeaderEdit

theorem Store.get?_set (store : Store) (key value other : Text) :
    (store.set key value).get? other = if other = key then some value else store.get? other := by
  unfold Store.get? Store.set
  rw [Text.lookup_cons, Text.lookup_without]
  split <;> rfl

namespace Request

theorem setHeader_eq (request : Request) (scope : HeaderScope) (name value : Text) :
    request.setHeader scope name value =
      (HeaderEdit.setting? name value).elim request (request.editHeaders scope) := by
  unfold setHeader HeaderEdit.setting?
  cases HeaderName.ofText? name <;> cases HeaderValue.ofText? value <;> rfl

theorem removeHeader_eq (request : Request) (scope : HeaderScope) (name : Text) :
    request.removeHeader scope name =
      (HeaderEdit.removing? name).elim request (request.editHeaders scope) := by
  unfold removeHeader HeaderEdit.removing?
  cases HeaderName.ofText? name <;> rfl

theorem modify_concat (request : Request) (modifiers : List Modifier) (modifier : Modifier) :
    request.modify (modifiers ++ [modifier]) = modifier.apply (request.modify modifiers) := by
  simp [modify]

/-! ### What modifiers leave alone -/

/-- What no modifier touches: the URL before its query, and what only actions decide. -/
structure Untouched (request later : Request) : Prop where
  base : Url.base later.url = Url.base request.url
  nextHop : later.nextHop = request.nextHop
  evalCommand : later.evalCommand = request.evalCommand
  contentType : later.contentType = request.contentType

theorem Untouched.refl (request : Request) : request.Untouched request :=
  ⟨rfl, rfl, rfl, rfl⟩

theorem Untouched.trans {first second third : Request} (hfirst : first.Untouched second)
    (hsecond : second.Untouched third) : first.Untouched third where
  base := hsecond.base.trans hfirst.base
  nextHop := hsecond.nextHop.trans hfirst.nextHop
  evalCommand := hsecond.evalCommand.trans hfirst.evalCommand
  contentType := hsecond.contentType.trans hfirst.contentType

/-- Edits of headers touch nothing else. -/
theorem untouched_elim_editHeaders (request : Request) (scope : HeaderScope)
    (edit? : Option HeaderEdit) :
    request.Untouched (edit?.elim request (request.editHeaders scope)) := by
  cases edit? with
  | none => exact .refl request
  | some edit => cases scope <;> exact ⟨rfl, rfl, rfl, rfl⟩

end Request

namespace Modifier

theorem apply_untouched (request : Request) (modifier : Modifier) :
    request.Untouched (modifier.apply request) := by
  cases modifier with
  | setHeader scope name value =>
      rw [apply, request.setHeader_eq]
      exact request.untouched_elim_editHeaders scope _
  | removeHeader scope name =>
      rw [apply, request.removeHeader_eq]
      exact request.untouched_elim_editHeaders scope _
  | setParam name value => exact ⟨Url.base_withPairs _ _, rfl, rfl, rfl⟩
  | removeParam name => exact ⟨Url.base_withPairs _ _, rfl, rfl, rfl⟩
  | _ => exact ⟨rfl, rfl, rfl, rfl⟩

/-! ### The edits that modifiers ask for -/

/-- The edit of the headers of one side that a modifier makes of a request as it finds it. -/
def edit? (scope : HeaderScope) (request : Request) : Modifier → Option HeaderEdit
  | .setHeader place name value =>
      if place = scope then HeaderEdit.setting? name (request.expand [] value) else none
  | .removeHeader place name => if place = scope then HeaderEdit.removing? name else none
  | _ => none

/-- The status that a modifier decides on. -/
def status? : Modifier → Option Nat
  | .setStatus code => some code
  | _ => none

/-- Edits of the response wait behind those that wait already. -/
theorem apply_responseEdits (request : Request) (modifier : Modifier) :
    (modifier.apply request).responseEdits =
      request.responseEdits ++ (modifier.edit? .response request).toList := by
  cases modifier with
  | setHeader scope name value =>
      rw [apply, request.setHeader_eq, edit?]
      cases scope <;> cases HeaderEdit.setting? name (request.expand [] value) <;>
        simp [Request.editHeaders]
  | removeHeader scope name =>
      rw [apply, request.removeHeader_eq, edit?]
      cases scope <;> cases HeaderEdit.removing? name <;> simp [Request.editHeaders]
  | _ => exact (List.append_nil _).symm

/-- The headers of the request are edited at once.  Besides, only cookies are written. -/
theorem apply_headers (request : Request) (modifier : Modifier) :
    (modifier.apply request).headers =
        (modifier.edit? .request request).elim request.headers
          (HeaderEdit.apply request.headers) ∨
      ∃ cookies, (modifier.apply request).headers = Cookie.write request.headers cookies := by
  cases modifier with
  | setHeader scope name value =>
      left
      rw [apply, request.setHeader_eq, edit?]
      cases scope <;> cases HeaderEdit.setting? name (request.expand [] value) <;>
        simp [Request.editHeaders]
  | removeHeader scope name =>
      left
      rw [apply, request.removeHeader_eq, edit?]
      cases scope <;> cases HeaderEdit.removing? name <;> simp [Request.editHeaders]
  | setCookie name value => exact Or.inr ⟨_, rfl⟩
  | removeCookie name => exact Or.inr ⟨_, rfl⟩
  | _ => exact Or.inl rfl

/-- What a modifier stores of a request as it finds it: a key with its value. -/
def stored? (request : Request) : Modifier → Option (Text × Text)
  | .setDelay millis => some (Request.delayKey, Numeral.render millis)
  | .setDocumentRoot root => some (Request.documentRootKey, request.expand [] root)
  | _ => none

theorem apply_store (request : Request) (modifier : Modifier) :
    (modifier.apply request).store =
      (modifier.stored? request).elim request.store fun entry =>
        request.store.set entry.1 entry.2 := by
  cases modifier with
  | setHeader scope name value =>
      rw [apply, request.setHeader_eq]
      cases scope <;> cases HeaderEdit.setting? name (request.expand [] value) <;> rfl
  | removeHeader scope name =>
      rw [apply, request.removeHeader_eq]
      cases scope <;> cases HeaderEdit.removing? name <;> rfl
  | _ => rfl

theorem apply_status (request : Request) (modifier : Modifier) :
    (modifier.apply request).status = modifier.status?.or request.status := by
  cases modifier with
  | setHeader scope name value =>
      rw [apply, request.setHeader_eq]
      cases scope <;> cases HeaderEdit.setting? name (request.expand [] value) <;> rfl
  | removeHeader scope name =>
      rw [apply, request.removeHeader_eq]
      cases scope <;> cases HeaderEdit.removing? name <;> rfl
  | _ => rfl

end Modifier

namespace Request

/-- At a place of a row of modifiers stands one that edits the headers of one side, when it
finds the request as those before it leave it. -/
def EditsAt (request : Request) (scope : HeaderScope) (modifiers : List Modifier)
    (place : Nat) (edit : HeaderEdit) : Prop :=
  ∃ modifier, modifiers[place]? = some modifier ∧
    modifier.edit? scope (request.modify (modifiers.take place)) = some edit

section Run

variable {request : Request} {scope : HeaderScope} {modifiers : List Modifier}
  {modifier : Modifier} {place : Nat} {edit : HeaderEdit}

theorem editsAt_nil : ¬request.EditsAt scope [] place edit := by
  simp [EditsAt]

theorem EditsAt.lt_length (hedits : request.EditsAt scope modifiers place edit) :
    place < modifiers.length := by
  obtain ⟨modifier, hplace, -⟩ := hedits
  exact (List.getElem?_eq_some_iff.mp hplace).1

/-- One more modifier at the end makes its edit on what all others leave. -/
theorem editsAt_concat :
    request.EditsAt scope (modifiers ++ [modifier]) place edit ↔
      request.EditsAt scope modifiers place edit ∨
        place = modifiers.length ∧
          modifier.edit? scope (request.modify modifiers) = some edit := by
  rcases Nat.lt_trichotomy place modifiers.length with hbefore | rfl | hbehind
  · have hne : place ≠ modifiers.length := Nat.ne_of_lt hbefore
    simp [EditsAt, List.getElem?_append_left hbefore,
      List.take_append_of_le_length (Nat.le_of_lt hbefore), hne]
  · simp [EditsAt]
  · have hne : place ≠ modifiers.length := Nat.ne_of_gt hbehind
    have hnone : (modifiers ++ [modifier])[place]? = none :=
      List.getElem?_eq_none (by simpa using Nat.succ_le_of_lt hbehind)
    have hnone' : modifiers[place]? = none :=
      List.getElem?_eq_none (Nat.le_of_lt hbehind)
    simp [EditsAt, hnone, hnone', hne]

theorem modify_untouched (request : Request) (modifiers : List Modifier) :
    request.Untouched (request.modify modifiers) := by
  induction modifiers using List.reverseRecOn with
  | nil => exact .refl request
  | append_singleton modifiers modifier ih =>
      rw [modify_concat]
      exact ih.trans (modifier.apply_untouched _)

/-- The edits of the response that wait are those that waited and those that modifiers
made. -/
theorem mem_responseEdits_modify :
    edit ∈ (request.modify modifiers).responseEdits ↔
      edit ∈ request.responseEdits ∨
        ∃ place, request.EditsAt .response modifiers place edit := by
  induction modifiers using List.reverseRecOn with
  | nil => simp [modify, editsAt_nil]
  | append_singleton modifiers modifier ih =>
      simp [modify_concat, Modifier.apply_responseEdits, ih, editsAt_concat, exists_or,
        or_assoc]

/-- Of what each modifier decides, if it does, the last decision has its way. -/
theorem modify_last {α : Type} (read? : Request → Option α) {decides? : Modifier → Option α}
    (hstep : ∀ request modifier,
      read? (modifier.apply request) = (decides? modifier).or (read? request))
    (request : Request) (modifiers : List Modifier) :
    read? (request.modify modifiers) =
      ((modifiers.filterMap decides?).getLast?).or (read? request) := by
  induction modifiers using List.reverseRecOn with
  | nil => rfl
  | append_singleton modifiers modifier ih =>
      rw [modify_concat, hstep, ih, List.filterMap_append]
      cases hdecides : decides? modifier <;> simp [hdecides]

theorem status_modify (request : Request) (modifiers : List Modifier) :
    (request.modify modifiers).status =
      ((modifiers.filterMap Modifier.status?).getLast?).or request.status :=
  modify_last Request.status Modifier.apply_status request modifiers

end Run

end Request

namespace Action

/-- The media type that an action decides on. -/
def contentType? : Action → Option Text
  | .data _ contentType _ => some contentType
  | _ => none

/-- An action leaves the headers and what was decided about them alone, and decides on the
media type only where it is one of data. -/
theorem perform_request (executor : Executor) (pattern : Pattern) (captures : Captures)
    (request : Request) (action : Action) :
    (action.perform executor pattern captures request).request.headers = request.headers ∧
      (action.perform executor pattern captures request).request.responseEdits =
        request.responseEdits ∧
      (action.perform executor pattern captures request).request.status = request.status ∧
      (action.perform executor pattern captures request).request.contentType =
        action.contentType?.or request.contentType := by
  cases action with
  | data template contentType base64 =>
      obtain ⟨body, hbody⟩ := dataBody_isOk captures request template base64
      simp [perform, hbody, Outcome.quiet, Request.setContentType, contentType?]
  | _ => exact ⟨rfl, rfl, rfl, rfl⟩

/-- An action that decides on a media type has a body of that type. -/
theorem perform_result_of_contentType? {action : Action} {contentType : Text}
    (htype : action.contentType? = some contentType) (executor : Executor) (pattern : Pattern)
    (captures : Captures) (request : Request) :
    ∃ body, (action.perform executor pattern captures request).result = .ok (.send body) := by
  cases action with
  | data template contentType base64 =>
      obtain ⟨body, hbody⟩ := dataBody_isOk captures request template base64
      exact ⟨body, by simp [perform, hbody, Outcome.quiet]⟩
  | _ => simp [contentType?] at htype

end Action

namespace Ruleset

theorem ready_eq (ruleset : Ruleset) (entry : Entry) (request : Request) :
    ruleset.ready entry request = request.modify (ruleset.modifiersFor entry) := by
  simp [ready, Request.modify, modifiersFor]

/-- What an evaluation leaves of a request that has a rule: the headers, the edits and the
status are as the modifiers made them, and the media type is the action's. -/
theorem evaluate_request {ruleset : Ruleset} {request : Request} {selected : Selected}
    (hselect : ruleset.select? request.url = some selected) (executor : Executor) :
    let left := (ruleset.evaluate executor request).request
    let found := request.modify (ruleset.modifiersFor selected.entry)
    left.headers = found.headers ∧ left.responseEdits = found.responseEdits ∧
      left.status = found.status ∧
      left.contentType = selected.entry.rule.action.contentType?.or request.contentType := by
  intro left found
  have hleft : left = (selected.entry.rule.action.perform executor selected.entry.rule.pattern
      selected.captures found).request := by
    rw [show left = _ from congrArg Action.Outcome.request (evaluate_of_some hselect executor),
      ready_eq]
  obtain ⟨hheaders, hedits, hstatus, htype⟩ := Action.perform_request executor
    selected.entry.rule.pattern selected.captures found selected.entry.rule.action
  rw [(request.modify_untouched _).contentType] at htype
  rw [hleft]
  exact ⟨hheaders, hedits, hstatus, htype⟩

end Ruleset

end Reroute
