import Reroute.Proofs.Base64
import Reroute.RulesFile

/-!
How an evaluation fails.  Every action but `bin:` ends well whatever the request is, data in
base64 included, and `bin:` fails only as its executor does.  The main statement says it of
every rules file, with the request that a failure leaves and the commands that were run.
-/
namespace Reroute

namespace Action

/-- The command that an action hands to the executor. -/
def command? (captures : Captures) (request : Request) : Action → Option Text
  | .run template => some (request.expand captures template)
  | _ => none

/-- No payload fails to make a body. -/
theorem dataBody_isOk (captures : Captures) (request : Request) (template : Text)
    (base64 : Bool) : ∃ body, dataBody captures request template base64 = .ok body := by
  cases base64 with
  | false => exact ⟨_, rfl⟩
  | true =>
      obtain ⟨bytes, hbytes⟩ := Base64.decode_isOk template
      exact ⟨bytes, by simp [dataBody, hbytes, Except.mapError]⟩

section Perform

variable (pattern : Pattern) (captures : Captures) (request : Request) (action : Action)

/-- All that an action can do: run a command and pass its answer on with the request as it
is, or end well without asking the executor. -/
theorem perform_cases :
    (∃ template, action = .run template ∧
      ∀ executor, action.perform executor pattern captures request =
        ⟨(executor (request.expand captures template)).map fun output => .send output.body,
          request, [request.expand captures template]⟩) ∨
    action.command? captures request = none ∧
      ∃ disposition left, ∀ executor,
        action.perform executor pattern captures request = .quiet disposition left := by
  cases action with
  | run template => exact Or.inl ⟨template, rfl, fun _ => rfl⟩
  | data template contentType base64 =>
      obtain ⟨body, hbody⟩ := dataBody_isOk captures request template base64
      exact Or.inr ⟨rfl, .send body, request.setContentType contentType,
        fun _ => by simp [perform, hbody]⟩
  | default => exact Or.inr ⟨rfl, _, _, fun _ => rfl⟩
  | abort => exact Or.inr ⟨rfl, _, _, fun _ => rfl⟩
  | file template => exact Or.inr ⟨rfl, _, _, fun _ => rfl⟩
  | forwardVia hop => exact Or.inr ⟨rfl, _, _, fun _ => rfl⟩
  | eval template => exact Or.inr ⟨rfl, _, _, fun _ => rfl⟩
  | redirect url => exact Or.inr ⟨rfl, _, _, fun _ => rfl⟩

variable {pattern captures request action} {executor : Executor}

/-- An action fails exactly where it runs a command that fails, and as that does. -/
theorem perform_result_eq_error_iff {error : Text} :
    (action.perform executor pattern captures request).result = .error error ↔
      ∃ template, action = .run template ∧
        executor (request.expand captures template) = .error error := by
  rcases perform_cases pattern captures request action with
    ⟨template, rfl, hrun⟩ | ⟨hnone, disposition, left, hquiet⟩
  · rw [hrun]
    cases hanswer : executor (request.expand captures template) <;>
      simp [hanswer, Except.map]
  · rw [hquiet]
    constructor
    · intro herror
      exact nomatch herror
    · rintro ⟨template, rfl, -⟩
      exact nomatch hnone

/-- A failure leaves the request as the action found it. -/
theorem perform_request_of_error {error : Text}
    (herror : (action.perform executor pattern captures request).result = .error error) :
    (action.perform executor pattern captures request).request = request := by
  obtain ⟨template, rfl, -⟩ := perform_result_eq_error_iff.mp herror
  rfl

theorem perform_commands :
    (action.perform executor pattern captures request).commands =
      (action.command? captures request).toList := by
  rcases perform_cases pattern captures request action with
    ⟨template, rfl, hrun⟩ | ⟨hnone, disposition, left, hquiet⟩
  · rw [hrun]
    rfl
  · rw [hquiet, hnone]
    rfl

/-- Nothing is asked of the executor but the commands of the outcome. -/
theorem perform_congr {other : Executor}
    (hagree : ∀ command ∈ (action.perform executor pattern captures request).commands,
      other command = executor command) :
    action.perform other pattern captures request =
      action.perform executor pattern captures request := by
  rcases perform_cases pattern captures request action with
    ⟨template, rfl, hrun⟩ | ⟨-, disposition, left, hquiet⟩
  · rw [hrun] at hagree
    rw [hrun, hrun, hagree _ List.mem_cons_self]
  · rw [hquiet, hquiet]

end Perform

end Action

namespace Ruleset

/-- The request as the action of a rule finds it: the modifiers of the file have run, then
those of the section, then the rule's own. -/
def ready (ruleset : Ruleset) (entry : Entry) (request : Request) : Request :=
  ((request.modify ruleset.modifiers).modify
    ((entry.owner.map Section.modifiers).getD [])).modify entry.rule.modifiers

variable {ruleset : Ruleset} {request : Request}

theorem evaluate_of_none (hselect : ruleset.select? request.url = none) (executor : Executor) :
    ruleset.evaluate executor request = .quiet .forward request := by
  simp [evaluate, hselect]

theorem evaluate_of_some {selected : Selected}
    (hselect : ruleset.select? request.url = some selected) (executor : Executor) :
    ruleset.evaluate executor request =
      selected.entry.rule.action.perform executor selected.entry.rule.pattern
        selected.captures (ruleset.ready selected.entry request) := by
  have hready : request.modify (ruleset.modifiersFor selected.entry) =
      ruleset.ready selected.entry request := by
    simp [Request.modify, modifiersFor, ready]
  simp [evaluate, hselect, hready]

end Ruleset

namespace RulesFile

/-- Of all that can go wrong in an evaluation, only the executor's failure is left.  It fails
exactly as the command of a selected `bin:` rule fails, and leaves the request that the
modifiers made.  Only such a rule asks the executor anything, and only once; an `eval:` rule
writes its command down; and without a rule the request goes on as it came. -/
theorem evaluate_fails_by_executor (text : Text) (executor : Executor) (request : Request) :
    (∀ error, ((parse text).evaluate executor request).result = .error error ↔
      ∃ selected template, (parse text).select? request.url = some selected ∧
        selected.entry.rule.action = .run template ∧
        executor (((parse text).ready selected.entry request).expand selected.captures
          template) = .error error) ∧
    (∀ selected, (parse text).select? request.url = some selected →
      (∀ error, ((parse text).evaluate executor request).result = .error error →
        ((parse text).evaluate executor request).request =
          (parse text).ready selected.entry request) ∧
      ((parse text).evaluate executor request).commands =
        (selected.entry.rule.action.command? selected.captures
          ((parse text).ready selected.entry request)).toList ∧
      ∀ template, selected.entry.rule.action = .eval template →
        (parse text).evaluate executor request =
          .quiet .forward (((parse text).ready selected.entry request).setEvalCommand
            (((parse text).ready selected.entry request).expand selected.captures
              template))) ∧
    (∀ other : Executor,
      (∀ command ∈ ((parse text).evaluate executor request).commands,
        other command = executor command) →
      (parse text).evaluate other request = (parse text).evaluate executor request) ∧
    ((parse text).select? request.url = none →
      (parse text).evaluate executor request = .quiet .forward request) := by
  cases hselect : (parse text).select? request.url with
  | none =>
      have houtcome := fun executor => Ruleset.evaluate_of_none hselect executor
      refine ⟨?_, nofun, ?_, fun _ => houtcome executor⟩
      · intro error
        rw [houtcome]
        constructor
        · intro herror
          exact nomatch herror
        · rintro ⟨selected, template, hsome, -⟩
          exact nomatch hsome
      · intro other _
        rw [houtcome, houtcome]
  | some selected =>
      have houtcome := fun executor => Ruleset.evaluate_of_some hselect executor
      refine ⟨?_, ?_, ?_, nofun⟩
      · intro error
        rw [houtcome, Action.perform_result_eq_error_iff]
        constructor
        · rintro ⟨template, haction, hanswer⟩
          exact ⟨selected, template, rfl, haction, hanswer⟩
        · rintro ⟨_, template, hsome, haction, hanswer⟩
          obtain rfl := Option.some.inj hsome
          exact ⟨template, haction, hanswer⟩
      · rintro _ hsome
        obtain rfl := Option.some.inj hsome
        rw [houtcome]
        refine ⟨fun error => Action.perform_request_of_error, Action.perform_commands, ?_⟩
        intro template haction
        rw [haction]
        rfl
      · intro other hagree
        rw [houtcome] at hagree
        rw [houtcome, houtcome]
        exact Action.perform_congr hagree

namespace FailureWitness

/-- A command under modifiers of the file, of the section and of its own, and one that is only
written down. -/
def text : Text :=
  "$StatusCode 503\n[s]\n$Delay 5\na.test => bin:date\n$SetDocumentRoot /srv\n".toList ++
    "b.test => eval:date".toList

def request (url : String) : Request := { url := url.toList, headers := Headers.empty }

def executor : Executor := fun _ => .error "no".toList

/-- An executor that fails on one command only. -/
def failing (bad : Text) : Executor := fun command =>
  if command = bad then .error "no".toList else .ok ⟨[], []⟩

theorem expand_date (request : Request) :
    request.expand [] "date".toList = "date".toList := by
  simp [Request.expand, Template.pieces, Template.Piece.value]

end FailureWitness

open FailureWitness in
/-- The command fails, and the request is left with what the modifiers made of it; another is
only written down, and a URL without a rule goes on. -/
theorem evaluate_fails_by_executor_command :
    (∃ selected, (parse text).select? (request "http://a.test/x").url = some selected ∧
      ((parse text).evaluate executor (request "http://a.test/x")).result =
        .error "no".toList ∧
      ((parse text).evaluate executor (request "http://a.test/x")).request =
        (parse text).ready selected.entry (request "http://a.test/x") ∧
      ((parse text).evaluate executor (request "http://a.test/x")).commands =
        ["date".toList] ∧
      ((parse text).ready selected.entry (request "http://a.test/x")).status = some 503) ∧
    (parse text).evaluate (failing "date".toList) (request "http://a.test/x") =
      (parse text).evaluate executor (request "http://a.test/x") ∧
    ((parse text).evaluate executor (request "http://b.test/")).request.evalCommand =
      some "date".toList ∧
    (parse text).evaluate executor (request "http://c.test/") =
      .quiet .forward (request "http://c.test/") := by
  obtain ⟨hfails, hselected, hasked, -⟩ :=
    evaluate_fails_by_executor text executor (request "http://a.test/x")
  obtain ⟨-, hrecorded, -, -⟩ :=
    evaluate_fails_by_executor text executor (request "http://b.test/")
  obtain ⟨-, -, -, hnone⟩ :=
    evaluate_fails_by_executor text executor (request "http://c.test/")
  have hresult : ((parse text).evaluate executor (request "http://a.test/x")).result =
      .error "no".toList := (hfails _).mpr ⟨_, _, rfl, rfl, rfl⟩
  obtain ⟨hleft, hcommands, -⟩ := hselected _ rfl
  have hdate : ((parse text).evaluate executor (request "http://a.test/x")).commands =
      ["date".toList] := by
    rw [hcommands]
    exact congrArg (fun command => [command]) (expand_date _)
  refine ⟨⟨_, rfl, hresult, hleft _ hresult, hdate, rfl⟩, ?_, ?_, hnone rfl⟩
  · apply hasked
    intro command hcommand
    rw [hdate, List.mem_singleton] at hcommand
    simp [failing, executor, hcommand]
  · rw [(hrecorded _ rfl).2.2 _ rfl]
    exact congrArg some (expand_date _)

end RulesFile

end Reroute
