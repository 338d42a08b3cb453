import Reroute.Engine

/-!
An evaluation in steps.  It begins with a snapshot and then works on what it owns, so the
outcome that is still to come of it is settled from the beginning: no step changes it.
-/
namespace Reroute.Interleaving

/-- How far an evaluation has come. -/
inductive Stage where
  /-- It has its snapshot and looks for a rule. -/
  | selecting
  /-- It has a rule and some modifiers left to apply. -/
  | modifying (selected : Ruleset.Selected) (remaining : List Modifier)
  /-- It is suspended until the executor answers. -/
  | waiting (command : Text)
  | finished (outcome : Action.Outcome)

/-- An evaluation under way: the executor as it will answer here, the snapshot, and the
request as it has become. -/
structure Evaluation where
  executor : Executor
  snapshot : Snapshot
  request : Request
  stage : Stage

namespace Evaluation

/-- An evaluation begins by taking a snapshot. -/
def begin (executor : Executor) (snapshot : Snapshot) (request : Request) : Evaluation :=
  ⟨executor, snapshot, request, .selecting⟩

/-- Look for the rule of the request. -/
def select (evaluation : Evaluation) : Evaluation :=
  match evaluation.snapshot.ruleset.select? evaluation.request.url with
  | none => { evaluation with stage := .finished (.quiet .forward evaluation.request) }
  | some selected =>
      { evaluation with
        stage := .modifying selected
          (evaluation.snapshot.ruleset.modifiersFor selected.entry) }

/-- Run the action.  A command is handed to the executor, and its answer is waited for. -/
def act (evaluation : Evaluation) (selected : Ruleset.Selected) : Evaluation :=
  match selected.entry.rule.action with
  | .run command =>
      { evaluation with
        stage := .waiting (evaluation.request.expand selected.captures command) }
  | action =>
      { evaluation with
        stage := .finished (action.perform evaluation.executor selected.entry.rule.pattern
          selected.captures evaluation.request) }

/-- Take up the answer of the executor to a command. -/
def resume (evaluation : Evaluation) (command : Text) : Evaluation :=
  { evaluation with
    stage := .finished
      ⟨(evaluation.executor command).map fun output => .send output.body,
        evaluation.request, [command]⟩ }

/-- One step, if the evaluation is not finished. -/
def advance? (evaluation : Evaluation) : Option Evaluation :=
  match evaluation.stage with
  | .selecting => some evaluation.select
  | .modifying selected (modifier :: remaining) =>
      some { evaluation with
        request := modifier.apply evaluation.request
        stage := .modifying selected remaining }
  | .modifying selected [] => some (evaluation.act selected)
  | .waiting command => some (evaluation.resume command)
  | .finished _ => none

/-- The outcome that is still to come, if nobody but the evaluation itself touches what it
works on. -/
def outcome (evaluation : Evaluation) : Action.Outcome :=
  match evaluation.stage with
  | .selecting =>
      evaluation.snapshot.ruleset.evaluate evaluation.executor evaluation.request
  | .modifying selected remaining =>
      selected.entry.rule.action.perform evaluation.executor selected.entry.rule.pattern
        selected.captures (evaluation.request.modify remaining)
  | .waiting command =>
      ⟨(evaluation.executor command).map fun output => .send output.body,
        evaluation.request, [command]⟩
  | .finished outcome => outcome

/-- What a step leaves alone: the outcome that is still to come, and the snapshot. -/
def Keeps (evaluation next : Evaluation) : Prop :=
  next.outcome = evaluation.outcome ∧ next.snapshot = evaluation.snapshot

theorem select_keeps (evaluation : Evaluation) (hstage : evaluation.stage = .selecting) :
    evaluation.Keeps evaluation.select := by
  cases hselect : evaluation.snapshot.ruleset.select? evaluation.request.url <;>
    simp [Keeps, select, outcome, hstage, Ruleset.evaluate, hselect]

theorem act_keeps (evaluation : Evaluation) (selected : Ruleset.Selected)
    (hstage : evaluation.stage = .modifying selected []) :
    evaluation.Keeps (evaluation.act selected) := by
  cases haction : selected.entry.rule.action <;>
    simp [Keeps, act, outcome, hstage, haction, Request.modify, Action.perform]

theorem advance?_keeps {evaluation next : Evaluation}
    (hadvance : evaluation.advance? = some next) : evaluation.Keeps next := by
  unfold advance? at hadvance
  split at hadvance
  case h_1 hstage =>
      obtain rfl := Option.some.inj hadvance
      exact evaluation.select_keeps hstage
  case h_2 selected modifier remaining hstage =>
      obtain rfl := Option.some.inj hadvance
      simp [Keeps, outcome, hstage, Request.modify]
  case h_3 selected hstage =>
      obtain rfl := Option.some.inj hadvance
      exact evaluation.act_keeps selected hstage
  case h_4 command hstage =>
      obtain rfl := Option.some.inj hadvance
      simp [Keeps, resume, outcome, hstage]
  case h_5 => exact absurd hadvance (by simp)

/-- A bound on the steps that are left. -/
def stepsLeft (evaluation : Evaluation) : Nat :=
  match evaluation.stage with
  | .selecting =>
      ((evaluation.snapshot.ruleset.select? evaluation.request.url).elim 0 fun selected =>
        (evaluation.snapshot.ruleset.modifiersFor selected.entry).length) + 3
  | .modifying _ remaining => remaining.length + 2
  | .waiting _ => 1
  | .finished _ => 0

theorem advance?_stepsLeft {evaluation next : Evaluation}
    (hadvance : evaluation.advance? = some next) : next.stepsLeft < evaluation.stepsLeft := by
  unfold advance? at hadvance
  split at hadvance
  case h_1 hstage =>
      obtain rfl := Option.some.inj hadvance
      cases hselect : evaluation.snapshot.ruleset.select? evaluation.request.url <;>
        simp [select, stepsLeft, hstage, hselect]
  case h_2 selected modifier remaining hstage =>
      obtain rfl := Option.some.inj hadvance
      simp [stepsLeft, hstage]
  case h_3 selected hstage =>
      obtain rfl := Option.some.inj hadvance
      cases haction : selected.entry.rule.action <;>
        simp [act, stepsLeft, hstage, haction]
  case h_4 command hstage =>
      obtain rfl := Option.some.inj hadvance
      simp [resume, stepsLeft, hstage]
  case h_5 => exact absurd hadvance (by simp)

/-- Only a finished evaluation takes no step, and it has come to its outcome. -/
theorem finished_of_advance?_none {evaluation : Evaluation}
    (hadvance : evaluation.advance? = none) :
    evaluation.stage = .finished evaluation.outcome := by
  unfold advance? at hadvance
  split at hadvance
  case h_5 outcome hstage => simp [Evaluation.outcome, hstage]
  all_goals exact absurd hadvance (by simp)

end Evaluation

end Reroute.Interleaving
