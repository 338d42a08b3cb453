import Mathlib.Data.List.Induction
import Reroute.Proofs.Evaluation

/-!
One engine under many hands.  Evaluations, publications and reloads take their steps in any
order.  The published object is told by the history of the publications alone, and what comes
of an evaluation by the object that was published when it began.
-/
namespace Reroute.Interleaving

/-! ### The system -/

/-- A reload that has read the file: what it read, and what came of it once it is over. -/
structure Reload where
  contents : Option (List UInt8)
  result : Option (Except RulesFile.LoadError Snapshot)

/-- An engine with the evaluations and reloads that have begun, in the order in which they
did. -/
structure System where
  engine : Engine
  evaluations : List Evaluation
  reloads : List Reload

/-- A step of somebody. -/
inductive Event where
  /-- An evaluation begins: it takes its snapshot. -/
  | begin (executor : Executor) (request : Request)
  /-- An evaluation takes one more step. -/
  | advance (evaluation : Nat)
  | publish (ruleset : Ruleset)
  /-- A reload begins: it reads the file, which there may not be. -/
  | read (contents : Option (List UInt8))
  /-- A reload ends: it parses what it read and publishes that, or fails. -/
  | conclude (reload : Nat)

namespace System

/-- An engine before anything has happened. -/
def start (initial : Ruleset) : System := ⟨Engine.start initial, [], []⟩

/-- End a reload that is under way. -/
def conclude (system : System) (index : Nat) (reload : Reload) : System :=
  match system.engine.reload reload.contents with
  | .ok engine =>
      { system with
        engine := engine
        reloads := system.reloads.set index { reload with result := some (.ok engine.current) } }
  | .error error =>
      { system with
        reloads := system.reloads.set index { reload with result := some (.error error) } }

/-- The step of an event, where there is one. -/
def step? (system : System) : Event → Option System
  | .begin executor request =>
      some { system with
        evaluations := system.evaluations ++
          [Evaluation.begin executor system.engine.current request] }
  | .advance index => do
      let next ← (← system.evaluations[index]?).advance?
      some { system with evaluations := system.evaluations.set index next }
  | .publish ruleset => some { system with engine := system.engine.publish ruleset }
  | .read contents => some { system with reloads := system.reloads ++ [⟨contents, none⟩] }
  | .conclude index => do
      let reload ← system.reloads[index]?
      if reload.result.isNone then some (system.conclude index reload) else none

/-- The steps of events, one after the other. -/
def run? (system : System) (events : List Event) : Option System :=
  events.foldlM step? system

theorem run?_cons (system : System) (event : Event) (rest : List Event) :
    system.run? (event :: rest) = (system.step? event).bind fun next => next.run? rest :=
  List.foldlM_cons

theorem run?_append (system : System) (first second : List Event) :
    system.run? (first ++ second) = (system.run? first).bind fun next => next.run? second :=
  List.foldlM_append

theorem run?_concat (system : System) (events : List Event) (event : Event) :
    system.run? (events ++ [event]) = (system.run? events).bind fun next => next.step? event := by
  rw [run?_append]
  congr 1
  funext next
  exact Option.bind_fun_some (next.step? event)

variable {system next : System} {index : Nat}

/-- What an evaluation's step is. -/
theorem step?_advance (hstep : system.step? (.advance index) = some next) :
    ∃ current advanced, system.evaluations[index]? = some current ∧
      current.advance? = some advanced ∧
      next = { system with evaluations := system.evaluations.set index advanced } := by
  obtain ⟨current, hcurrent, hstep⟩ := Option.bind_eq_some_iff.mp hstep
  obtain ⟨advanced, hadvance, hstep⟩ := Option.bind_eq_some_iff.mp hstep
  exact ⟨current, advanced, hcurrent, hadvance, (Option.some.inj hstep).symm⟩

/-- A reload ends once. -/
theorem step?_conclude (hstep : system.step? (.conclude index) = some next) :
    ∃ reload, system.reloads[index]? = some reload ∧ reload.result = none ∧
      next = system.conclude index reload := by
  obtain ⟨reload, hreload, hstep⟩ := Option.bind_eq_some_iff.mp hstep
  split at hstep
  case isTrue hnone =>
      exact ⟨reload, hreload, Option.isNone_iff_eq_none.mp hnone, (Option.some.inj hstep).symm⟩
  case isFalse => exact nomatch hstep

theorem conclude_of_ok {reload : Reload} {ruleset : Ruleset}
    (hload : RulesFile.load reload.contents = .ok ruleset) :
    system.conclude index reload =
      { system with
        engine := system.engine.publish ruleset
        reloads := system.reloads.set index
          { reload with result := some (.ok (system.engine.publish ruleset).current) } } := by
  simp [conclude, Engine.reload, hload, Except.map]

theorem conclude_of_error {reload : Reload} {error : RulesFile.LoadError}
    (hload : RulesFile.load reload.contents = .error error) :
    system.conclude index reload =
      { system with
        reloads := system.reloads.set index { reload with result := some (.error error) } } := by
  simp [conclude, Engine.reload, hload, Except.map]

end System

/-! ### The history of a run -/

/-- What an event reads of the file. -/
def Event.read? : Event → Option (Option (List UInt8))
  | .read contents => some contents
  | _ => none

/-- Whether an event begins an evaluation. -/
def Event.isBegin : Event → Bool
  | .begin _ _ => true
  | _ => false

/-- What an event publishes, after the given readings of the file. -/
def Event.published? (reads : List (Option (List UInt8))) : Event → Option Ruleset
  | .publish ruleset => some ruleset
  | .conclude index => (reads[index]?).bind fun contents => (RulesFile.load contents).toOption
  | _ => none

/-- What events read of the file, in order. -/
def readings (events : List Event) : List (Option (List UInt8)) :=
  events.filterMap Event.read?

/-- What events publish, in order, where those before them have read the given. -/
def publicationsFrom (reads : List (Option (List UInt8))) : List Event → List Ruleset
  | [] => []
  | event :: rest =>
      (event.published? reads).toList ++ publicationsFrom (reads ++ event.read?.toList) rest

/-- What a run from the beginning publishes, in order. -/
def publications (events : List Event) : List Ruleset :=
  publicationsFrom [] events

/-- The object that is published after events: the last publication, or the initial rule set
where there was none.  Its number is the number of the publications. -/
def publishedAfter (initial : Ruleset) (events : List Event) : Snapshot :=
  ⟨(publications events).length, (publications events).getLast?.getD initial⟩

theorem readings_concat (events : List Event) (event : Event) :
    readings (events ++ [event]) = readings events ++ event.read?.toList := by
  cases hread : event.read? <;> simp [readings, hread]

theorem publicationsFrom_append (reads : List (Option (List UInt8)))
    (first second : List Event) :
    publicationsFrom reads (first ++ second) =
      publicationsFrom reads first ++ publicationsFrom (reads ++ readings first) second := by
  induction first generalizing reads with
  | nil => simp [publicationsFrom, readings]
  | cons event rest ih =>
      cases hread : event.read? <;>
        simp [publicationsFrom, readings, hread, ih]

theorem published?_conclude {reads : List (Option (List UInt8))} {index : Nat}
    {contents : Option (List UInt8)} (hcontents : reads[index]? = some contents) :
    Event.published? reads (.conclude index) = (RulesFile.load contents).toOption := by
  simp [Event.published?, hcontents]

theorem publishedAfter_concat_of_none (initial : Ruleset) (events : List Event) {event : Event}
    (hpublished : event.published? (readings events) = none) :
    publishedAfter initial (events ++ [event]) = publishedAfter initial events := by
  simp [publishedAfter, publications, publicationsFrom_append, publicationsFrom, hpublished]

theorem publishedAfter_concat_of_some (initial : Ruleset) (events : List Event) {event : Event}
    {ruleset : Ruleset} (hpublished : event.published? (readings events) = some ruleset) :
    publishedAfter initial (events ++ [event]) =
      ⟨(publishedAfter initial events).number + 1, ruleset⟩ := by
  simp [publishedAfter, publications, publicationsFrom_append, publicationsFrom, hpublished]

namespace System

/-- A system agrees with the history of its run: it publishes the last publication, has a
reload for every reading, and an evaluation for every one that began. -/
structure Agrees (initial : Ruleset) (events : List Event) (system : System) : Prop where
  published : system.engine.current = publishedAfter initial events
  read : system.reloads.map Reload.contents = readings events
  begun : system.evaluations.length = events.countP Event.isBegin

theorem start_agrees (initial : Ruleset) : (start initial).Agrees initial [] :=
  ⟨rfl, rfl, rfl⟩

/-- A reload has what was read for it. -/
theorem Agrees.contents {initial : Ruleset} {events : List Event} {system : System}
    (hagrees : system.Agrees initial events) {index : Nat} {reload : Reload}
    (hreload : system.reloads[index]? = some reload) :
    (readings events)[index]? = some reload.contents := by
  rw [← hagrees.read, List.getElem?_map, hreload]
  rfl

theorem conclude_agrees {initial : Ruleset} {events : List Event} {system : System}
    (hagrees : system.Agrees initial events) {index : Nat} {reload : Reload}
    (hreload : system.reloads[index]? = some reload) :
    (system.conclude index reload).Agrees initial (events ++ [.conclude index]) := by
  have hcontents := hagrees.contents hreload
  have hpublished := published?_conclude hcontents
  have hread : ∀ result, (system.reloads.set index { reload with result := result }).map
      Reload.contents = readings (events ++ [.conclude index]) := by
    intro result
    obtain ⟨hindex, hget⟩ := List.getElem?_eq_some_iff.mp hcontents
    rw [List.map_set, hagrees.read, readings_concat, ← hget, List.set_getElem_self]
    simp [Event.read?]
  have hbegun : system.evaluations.length =
      (events ++ [Event.conclude index]).countP Event.isBegin := by
    simp [hagrees.begun, Event.isBegin]
  cases hload : RulesFile.load reload.contents with
  | error error =>
      rw [hload] at hpublished
      rw [conclude_of_error hload]
      refine ⟨?_, hread _, hbegun⟩
      rw [publishedAfter_concat_of_none initial events hpublished]
      exact hagrees.published
  | ok ruleset =>
      rw [hload] at hpublished
      rw [conclude_of_ok hload]
      refine ⟨?_, hread _, hbegun⟩
      rw [publishedAfter_concat_of_some initial events hpublished, ← hagrees.published]
      rfl

/-- A step agrees with the history that it makes longer. -/
theorem step?_agrees {initial : Ruleset} {events : List Event} {system next : System}
    (hagrees : system.Agrees initial events) {event : Event}
    (hstep : system.step? event = some next) : next.Agrees initial (events ++ [event]) := by
  obtain ⟨hpublished, hread, hbegun⟩ := hagrees
  cases event with
  | begin executor request =>
      obtain rfl := Option.some.inj hstep
      refine ⟨?_, by simp [readings_concat, hread, Event.read?], by simp [hbegun, Event.isBegin]⟩
      rw [publishedAfter_concat_of_none initial events rfl]
      exact hpublished
  | advance index =>
      obtain ⟨evaluation, advanced, -, -, rfl⟩ := step?_advance hstep
      refine ⟨?_, by simp [readings_concat, hread, Event.read?], by simp [hbegun, Event.isBegin]⟩
      rw [publishedAfter_concat_of_none initial events rfl]
      exact hpublished
  | publish ruleset =>
      obtain rfl := Option.some.inj hstep
      refine ⟨?_, by simp [readings_concat, hread, Event.read?], by simp [hbegun, Event.isBegin]⟩
      rw [publishedAfter_concat_of_some initial events rfl, ← hpublished]
      rfl
  | read contents =>
      obtain rfl := Option.some.inj hstep
      refine ⟨?_, by simp [readings_concat, hread, Event.read?], by simp [hbegun, Event.isBegin]⟩
      rw [publishedAfter_concat_of_none initial events rfl]
      exact hpublished
  | conclude index =>
      obtain ⟨reload, hreload, -, rfl⟩ := step?_conclude hstep
      exact conclude_agrees ⟨hpublished, hread, hbegun⟩ hreload

/-- Every run agrees with its history. -/
theorem run?_agrees {initial : Ruleset} {events : List Event} {system : System}
    (hrun : (start initial).run? events = some system) : system.Agrees initial events := by
  induction events using List.reverseRecOn generalizing system with
  | nil =>
      obtain rfl := Option.some.inj hrun
      exact start_agrees initial
  | append_singleton events event ih =>
      rw [run?_concat] at hrun
      obtain ⟨before, hbefore, hstep⟩ := Option.bind_eq_some_iff.mp hrun
      exact step?_agrees (ih hbefore) hstep

/-- A step of anybody keeps what is to come of an evaluation that has begun. -/
theorem step?_evaluation {system next : System} {event : Event}
    (hstep : system.step? event = some next) {index : Nat} {evaluation : Evaluation}
    (hevaluation : system.evaluations[index]? = some evaluation) :
    ∃ later, next.evaluations[index]? = some later ∧ evaluation.Keeps later := by
  have hindex : index < system.evaluations.length :=
    (List.getElem?_eq_some_iff.mp hevaluation).1
  have hsame : evaluation.Keeps evaluation := ⟨rfl, rfl⟩
  cases event with
  | begin executor request =>
      obtain rfl := Option.some.inj hstep
      exact ⟨evaluation, by simp [List.getElem?_append_left hindex, hevaluation], hsame⟩
  | advance other =>
      obtain ⟨current, advanced, hcurrent, hadvance, rfl⟩ := step?_advance hstep
      by_cases hother : other = index
      · subst hother
        obtain rfl : current = evaluation := Option.some.inj (hcurrent.symm.trans hevaluation)
        exact ⟨advanced, List.getElem?_set_self hindex, Evaluation.advance?_keeps hadvance⟩
      · exact ⟨evaluation, by rw [List.getElem?_set_ne hother, hevaluation], hsame⟩
  | publish ruleset =>
      obtain rfl := Option.some.inj hstep
      exact ⟨evaluation, hevaluation, hsame⟩
  | read contents =>
      obtain rfl := Option.some.inj hstep
      exact ⟨evaluation, hevaluation, hsame⟩
  | conclude other =>
      obtain ⟨reload, -, -, rfl⟩ := step?_conclude hstep
      refine ⟨evaluation, ?_, hsame⟩
      unfold conclude
      split <;> exact hevaluation

/-- So does every run. -/
theorem run?_evaluation {system last : System} {events : List Event}
    (hrun : system.run? events = some last) {index : Nat} {evaluation : Evaluation}
    (hevaluation : system.evaluations[index]? = some evaluation) :
    ∃ later, last.evaluations[index]? = some later ∧ evaluation.Keeps later := by
  induction events generalizing system evaluation with
  | nil =>
      obtain rfl := Option.some.inj hrun
      exact ⟨evaluation, hevaluation, rfl, rfl⟩
  | cons event rest ih =>
      rw [run?_cons] at hrun
      obtain ⟨next, hstep, hrest⟩ := Option.bind_eq_some_iff.mp hrun
      obtain ⟨middle, hmiddle, houtcome, hsnapshot⟩ := step?_evaluation hstep hevaluation
      obtain ⟨later, hlater, houtcome', hsnapshot'⟩ := ih hrest hmiddle
      exact ⟨later, hlater, houtcome'.trans houtcome, hsnapshot'.trans hsnapshot⟩

/-- Steps of its own bring an evaluation to its end, whatever the others have done. -/
theorem exists_run?_finished {system : System} {index : Nat} {evaluation : Evaluation}
    (hevaluation : system.evaluations[index]? = some evaluation) :
    ∃ count last later, system.run? (List.replicate count (.advance index)) = some last ∧
      last.evaluations[index]? = some later ∧ later.stage = .finished evaluation.outcome := by
  induction hleft : evaluation.stepsLeft using Nat.strongRecOn
    generalizing system evaluation with
  | ind left ih =>
      cases hadvance : evaluation.advance? with
      | none =>
          exact ⟨0, system, evaluation, rfl, hevaluation,
            Evaluation.finished_of_advance?_none hadvance⟩
      | some next =>
          have hshorter : next.stepsLeft < left := hleft ▸ Evaluation.advance?_stepsLeft hadvance
          let after : System :=
            { system with evaluations := system.evaluations.set index next }
          have hstep : system.step? (.advance index) = some after := by
            simp [step?, hevaluation, hadvance, after]
          have hafter : after.evaluations[index]? = some next :=
            List.getElem?_set_self (List.getElem?_eq_some_iff.mp hevaluation).1
          obtain ⟨count, last, later, hrun, hlater, hfinished⟩ :=
            ih next.stepsLeft hshorter hafter rfl
          refine ⟨count + 1, last, later, ?_, hlater, ?_⟩
          · rw [List.replicate_succ, run?_cons, hstep]
            exact hrun
          · rw [hfinished, (Evaluation.advance?_keeps hadvance).1]

/-- What a reload came to stays what it is. -/
theorem step?_reload {system next : System} {event : Event}
    (hstep : system.step? event = some next) {index : Nat} {reload : Reload}
    (hreload : system.reloads[index]? = some reload) (hresult : reload.result.isSome) :
    next.reloads[index]? = some reload := by
  have hindex : index < system.reloads.length := (List.getElem?_eq_some_iff.mp hreload).1
  cases event with
  | begin executor request => exact (Option.some.inj hstep) ▸ hreload
  | advance other =>
      obtain ⟨current, advanced, -, -, rfl⟩ := step?_advance hstep
      exact hreload
  | publish ruleset => exact (Option.some.inj hstep) ▸ hreload
  | read contents =>
      obtain rfl := Option.some.inj hstep
      rw [List.getElem?_append_left hindex, hreload]
  | conclude other =>
      obtain ⟨current, hcurrent, hnone, rfl⟩ := step?_conclude hstep
      have hother : other ≠ index := by
        rintro rfl
        obtain rfl : current = reload := Option.some.inj (hcurrent.symm.trans hreload)
        simp [hnone] at hresult
      unfold conclude
      split <;> simp [List.getElem?_set_ne hother, hreload]

theorem run?_reload {system last : System} {events : List Event}
    (hrun : system.run? events = some last) {index : Nat} {reload : Reload}
    (hreload : system.reloads[index]? = some reload) (hresult : reload.result.isSome) :
    last.reloads[index]? = some reload := by
  induction events generalizing system with
  | nil => exact (Option.some.inj hrun) ▸ hreload
  | cons event rest ih =>
      rw [run?_cons] at hrun
      obtain ⟨next, hstep, hrest⟩ := Option.bind_eq_some_iff.mp hrun
      exact ih hrest (step?_reload hstep hreload hresult)

/-- Every moment of a run agrees with the history up to it. -/
theorem run?_split {initial : Ruleset} {before after : List Event} {system : System}
    (hrun : (start initial).run? (before ++ after) = some system) :
    ∃ earlier, (start initial).run? before = some earlier ∧ earlier.run? after = some system ∧
      earlier.Agrees initial before := by
  rw [run?_append] at hrun
  obtain ⟨earlier, hbefore, hafter⟩ := Option.bind_eq_some_iff.mp hrun
  exact ⟨earlier, hbefore, hafter, run?_agrees hbefore⟩

/-- An evaluation of a run, wherever it began: what is to come of it is what the rule set
published at its beginning makes of the request. -/
theorem run?_begin {initial : Ruleset} {before after : List Event} {executor : Executor}
    {request : Request} {system : System}
    (hrun : (start initial).run? (before ++ .begin executor request :: after) = some system) :
    ∃ evaluation, system.evaluations[before.countP Event.isBegin]? = some evaluation ∧
      evaluation.snapshot = publishedAfter initial before ∧
      evaluation.outcome =
        (publishedAfter initial before).ruleset.evaluate executor request := by
  obtain ⟨earlier, -, hafter, hagrees⟩ := run?_split hrun
  rw [run?_cons] at hafter
  obtain ⟨next, hstep, hrest⟩ := Option.bind_eq_some_iff.mp hafter
  obtain rfl := Option.some.inj hstep
  have hbegun : (earlier.evaluations ++
      [Evaluation.begin executor earlier.engine.current request])[before.countP
        Event.isBegin]? = some (Evaluation.begin executor earlier.engine.current request) := by
    rw [← hagrees.begun]
    exact List.getElem?_concat_length
  obtain ⟨evaluation, hevaluation, houtcome, hsnapshot⟩ := run?_evaluation hrest hbegun
  refine ⟨evaluation, hevaluation, ?_, ?_⟩
  · rw [hsnapshot, ← hagrees.published]
    rfl
  · rw [houtcome, ← hagrees.published]
    rfl

/-- A reload of a run that has ended: it published what it read, or it changed nothing. -/
theorem run?_conclude {initial : Ruleset} {before after : List Event} {index : Nat}
    {system : System}
    (hrun : (start initial).run? (before ++ .conclude index :: after) = some system) :
    ∃ contents, (readings before)[index]? = some contents ∧
      match RulesFile.load contents with
      | .ok ruleset =>
          publishedAfter initial (before ++ [.conclude index]) =
              ⟨(publishedAfter initial before).number + 1, ruleset⟩ ∧
            system.reloads[index]? =
              some ⟨contents, some (.ok (publishedAfter initial (before ++ [.conclude index])))⟩
      | .error error =>
          publishedAfter initial (before ++ [.conclude index]) = publishedAfter initial before ∧
            system.reloads[index]? = some ⟨contents, some (.error error)⟩ := by
  obtain ⟨earlier, -, hafter, hagrees⟩ := run?_split hrun
  rw [run?_cons] at hafter
  obtain ⟨next, hstep, hrest⟩ := Option.bind_eq_some_iff.mp hafter
  have hagrees' := step?_agrees hagrees hstep
  obtain ⟨reload, hreload, -, rfl⟩ := step?_conclude hstep
  have hindex := (List.getElem?_eq_some_iff.mp hreload).1
  have hcontents := hagrees.contents hreload
  have hpublished := published?_conclude hcontents
  refine ⟨reload.contents, hcontents, ?_⟩
  cases hload : RulesFile.load reload.contents with
  | error error =>
      rw [hload] at hpublished
      refine ⟨publishedAfter_concat_of_none initial before hpublished, ?_⟩
      apply run?_reload hrest _ rfl
      simp [conclude_of_error hload, hindex]
  | ok ruleset =>
      rw [hload] at hpublished
      refine ⟨publishedAfter_concat_of_some initial before hpublished, ?_⟩
      apply run?_reload hrest _ rfl
      rw [← hagrees'.published]
      simp [conclude_of_ok hload, hindex]

end System

/-- Evaluations, publications and reloads do not mix, whatever the order of their steps.  At
every moment the last publication is what is published.  An evaluation ends as if it had been
alone with the rule set that was published when it began, and its own steps bring it there.  A
reload publishes what the text it read parses to, or fails and leaves the published object. -/
theorem run?_isolated {initial : Ruleset} {events : List Event} {system : System}
    (hrun : (System.start initial).run? events = some system) :
    (∀ before after, events = before ++ after →
      ∃ earlier, (System.start initial).run? before = some earlier ∧
        earlier.run? after = some system ∧
        earlier.engine.current = publishedAfter initial before) ∧
    (∀ before executor request after, events = before ++ .begin executor request :: after →
      ∃ evaluation, system.evaluations[before.countP Event.isBegin]? = some evaluation ∧
        evaluation.snapshot = publishedAfter initial before ∧
        (∀ outcome, evaluation.stage = .finished outcome →
          outcome = (publishedAfter initial before).ruleset.evaluate executor request) ∧
        ∃ count last later,
          system.run? (List.replicate count (.advance (before.countP Event.isBegin))) =
              some last ∧
            last.evaluations[before.countP Event.isBegin]? = some later ∧
            later.stage = .finished
              ((publishedAfter initial before).ruleset.evaluate executor request)) ∧
    ∀ before index after, events = before ++ .conclude index :: after →
      ∃ contents, (readings before)[index]? = some contents ∧
        (∀ text, contents.bind Utf8.decode? = some text →
          publishedAfter initial (before ++ [.conclude index]) =
              ⟨(publishedAfter initial before).number + 1, RulesFile.parse text⟩ ∧
            system.reloads[index]? =
              some ⟨contents,
                some (.ok (publishedAfter initial (before ++ [.conclude index])))⟩) ∧
        (contents.bind Utf8.decode? = none →
          publishedAfter initial (before ++ [.conclude index]) =
              publishedAfter initial before ∧
            ∃ error, system.reloads[index]? = some ⟨contents, some (.error error)⟩) := by
  refine ⟨?_, ?_, ?_⟩
  · rintro before after rfl
    obtain ⟨earlier, hbefore, hafter, hagrees⟩ := System.run?_split hrun
    exact ⟨earlier, hbefore, hafter, hagrees.published⟩
  · rintro before executor request after rfl
    obtain ⟨evaluation, hevaluation, hsnapshot, houtcome⟩ := System.run?_begin hrun
    refine ⟨evaluation, hevaluation, hsnapshot, ?_, ?_⟩
    · intro outcome hfinished
      rw [← houtcome]
      simp [Evaluation.outcome, hfinished]
    · rw [← houtcome]
      exact System.exists_run?_finished hevaluation
  · rintro before index after rfl
    obtain ⟨contents, hcontents, hconclude⟩ := System.run?_conclude hrun
    refine ⟨contents, hcontents, ?_, ?_⟩
    · intro text htext
      simpa only [RulesFile.load_of_decode?_some htext] using hconclude
    · intro htext
      obtain ⟨error, herror⟩ := RulesFile.load_of_decode?_none htext
      simp only [herror] at hconclude
      exact ⟨hconclude.1, error, hconclude.2⟩

namespace IsolationWitness

/-- A rule set that runs a command for every URL of a host. -/
def commanding : Ruleset :=
  ⟨[.setStatus 404], [⟨.startsWith "http://a/".toList, .run "date".toList, []⟩], []⟩

def request : Request := { url := "http://a/b".toList, headers := Headers.empty }

/-- The executor fails. -/
def executor : Executor := fun _ => .error "no".toList

/-- While the command runs, a missing file is reloaded, and nothing at all is published. -/
def events : List Event :=
  [.begin executor request, .advance 0, .publish Ruleset.empty, .advance 0, .advance 0,
    .read none, .conclude 0, .advance 0]

end IsolationWitness

open IsolationWitness in
/-- The evaluation ends with the failure of its own command, though another rule set has been
published under it. -/
theorem run?_isolated_commanding :
    ∃ system evaluation outcome,
      (System.start commanding).run? events = some system ∧
        system.engine.current = ⟨1, Ruleset.empty⟩ ∧
        system.evaluations[0]? = some evaluation ∧ evaluation.stage = .finished outcome ∧
        outcome = commanding.evaluate executor request ∧
        outcome.result = .error "no".toList ∧ outcome.request.status = some 404 := by
  obtain ⟨-, hevaluations, -⟩ := run?_isolated (show
    (System.start commanding).run? events = some _ from rfl)
  obtain ⟨evaluation, hevaluation, -, houtcome, -⟩ := hevaluations [] executor request _ rfl
  obtain rfl := Option.some.inj hevaluation
  exact ⟨_, _, _, rfl, rfl, rfl, rfl, houtcome _ rfl, rfl, rfl⟩

end Reroute.Interleaving
