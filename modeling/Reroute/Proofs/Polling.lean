import Reroute.Proofs.Watching

/-!
A watcher that checks its rules file from time to time.  Between two checks the file may be
written with any bytes or be removed, and nobody else publishes.  The main statement: what was
written since the watcher began is what is published after a check, if it can be read, and of
the checks between two writes at most one publishes.
-/
namespace Reroute

namespace Watcher

/-- A check finds that the time has not moved, or publishes what it loads, or fails to load
anything.  In each case it remembers the time that it found. -/
theorem check_cases (watcher : Watcher) (engine : Engine) (file : Option RulesFileState) :
    (modifiedOf file = watcher.lastModified ∧
        watcher.check engine file = ⟨start file, engine, .ok false⟩) ∨
      (modifiedOf file ≠ watcher.lastModified ∧ ∃ ruleset,
        RulesFile.load (file.map RulesFileState.contents) = .ok ruleset ∧
          watcher.check engine file = ⟨start file, engine.publish ruleset, .ok true⟩) ∨
      (modifiedOf file ≠ watcher.lastModified ∧ ∃ error,
        RulesFile.load (file.map RulesFileState.contents) = .error error ∧
          watcher.check engine file = ⟨start file, engine, .error error⟩) := by
  by_cases hsame : modifiedOf file = watcher.lastModified
  · exact Or.inl ⟨hsame, check_of_unmoved (by simp [observe, hsame])⟩
  · have hmoved : (watcher.observe file).2 = true := by simpa [observe] using hsame
    have hcheck : watcher.check engine file = _ := check_of_moved hmoved
    cases hload : RulesFile.load (file.map RulesFileState.contents) with
    | ok ruleset =>
        refine Or.inr (Or.inl ⟨hsame, ruleset, rfl, ?_⟩)
        simp [hcheck, Engine.reload, hload, Except.map, observe, start]
    | error error =>
        refine Or.inr (Or.inr ⟨hsame, error, rfl, ?_⟩)
        simp [hcheck, Engine.reload, hload, Except.map, observe, start]

end Watcher

namespace Polling

/-- What happens to a rules file. -/
inductive Event where
  | write (contents : List UInt8) (modified : Nat)
  | remove
  | check
deriving DecidableEq

/-- Whether the file is written in a run. -/
def Writes (events : List Event) : Prop :=
  ∃ contents modified, Event.write contents modified ∈ events

/-- A rules file with the watcher that checks it and the engine that it is loaded into. -/
structure Site where
  file : Option RulesFileState
  watcher : Watcher
  engine : Engine
  /-- The modification times that have been used. -/
  times : List Nat

namespace Site

/-- A watcher begins to watch a file, if there is one. -/
def start (file : Option RulesFileState) (engine : Engine) : Site where
  file := file
  watcher := Watcher.start file
  engine := engine
  times := (Watcher.modifiedOf file).toList

/-- The text of the file: none where there is no file or no text in it. -/
def text? (site : Site) : Option Text :=
  (site.file.map RulesFileState.contents).bind Utf8.decode?

/-- What a check comes to. -/
def checked (site : Site) : Watcher.Checked :=
  site.watcher.check site.engine site.file

/-- The step of an event, where there is one.  A write stores any bytes, under a modification
time that is new. -/
def step? (site : Site) : Event → Option Site
  | .write contents modified =>
      if modified ∈ site.times then none
      else some { site with
        file := some ⟨contents, modified⟩
        times := modified :: site.times }
  | .remove => some { site with file := none }
  | .check => some { site with
      watcher := site.checked.watcher
      engine := site.checked.engine }

/-- The steps of events, one after the other. -/
def run? (site : Site) (events : List Event) : Option Site :=
  events.foldlM step? site

/-- What the checks of a run return, one after the other. -/
def results (site : Site) : List Event → List (Except RulesFile.LoadError Bool)
  | [] => []
  | event :: rest =>
      match site.step? event with
      | none => []
      | some next =>
          if event = .check then site.checked.result :: next.results rest
          else next.results rest

/-- Whether the result of a check tells of a publication. -/
def tells : Except RulesFile.LoadError Bool → Bool
  | .ok moved => moved
  | .error _ => false

variable {site next : Site} {events : List Event} {event : Event}

/-! ### What is published -/

/-- The invariant of a site, where the file may have been written since the watcher began. -/
structure Sound (written : Prop) (site : Site) : Prop where
  used : ∀ file, site.file = some file → file.modified ∈ site.times
  remembered : ∀ modified, site.watcher.lastModified = some modified → modified ∈ site.times
  published : written → site.file ≠ none →
    Watcher.modifiedOf site.file = site.watcher.lastModified →
      ∀ text, site.text? = some text → site.engine.current.ruleset = RulesFile.parse text

theorem start_sound (file : Option RulesFileState) (engine : Engine) :
    (start file engine).Sound False where
  used := by
    rintro found rfl
    simp [start, Watcher.modifiedOf]
  remembered := by
    intro modified hmodified
    exact Option.mem_toList.mpr hmodified
  published := False.elim

variable {written : Prop}

/-- The watcher cannot have seen the time of a write yet. -/
theorem write_sound (hsound : site.Sound written) (contents : List UInt8) {modified : Nat}
    (hfresh : modified ∉ site.times) :
    Sound True { site with
      file := some ⟨contents, modified⟩
      times := modified :: site.times } where
  used := by
    rintro file ⟨⟩
    exact List.mem_cons_self
  remembered := fun time htime => List.mem_cons_of_mem modified (hsound.remembered time htime)
  published := by
    intro _ _ hremembered
    exact absurd (hsound.remembered modified hremembered.symm) hfresh

/-- A check that finds the time unmoved leaves what is published, and one that finds it moved
publishes the text that is there. -/
theorem checked_published (hsound : site.Sound written) (hwritten : written) {text : Text}
    (htext : site.text? = some text) :
    site.checked.engine.current.ruleset = RulesFile.parse text := by
  have hload := RulesFile.load_of_decode?_some htext
  rcases site.watcher.check_cases site.engine site.file with
    ⟨hsame, hcheck⟩ | ⟨-, ruleset, hruleset, hcheck⟩ | ⟨-, error, herror, -⟩
  · have hfile : site.file ≠ none := by
      intro hnone
      simp [text?, hnone] at htext
    rw [checked, hcheck]
    exact hsound.published hwritten hfile hsame text htext
  · rw [hload] at hruleset
    rw [checked, hcheck, Except.ok.inj hruleset]
    rfl
  · exact nomatch hload.symm.trans herror

/-- Where there is no text, the published object stays. -/
theorem engine_checked_of_none (htext : site.text? = none) :
    site.checked.engine = site.engine := by
  obtain ⟨error, herror⟩ := RulesFile.load_of_decode?_none htext
  rcases site.watcher.check_cases site.engine site.file with
    ⟨-, hcheck⟩ | ⟨-, ruleset, hload, -⟩ | ⟨-, error, -, hcheck⟩
  · rw [checked, hcheck]
  · exact nomatch hload.symm.trans herror
  · rw [checked, hcheck]

theorem lastModified_checked (site : Site) :
    site.checked.watcher.lastModified = Watcher.modifiedOf site.file := by
  rcases site.watcher.check_cases site.engine site.file with
    ⟨-, hcheck⟩ | ⟨-, ruleset, -, hcheck⟩ | ⟨-, error, -, hcheck⟩ <;>
  · rw [checked, hcheck]
    rfl

theorem check_sound (hsound : site.Sound written) :
    Sound written { site with
      watcher := site.checked.watcher
      engine := site.checked.engine } where
  used := hsound.used
  remembered := by
    intro modified hmodified
    rw [lastModified_checked] at hmodified
    obtain ⟨file, hfile, rfl⟩ := Option.map_eq_some_iff.mp hmodified
    exact hsound.used file hfile
  published := fun hwritten _ _ _ htext => checked_published hsound hwritten htext

/-- Every step keeps the invariant. -/
theorem step?_sound (hsound : site.Sound written) (hstep : site.step? event = some next) :
    next.Sound (written ∨ Writes [event]) := by
  cases event with
  | write contents modified =>
      simp only [step?, Option.ite_none_left_eq_some] at hstep
      obtain ⟨hfresh, hstep⟩ := hstep
      have hwrites : (written ∨ Writes [.write contents modified]) = True :=
        eq_true (Or.inr ⟨contents, modified, List.mem_cons_self⟩)
      rw [hwrites, ← Option.some.inj hstep]
      exact write_sound hsound contents hfresh
  | remove =>
      obtain rfl := Option.some.inj hstep
      exact { hsound with used := nofun, published := fun _ hfile => absurd rfl hfile }
  | check =>
      obtain rfl := Option.some.inj hstep
      have hwrites : (written ∨ Writes [.check]) = written := by simp [Writes]
      rw [hwrites]
      exact check_sound hsound

theorem writes_cons : Writes (event :: events) ↔ Writes [event] ∨ Writes events := by
  simp [Writes, List.mem_cons, exists_or]

/-- So does every run. -/
theorem run?_sound (hsound : site.Sound written) (hrun : site.run? events = some next) :
    next.Sound (written ∨ Writes events) := by
  induction events generalizing site written with
  | nil =>
      have hwrites : (written ∨ Writes []) = written := by simp [Writes]
      rw [hwrites, ← Option.some.inj hrun]
      exact hsound
  | cons event rest ih =>
      rw [run?, List.foldlM_cons] at hrun
      obtain ⟨middle, hstep, hrest⟩ := Option.bind_eq_some_iff.mp hrun
      have hnext := ih (step?_sound hsound hstep) hrest
      rwa [or_assoc, ← writes_cons] at hnext

/-! ### How often -/

/-- A check publishes exactly where it says so, and elsewhere it leaves the published object. -/
theorem checked_publishes (site : Site) :
    (site.checked.result = .ok true ∧
        site.checked.engine.publishes site.engine.current = false) ∨
      (site.checked.result ≠ .ok true ∧ site.checked.engine = site.engine) := by
  rcases site.watcher.check_cases site.engine site.file with
    ⟨-, hcheck⟩ | ⟨-, ruleset, -, hcheck⟩ | ⟨-, error, -, hcheck⟩
  · exact Or.inr (by simp [checked, hcheck])
  · exact Or.inl (by simp [checked, hcheck, Engine.publishes, Engine.publish])
  · exact Or.inr (by simp [checked, hcheck])

/-- Nothing waits to be published: the file is gone, or the watcher remembers its time. -/
def Settled (site : Site) : Prop :=
  site.file = none ∨ Watcher.modifiedOf site.file = site.watcher.lastModified

theorem Settled.not_tells (hsettled : site.Settled) : ¬tells site.checked.result := by
  rcases site.watcher.check_cases site.engine site.file with
    ⟨-, hcheck⟩ | ⟨hmoved, ruleset, hload, -⟩ | ⟨-, error, -, hcheck⟩
  · simp [checked, hcheck, tells]
  · have hnone := hsettled.resolve_right hmoved
    simp [hnone, RulesFile.load] at hload
  · simp [checked, hcheck, tells]

/-- Whatever happens but a write leaves nothing to be published. -/
theorem step?_settled (hstep : site.step? event = some next) (hwrites : ¬Writes [event]) :
    next.Settled := by
  cases event with
  | write contents modified => exact absurd ⟨contents, modified, List.mem_cons_self⟩ hwrites
  | remove =>
      obtain rfl := Option.some.inj hstep
      exact Or.inl rfl
  | check =>
      obtain rfl := Option.some.inj hstep
      exact Or.inr (lastModified_checked site).symm

/-- The results of a run are those of its first check and of the run from there. -/
theorem countP_results_cons (hstep : site.step? event = some next) :
    (site.results (event :: events)).countP tells =
      (next.results events).countP tells +
        if event = .check ∧ tells site.checked.result then 1 else 0 := by
  rw [results, hstep]
  by_cases hcheck : event = .check
  · simp [hcheck, List.countP_cons]
  · simp [hcheck]

theorem countP_results_of_settled (hsettled : site.Settled) (hwrites : ¬Writes events) :
    (site.results events).countP tells = 0 := by
  induction events generalizing site with
  | nil => rfl
  | cons event rest ih =>
      rw [writes_cons, not_or] at hwrites
      cases hstep : site.step? event with
      | none => simp [results, hstep]
      | some next =>
          have hnext := ih (step?_settled hstep hwrites.1) hwrites.2
          rw [countP_results_cons hstep, hnext, if_neg fun htells =>
            hsettled.not_tells htells.2]

/-- Without a write at most one check publishes: whatever comes first leaves nothing to be
published. -/
theorem countP_results_le (hwrites : ¬Writes events) :
    (site.results events).countP tells ≤ 1 := by
  cases events with
  | nil => exact Nat.zero_le 1
  | cons event rest =>
      rw [writes_cons, not_or] at hwrites
      cases hstep : site.step? event with
      | none => simp [results, hstep]
      | some next =>
          rw [countP_results_cons hstep,
            countP_results_of_settled (step?_settled hstep hwrites.1) hwrites.2, Nat.zero_add]
          split
          · exact Nat.le_refl 1
          · exact Nat.zero_le 1

end Site

open Site in
/-- A watcher begins, and then its file is written, removed and checked in any order.  After a
check what is published is the text that is there, if that was written since; a check that finds
no text leaves the published object; a check publishes exactly when it returns so; and of
checks without a write between them at most one does. -/
theorem run?_check_published {file : Option RulesFileState} {engine : Engine}
    {events : List Event} {site : Site} (hrun : (start file engine).run? events = some site) :
    let checked := site.checked
    (∀ text, site.text? = some text → Writes events →
        checked.engine.current.ruleset = RulesFile.parse text) ∧
      (site.text? = none → checked.engine = site.engine) ∧
      (checked.result = .ok true ↔ checked.engine.publishes site.engine.current = false) ∧
      (checked.result ≠ .ok true → checked.engine = site.engine) ∧
      ∀ behind, ¬Writes behind → (site.results behind).countP tells ≤ 1 := by
  intro checked
  have hsound : site.Sound (False ∨ Writes events) := run?_sound (start_sound file engine) hrun
  refine ⟨?published, engine_checked_of_none, ?tells, ?kept, fun behind => countP_results_le⟩
  case published =>
    intro text htext hwritten
    exact checked_published hsound (Or.inr hwritten) htext
  case tells =>
    rcases site.checked_publishes with ⟨htells, hpublishes⟩ | ⟨htells, hkept⟩
    · exact ⟨fun _ => hpublishes, fun _ => htells⟩
    · refine ⟨fun htells' => absurd htells' htells, fun hpublishes => ?_⟩
      simp [checked, hkept, Engine.publishes] at hpublishes
  case kept =>
    intro htells
    rcases site.checked_publishes with ⟨htells', -⟩ | ⟨-, hkept⟩
    · exact absurd htells' htells
    · exact hkept

namespace PollingWitness

def rules : Text := "a =>".toList

/-- The file that the watcher begins with, and the one that takes its place, hold no text. -/
def illegible : List UInt8 := [0xFF]

def before : List Event :=
  [.check, .write illegible 2, .check, .remove, .check, .write (Utf8.encode rules) 3]

def behind : List Event := [.check, .remove, .check]

theorem run?_before :
    ∃ site, (Site.start (some ⟨illegible, 1⟩) (Engine.start Ruleset.empty)).run? before =
      some site ∧ site.text? = some rules := by
  refine ⟨_, rfl, ?_⟩
  exact Utf8.decode?_encode rules

end PollingWitness

open PollingWitness in
/-- A file that was no text, was removed, and came back is published once. -/
theorem run?_check_published_recreated :
    ∃ site, (Site.start (some ⟨illegible, 1⟩) (Engine.start Ruleset.empty)).run? before =
        some site ∧
      site.text? = some rules ∧ Writes before ∧
      site.checked.engine.current.ruleset = RulesFile.parse rules ∧
      ¬Writes behind ∧ (site.results behind).countP Site.tells ≤ 1 := by
  obtain ⟨site, hrun, htext⟩ := run?_before
  obtain ⟨hpublished, -, -, -, honce⟩ := run?_check_published hrun
  have hwritten : Writes before := ⟨Utf8.encode rules, 3, by simp [before]⟩
  have hquiet : ¬Writes behind := by simp [Writes, behind]
  exact ⟨site, hrun, htext, hwritten, hpublished rules htext hwritten, hquiet,
    honce behind hquiet⟩

end Polling

end Reroute
