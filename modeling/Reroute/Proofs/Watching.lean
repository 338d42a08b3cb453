import Reroute.Proofs.Utf8
import Reroute.Watcher

/-!
A proxy and its rules file.  `start` loads the file and then begins to watch it; the checks of
the watcher and explicit reloads read and publish afterwards, and the file may be written
between any two of their steps.  What is published at rest is the file as the last publication
had read it, and that is the file as it is now but for two races.
-/
namespace Reroute

namespace Watcher

variable {watcher : Watcher} {file : Option RulesFileState}

theorem check_of_unmoved {engine : Engine} (hmoved : (watcher.observe file).2 = false) :
    watcher.check engine file = ⟨(watcher.observe file).1, engine, .ok false⟩ := by
  rcases hobserve : watcher.observe file with ⟨next, moved⟩
  obtain rfl : moved = false := by simpa [hobserve] using hmoved
  simp [check, hobserve]

theorem check_of_moved {engine : Engine} (hmoved : (watcher.observe file).2 = true) :
    watcher.check engine file =
      match engine.reload (file.map RulesFileState.contents) with
      | .ok next => ⟨(watcher.observe file).1, next, .ok true⟩
      | .error error => ⟨(watcher.observe file).1, engine, .error error⟩ := by
  rcases hobserve : watcher.observe file with ⟨next, moved⟩
  obtain rfl : moved = true := by simpa [hobserve] using hmoved
  cases hreload : engine.reload (file.map RulesFileState.contents) <;>
    simp [check, hobserve, hreload]

end Watcher

namespace Watching

/-- Who reads the rules file and publishes it. -/
inductive Reader where
  | start
  | check
  | reload
deriving DecidableEq

/-- How far `start` has come. -/
inductive Starting where
  | waiting
  /-- Its reload has read the file. -/
  | read (seen : Option RulesFileState)
  /-- Its reload is over, and the watcher has not looked at the file yet. -/
  | reloaded
  | returned
deriving DecidableEq

/-- How far the check of the watcher has come. -/
inductive Checking where
  | idle
  /-- The modification time had moved, and the new one is remembered. -/
  | moved
  | read (seen : Option RulesFileState)
deriving DecidableEq

/-- The last publication: whose it was, and the file as it had been read. -/
structure Publication where
  reader : Reader
  seen : Option RulesFileState

/-- A proxy and its rules file.  The last three fields only tell the history, and no step
depends on the last two. -/
structure Proxy where
  file : Option RulesFileState
  engine : Engine
  watcher : Watcher
  starting : Starting
  checking : Checking
  /-- The explicit reloads under way, each with what it read. -/
  reloads : List (Option RulesFileState)
  /-- The modification times that have been used. -/
  times : List Nat
  last : Publication
  /-- The modification time that the watcher found when it began to watch. -/
  found : Option Nat

/-- A step of somebody. -/
inductive Event where
  | write (contents : List UInt8) (modified : Nat)
  | remove
  | startRead
  | startPublish
  /-- The watcher begins to watch, and `start` returns. -/
  | startWatch
  | checkTime
  | checkRead
  | checkPublish
  | reloadRead
  | reloadPublish (reload : Nat)

/-- The rule set that comes of reading a file: the initial one where it cannot be read. -/
def loaded (initial : Ruleset) (seen : Option RulesFileState) : Ruleset :=
  match RulesFile.load (seen.map RulesFileState.contents) with
  | .ok ruleset => ruleset
  | .error _ => initial

namespace Proxy

/-- A proxy before it starts, where there is no rules file yet. -/
def new (initial : Ruleset) : Proxy where
  file := none
  engine := Engine.start initial
  watcher := ⟨none⟩
  starting := .waiting
  checking := .idle
  reloads := []
  times := []
  last := ⟨.start, none⟩
  found := none

/-- Publish what has been read, or change nothing where it cannot be loaded. -/
def publish (proxy : Proxy) (reader : Reader) (seen : Option RulesFileState) : Proxy :=
  match proxy.engine.reload (seen.map RulesFileState.contents) with
  | .ok engine => { proxy with engine := engine, last := ⟨reader, seen⟩ }
  | .error _ => proxy

/-- Begin to watch. -/
def watch (proxy : Proxy) : Proxy :=
  { proxy with
    watcher := Watcher.start proxy.file
    starting := .returned
    found := Watcher.modifiedOf proxy.file }

/-- Begin a check: remember the modification time, and go on if it has moved. -/
def checkTime (proxy : Proxy) : Proxy :=
  { proxy with
    watcher := (proxy.watcher.observe proxy.file).1
    checking := if (proxy.watcher.observe proxy.file).2 then .moved else .idle }

/-- The step of an event, where there is one.  A write stores text under a modification time
that is new. -/
def step? (proxy : Proxy) : Event → Option Proxy
  | .write contents modified =>
      if (Utf8.decode? contents).isSome ∧ modified ∉ proxy.times then
        some { proxy with
          file := some ⟨contents, modified⟩
          times := modified :: proxy.times }
      else none
  | .remove => some { proxy with file := none }
  | .startRead =>
      match proxy.starting with
      | .waiting => some { proxy with starting := .read proxy.file }
      | _ => none
  | .startPublish =>
      match proxy.starting with
      | .read seen => some { proxy.publish .start seen with starting := .reloaded }
      | _ => none
  | .startWatch =>
      match proxy.starting with
      | .reloaded => some proxy.watch
      | _ => none
  | .checkTime =>
      match proxy.starting, proxy.checking with
      | .returned, .idle => some proxy.checkTime
      | _, _ => none
  | .checkRead =>
      match proxy.checking with
      | .moved => some { proxy with checking := .read proxy.file }
      | _ => none
  | .checkPublish =>
      match proxy.checking with
      | .read seen => some { proxy.publish .check seen with checking := .idle }
      | _ => none
  | .reloadRead =>
      match proxy.starting with
      | .returned => some { proxy with reloads := proxy.reloads ++ [proxy.file] }
      | _ => none
  | .reloadPublish index => do
      let seen ← proxy.reloads[index]?
      some { proxy.publish .reload seen with reloads := proxy.reloads.eraseIdx index }

/-- The steps of events, one after the other. -/
def run? (proxy : Proxy) (events : List Event) : Option Proxy :=
  events.foldlM step? proxy

/-- `start` has returned, and nobody is between reading the file and publishing it. -/
structure AtRest (proxy : Proxy) : Prop where
  returned : proxy.starting = .returned
  idle : proxy.checking = .idle
  reloads : proxy.reloads = []

/-- The file was written again after `start` had read it and before the watcher first looked
at it, and nothing has been published since. -/
def Unwatched (proxy : Proxy) : Prop :=
  proxy.last.reader = .start ∧ proxy.last.seen ≠ proxy.file ∧
    proxy.found = Watcher.modifiedOf proxy.file

/-- An explicit reload published last, and the file was written again after it had read it. -/
def Overtaken (proxy : Proxy) : Prop :=
  proxy.last.reader = .reload ∧ proxy.last.seen ≠ proxy.file

/-- A reload publishes what it has read, or it changes nothing. -/
theorem publish_cases (proxy : Proxy) (reader : Reader) (seen : Option RulesFileState) :
    (∃ ruleset, RulesFile.load (seen.map RulesFileState.contents) = .ok ruleset ∧
      proxy.publish reader seen =
        { proxy with engine := proxy.engine.publish ruleset, last := ⟨reader, seen⟩ }) ∨
    (∃ error, RulesFile.load (seen.map RulesFileState.contents) = .error error ∧
      proxy.publish reader seen = proxy) := by
  cases hload : RulesFile.load (seen.map RulesFileState.contents) with
  | ok ruleset =>
      refine Or.inl ⟨ruleset, rfl, ?_⟩
      simp [publish, Engine.reload, hload, Except.map]
  | error error =>
      refine Or.inr ⟨error, rfl, ?_⟩
      simp [publish, Engine.reload, hload, Except.map]

theorem publish_encode (proxy : Proxy) (reader : Reader) (text : Text) (modified : Nat) :
    proxy.publish reader (some ⟨Utf8.encode text, modified⟩) =
      { proxy with
        engine := proxy.engine.publish (RulesFile.parse text)
        last := ⟨reader, some ⟨Utf8.encode text, modified⟩⟩ } := by
  simp [publish, Engine.reload, RulesFile.load, Utf8.decode?_encode, Except.map]

/-- The steps of a check that nobody disturbs. -/
def checkEvents (proxy : Proxy) : List Event :=
  if (proxy.watcher.observe proxy.file).2 then [.checkTime, .checkRead, .checkPublish]
  else [.checkTime]

/-- They come to the check of the watcher. -/
theorem run?_checkEvents (proxy : Proxy) (hreturned : proxy.starting = .returned)
    (hidle : proxy.checking = .idle) :
    ∃ last, proxy.run? proxy.checkEvents = some last ∧ last.checking = .idle ∧
      last.watcher = (proxy.watcher.check proxy.engine proxy.file).watcher ∧
      last.engine = (proxy.watcher.check proxy.engine proxy.file).engine := by
  cases hmoved : (proxy.watcher.observe proxy.file).2 with
  | false =>
      refine ⟨proxy.checkTime, ?_, ?_, ?_, ?_⟩
      · simp [checkEvents, hmoved, run?, step?, hreturned, hidle]
      · simp [checkTime, hmoved]
      all_goals simp [Watcher.check_of_unmoved hmoved, checkTime]
  | true =>
      let read : Proxy := { proxy.checkTime with checking := .read proxy.file }
      refine ⟨{ read.publish .check proxy.file with checking := .idle }, ?_, rfl, ?_⟩
      · simp [checkEvents, run?, step?, hreturned, hidle, checkTime, hmoved, read]
      · rw [Watcher.check_of_moved hmoved]
        cases hreload : proxy.engine.reload (proxy.file.map RulesFileState.contents) <;>
          simp [publish, read, checkTime, hreload]

/-! ### What every step keeps -/

/-- What a watcher has made sure of the file that is there, under the time it remembers. -/
def Caught (proxy : Proxy) (file : RulesFileState) : Prop :=
  match proxy.checking with
  | .idle =>
      proxy.last.seen = some file ∨ proxy.last.reader = .reload ∨
        proxy.last.reader = .start ∧ proxy.found = some file.modified
  | .moved => True
  | .read seen => seen = some file

/-- The invariant of a proxy. -/
structure Sound (initial : Ruleset) (proxy : Proxy) : Prop where
  text : ∀ file, proxy.file = some file → (Utf8.decode? file.contents).isSome
  used : ∀ file, proxy.file = some file → file.modified ∈ proxy.times
  remembered : ∀ modified, proxy.watcher.lastModified = some modified → modified ∈ proxy.times
  published : proxy.engine.current.ruleset = loaded initial proxy.last.seen
  early : proxy.starting ≠ .returned →
    proxy.last.reader = .start ∧ proxy.checking = .idle ∧ proxy.reloads = []
  caught : proxy.starting = .returned → ∀ file, proxy.file = some file →
    proxy.watcher.lastModified = some file.modified → proxy.Caught file

theorem new_sound (initial : Ruleset) : (new initial).Sound initial where
  text := nofun
  used := nofun
  remembered := nofun
  published := rfl
  early := fun _ => ⟨rfl, rfl, rfl⟩
  caught := nofun

variable {initial : Ruleset} {proxy next : Proxy}

/-- Checks and reloads run only when `start` has returned. -/
theorem Sound.returned (hsound : proxy.Sound initial)
    (hbusy : proxy.checking ≠ .idle ∨ proxy.reloads ≠ []) : proxy.starting = .returned := by
  apply Classical.byContradiction
  intro hearly
  obtain ⟨-, hidle, hreloads⟩ := hsound.early hearly
  exact hbusy.elim (fun hchecking => hchecking hidle) fun hreload => hreload hreloads

/-- The watcher cannot have seen the time of a write yet. -/
theorem write_sound (hsound : proxy.Sound initial) {contents : List UInt8} {modified : Nat}
    (htext : (Utf8.decode? contents).isSome) (hfresh : modified ∉ proxy.times) :
    Sound initial { proxy with
      file := some ⟨contents, modified⟩
      times := modified :: proxy.times } where
  text := by
    rintro file ⟨⟩
    exact htext
  used := by
    rintro file ⟨⟩
    exact List.mem_cons_self
  remembered := fun time htime => List.mem_cons_of_mem modified (hsound.remembered time htime)
  published := hsound.published
  early := hsound.early
  caught := by
    rintro - file ⟨⟩ hremembered
    exact absurd (hsound.remembered modified hremembered) hfresh

theorem startRead_sound (hsound : proxy.Sound initial) (hstarting : proxy.starting = .waiting) :
    Sound initial { proxy with starting := .read proxy.file } :=
  { hsound with
    early := fun _ => hsound.early (by simp [hstarting])
    caught := nofun }

theorem startPublish_sound (hsound : proxy.Sound initial) {seen : Option RulesFileState}
    (hstarting : proxy.starting = .read seen) :
    Sound initial { proxy.publish .start seen with starting := .reloaded } := by
  obtain ⟨hreader, hchecking, hreloads⟩ := hsound.early (by simp [hstarting])
  rcases proxy.publish_cases .start seen with ⟨ruleset, hload, hpublish⟩ | ⟨error, -, hpublish⟩
  · rw [hpublish]
    exact { hsound with
      published := by simp [loaded, hload, Engine.publish]
      early := fun _ => ⟨rfl, hchecking, hreloads⟩
      caught := nofun }
  · rw [hpublish]
    exact { hsound with
      early := fun _ => ⟨hreader, hchecking, hreloads⟩
      caught := nofun }

/-- The time with which the watcher begins is the time of the file, whatever `start` has
read. -/
theorem watch_sound (hsound : proxy.Sound initial) (hstarting : proxy.starting = .reloaded) :
    Sound initial proxy.watch := by
  obtain ⟨hreader, hchecking, -⟩ := hsound.early (by simp [hstarting])
  exact { hsound with
    remembered := by
      intro modified hmodified
      obtain ⟨file, hfile, rfl⟩ := Option.map_eq_some_iff.mp hmodified
      exact hsound.used file hfile
    early := fun hearly => absurd rfl hearly
    caught := by
      intro _ file hfile _
      have hfile : proxy.file = some file := hfile
      simp [Caught, watch, hchecking, hreader, hfile, Watcher.modifiedOf] }

theorem checkTime_sound (hsound : proxy.Sound initial) (hreturned : proxy.starting = .returned)
    (hidle : proxy.checking = .idle) : Sound initial proxy.checkTime :=
  { hsound with
    remembered := by
      intro modified hmodified
      obtain ⟨file, hfile, rfl⟩ := Option.map_eq_some_iff.mp hmodified
      exact hsound.used file hfile
    early := fun hearly => absurd hreturned hearly
    caught := by
      intro _ file hfile _
      have hfile : proxy.file = some file := hfile
      cases hmoved : (proxy.watcher.observe proxy.file).2 with
      | true => simp [Caught, checkTime, hmoved]
      | false =>
          have hsame : Watcher.modifiedOf proxy.file = proxy.watcher.lastModified := by
            simpa [Watcher.observe] using hmoved
          rw [hfile] at hsame
          have hcaught := hsound.caught hreturned file hfile hsame.symm
          simpa [Caught, checkTime, hmoved, hidle] using hcaught }

theorem checkRead_sound (hsound : proxy.Sound initial) (hmoved : proxy.checking = .moved) :
    Sound initial { proxy with checking := .read proxy.file } :=
  { hsound with
    early := fun hearly => absurd (hsound.returned (Or.inl (by simp [hmoved]))) hearly
    caught := fun _ file hfile _ => hfile }

/-- A check that read the file as it is publishes it: a file that is there holds text. -/
theorem checkPublish_sound (hsound : proxy.Sound initial) {seen : Option RulesFileState}
    (hchecking : proxy.checking = .read seen) :
    Sound initial { proxy.publish .check seen with checking := .idle } := by
  have hreturned : proxy.starting = .returned := hsound.returned (Or.inl (by simp [hchecking]))
  have hseen : ∀ file, proxy.file = some file →
      proxy.watcher.lastModified = some file.modified → seen = some file := by
    intro file hfile hremembered
    simpa [Caught, hchecking] using hsound.caught hreturned file hfile hremembered
  rcases proxy.publish_cases .check seen with ⟨ruleset, hload, hpublish⟩ | ⟨error, hload, hpublish⟩
  · rw [hpublish]
    exact { hsound with
      published := by simp [loaded, hload, Engine.publish]
      early := fun hearly => absurd hreturned hearly
      caught := fun _ file hfile hremembered => Or.inl (hseen file hfile hremembered) }
  · rw [hpublish]
    exact { hsound with
      early := fun hearly => absurd hreturned hearly
      caught := by
        intro _ file hfile hremembered
        obtain rfl := hseen file hfile hremembered
        obtain ⟨text, htext⟩ := Option.isSome_iff_exists.mp (hsound.text file hfile)
        simp [RulesFile.load, htext] at hload }

theorem reloadRead_sound (hsound : proxy.Sound initial) (hreturned : proxy.starting = .returned) :
    Sound initial { proxy with reloads := proxy.reloads ++ [proxy.file] } :=
  { hsound with early := fun hearly => absurd hreturned hearly }

theorem reloadPublish_sound (hsound : proxy.Sound initial) {index : Nat}
    {seen : Option RulesFileState} (hseen : proxy.reloads[index]? = some seen) :
    Sound initial
      { proxy.publish .reload seen with reloads := proxy.reloads.eraseIdx index } := by
  have hreturned : proxy.starting = .returned := by
    refine hsound.returned (Or.inr ?_)
    rintro hreloads
    simp [hreloads] at hseen
  rcases proxy.publish_cases .reload seen with ⟨ruleset, hload, hpublish⟩ | ⟨error, -, hpublish⟩
  · rw [hpublish]
    exact { hsound with
      published := by simp [loaded, hload, Engine.publish]
      early := fun hearly => absurd hreturned hearly
      caught := by
        intro _ file hfile hremembered
        have hcaught := hsound.caught hreturned file hfile hremembered
        cases hchecking : proxy.checking with
        | idle => simp [Caught]
        | moved => simp [Caught]
        | read current => simpa [Caught, hchecking] using hcaught }
  · rw [hpublish]
    exact { hsound with early := fun hearly => absurd hreturned hearly }

/-- Every step keeps the invariant. -/
theorem step?_sound (hsound : proxy.Sound initial) {event : Event}
    (hstep : proxy.step? event = some next) : next.Sound initial := by
  cases event with
  | write contents modified =>
      simp only [step?, Option.ite_none_right_eq_some] at hstep
      obtain ⟨⟨htext, hfresh⟩, hstep⟩ := hstep
      obtain rfl := Option.some.inj hstep
      exact write_sound hsound htext hfresh
  | remove =>
      obtain rfl := Option.some.inj hstep
      exact { hsound with text := nofun, used := nofun, caught := nofun }
  | startRead =>
      simp only [step?] at hstep
      split at hstep
      case h_1 hstarting => exact Option.some.inj hstep ▸ startRead_sound hsound hstarting
      case h_2 => exact nomatch hstep
  | startPublish =>
      simp only [step?] at hstep
      split at hstep
      case h_1 seen hstarting => exact Option.some.inj hstep ▸ startPublish_sound hsound hstarting
      case h_2 => exact nomatch hstep
  | startWatch =>
      simp only [step?] at hstep
      split at hstep
      case h_1 hstarting => exact Option.some.inj hstep ▸ watch_sound hsound hstarting
      case h_2 => exact nomatch hstep
  | checkTime =>
      simp only [step?] at hstep
      split at hstep
      case h_1 hreturned hidle =>
          exact Option.some.inj hstep ▸ checkTime_sound hsound hreturned hidle
      case h_2 => exact nomatch hstep
  | checkRead =>
      simp only [step?] at hstep
      split at hstep
      case h_1 hmoved => exact Option.some.inj hstep ▸ checkRead_sound hsound hmoved
      case h_2 => exact nomatch hstep
  | checkPublish =>
      simp only [step?] at hstep
      split at hstep
      case h_1 seen hchecking =>
          exact Option.some.inj hstep ▸ checkPublish_sound hsound hchecking
      case h_2 => exact nomatch hstep
  | reloadRead =>
      simp only [step?] at hstep
      split at hstep
      case h_1 hreturned => exact Option.some.inj hstep ▸ reloadRead_sound hsound hreturned
      case h_2 => exact nomatch hstep
  | reloadPublish index =>
      obtain ⟨seen, hseen, hstep⟩ := Option.bind_eq_some_iff.mp hstep
      exact Option.some.inj hstep ▸ reloadPublish_sound hsound hseen

/-- So does every run. -/
theorem run?_sound (hsound : proxy.Sound initial) {events : List Event}
    (hrun : proxy.run? events = some next) : next.Sound initial := by
  induction events generalizing proxy with
  | nil => exact Option.some.inj hrun ▸ hsound
  | cons event rest ih =>
      rw [run?, List.foldlM_cons] at hrun
      obtain ⟨middle, hstep, hrest⟩ := Option.bind_eq_some_iff.mp hrun
      exact ih (step?_sound hsound hstep) hrest

end Proxy

open Proxy in
/-- At rest, and where the watcher remembers the time of the file that is there, what is
published is what the file says, unless one of the two races is lost and the file said
something else when it was read for the last publication. -/
theorem atRest_published_iff {initial : Ruleset} {events : List Event} {proxy : Proxy}
    (hrun : (new initial).run? events = some proxy) (hrest : proxy.AtRest)
    {file : RulesFileState} (hfile : proxy.file = some file)
    (hremembered : proxy.watcher.lastModified = some file.modified) :
    ∃ text, Utf8.decode? file.contents = some text ∧
      (proxy.engine.current.ruleset = RulesFile.parse text ↔
        ¬((proxy.Unwatched ∨ proxy.Overtaken) ∧
          loaded initial proxy.last.seen ≠ RulesFile.parse text)) := by
  have hsound : proxy.Sound initial := run?_sound (new_sound initial) hrun
  obtain ⟨text, htext⟩ := Option.isSome_iff_exists.mp (hsound.text file hfile)
  refine ⟨text, htext, ?_⟩
  rw [hsound.published]
  constructor
  · rintro hfresh ⟨-, hstale⟩
    exact hstale hfresh
  · intro hlost
    apply Classical.byContradiction
    intro hstale
    have hseen : proxy.last.seen ≠ proxy.file := by
      intro hseen
      apply hstale
      simp [loaded, RulesFile.load, hseen, hfile, htext]
    have hcaught := hsound.caught hrest.returned file hfile hremembered
    simp only [Caught, hrest.idle] at hcaught
    apply hlost
    rcases hcaught with hsame | hreload | ⟨hstart, hfound⟩
    · exact absurd (hsame.trans hfile.symm) hseen
    · exact ⟨Or.inr ⟨hreload, hseen⟩, hstale⟩
    · refine ⟨Or.inl ⟨hstart, hseen, ?_⟩, hstale⟩
      rw [hfound, hfile]
      rfl

namespace WatchingWitness

def one : Text := "a =>".toList

def two : Text := "a =>\nb =>".toList

theorem parse_one_ne_parse_two : RulesFile.parse one ≠ RulesFile.parse two := by
  intro hsame
  have hcount : (RulesFile.parse one).rules.length = (RulesFile.parse two).rules.length := by
    rw [hsame]
  exact absurd hcount (by decide)

/-- The second text is written while the watcher is looking after the file. -/
def watched : List Event :=
  [.write (Utf8.encode one) 1, .startRead, .startPublish, .startWatch,
    .write (Utf8.encode two) 2, .checkTime, .checkRead, .checkPublish]

/-- It is written before that, when `start` has read the first. -/
def unwatched : List Event :=
  [.write (Utf8.encode one) 1, .startRead, .write (Utf8.encode two) 2, .startPublish,
    .startWatch]

/-- It is written between the two steps of a reload, and a check publishes it first. -/
def overtaken : List Event :=
  [.write (Utf8.encode one) 1, .startRead, .startPublish, .startWatch, .reloadRead,
    .write (Utf8.encode two) 2, .checkTime, .checkRead, .checkPublish, .reloadPublish 0]

/-- A proxy at rest that finds the second text in the file. -/
def after (engine : Engine) (last : Publication) (found : Option Nat) : Proxy where
  file := some ⟨Utf8.encode two, 2⟩
  engine := engine
  watcher := ⟨some 2⟩
  starting := .returned
  checking := .idle
  reloads := []
  times := [2, 1]
  last := last
  found := found

theorem run?_watched : (Proxy.new Ruleset.empty).run? watched =
    some (after ⟨2, RulesFile.parse two⟩ ⟨.check, some ⟨Utf8.encode two, 2⟩⟩ (some 1)) := by
  simp [Proxy.run?, Proxy.step?, watched, Proxy.new, Proxy.watch, Proxy.checkTime,
    Watcher.observe, Watcher.start, Watcher.modifiedOf, Proxy.publish_encode,
    Utf8.decode?_encode, after, Engine.start, Engine.publish]

theorem run?_unwatched : (Proxy.new Ruleset.empty).run? unwatched =
    some (after ⟨1, RulesFile.parse one⟩ ⟨.start, some ⟨Utf8.encode one, 1⟩⟩ (some 2)) := by
  simp [Proxy.run?, Proxy.step?, unwatched, Proxy.new, Proxy.watch, Watcher.start,
    Watcher.modifiedOf, Proxy.publish_encode, Utf8.decode?_encode, after, Engine.start,
    Engine.publish]

theorem run?_overtaken : (Proxy.new Ruleset.empty).run? overtaken =
    some (after ⟨3, RulesFile.parse one⟩ ⟨.reload, some ⟨Utf8.encode one, 1⟩⟩ (some 1)) := by
  simp [Proxy.run?, Proxy.step?, overtaken, Proxy.new, Proxy.watch, Proxy.checkTime,
    Watcher.observe, Watcher.start, Watcher.modifiedOf, Proxy.publish_encode,
    Utf8.decode?_encode, after, Engine.start, Engine.publish]

end WatchingWitness

open WatchingWitness in
/-- A write that the watcher was there for is published, though `start` had read another. -/
theorem atRest_published_watched :
    ∃ proxy text, (Proxy.new Ruleset.empty).run? watched = some proxy ∧
      Utf8.decode? (Utf8.encode two) = some text ∧
      proxy.engine.current.ruleset = RulesFile.parse text := by
  obtain ⟨text, htext, hiff⟩ := atRest_published_iff run?_watched ⟨rfl, rfl, rfl⟩ rfl rfl
  refine ⟨_, text, run?_watched, htext, hiff.mpr ?_⟩
  rintro ⟨⟨hreader, -⟩ | ⟨hreader, -⟩, -⟩ <;> exact nomatch hreader

open WatchingWitness in
/-- Each race loses a write for good: the watcher remembers the time of the file, and what is
published is what it said before. -/
theorem atRest_published_stale :
    (∃ proxy, (Proxy.new Ruleset.empty).run? unwatched = some proxy ∧ proxy.AtRest ∧
      proxy.file = some ⟨Utf8.encode two, 2⟩ ∧ proxy.watcher.lastModified = some 2 ∧
      Utf8.decode? (Utf8.encode two) = some two ∧ proxy.Unwatched ∧
      proxy.engine.current.ruleset ≠ RulesFile.parse two) ∧
    ∃ proxy, (Proxy.new Ruleset.empty).run? overtaken = some proxy ∧ proxy.AtRest ∧
      proxy.file = some ⟨Utf8.encode two, 2⟩ ∧ proxy.watcher.lastModified = some 2 ∧
      Utf8.decode? (Utf8.encode two) = some two ∧ proxy.Overtaken ∧
      proxy.engine.current.ruleset ≠ RulesFile.parse two := by
  constructor
  · exact ⟨_, run?_unwatched, ⟨rfl, rfl, rfl⟩, rfl, rfl, Utf8.decode?_encode two,
      ⟨rfl, by simp [after], rfl⟩, parse_one_ne_parse_two⟩
  · exact ⟨_, run?_overtaken, ⟨rfl, rfl, rfl⟩, rfl, rfl, Utf8.decode?_encode two,
      ⟨rfl, by simp [after]⟩, parse_one_ne_parse_two⟩

end Watching

end Reroute
