import Reroute.Regex.Class
import Reroute.Regex.Program

/-!
The search of a program in a text.  All matches are followed at once, one character after
the other; the threads stand in order of preference, two threads at one instruction are kept
as the better one, and a thread that accepts ends those behind it.  So the leftmost match is
found, and of the matches that begin there the preferred one.
-/
namespace Reroute

/-- The groups of a match: group 0 is the whole match, and a group that took no part has no
text. -/
abbrev Captures := List (Option Text)

/-- The text of a group, empty where there is no such group or it took no part. -/
def Captures.group (captures : Captures) (index : Nat) : Text :=
  (captures[index]?.join).getD []

namespace Regex

/-- The places where groups begin and end. -/
abbrev Slots := Array (Option Nat)

/-- A way to match: the instruction it has come to and the places it has marked. -/
structure Thread where
  inst : Nat
  slots : Slots

/-- A place in a text: its number and the characters around it. -/
structure Place where
  index : Nat
  before : Option Char
  after : Option Char

/-- Whether the character on a side is one of words. -/
def isWordSide (unicode : Bool) (side : Option Char) : Bool :=
  match side with
  | some c => (if unicode then CharSet.wordChars else CharSet.asciiWordChars).contains c
  | none => false

/-- Whether a condition holds at a place. -/
def Look.holds (place : Place) : Look → Bool
  | .start => place.before.isNone
  | .finish => place.after.isNone
  | .lineStart => place.before.isNone || place.before == some '\n'
  | .lineEnd => place.after.isNone || place.after == some '\n'
  | .anyLineStart =>
      place.before.isNone || place.before == some '\n' ||
        (place.before == some '\r' && place.after != some '\n')
  | .anyLineEnd =>
      place.after.isNone || place.after == some '\r' ||
        (place.after == some '\n' && place.before != some '\r')
  | .wordBoundary u => isWordSide u place.before != isWordSide u place.after
  | .notWordBoundary u => isWordSide u place.before == isWordSide u place.after
  | .wordStart u => !isWordSide u place.before && isWordSide u place.after
  | .wordEnd u => isWordSide u place.before && !isWordSide u place.after
  | .wordStartHalf u => !isWordSide u place.before
  | .wordEndHalf u => !isWordSide u place.after

namespace Program

/-- The threads at a place, with the instructions that have been reached there.  An
instruction counts as reached when its stamp is the number of the place and one. -/
structure Front where
  threads : Array Thread
  stamps : Array Nat

/-- Follow instructions that use up no character, in order of preference.  Every instruction
is expanded at most once, so the fuel needed is the number of successors and one. -/
def follow (program : Program) (place : Place) : Nat → List Thread → Front → Front
  | 0, _, front => front
  | _ + 1, [], front => front
  | fuel + 1, thread :: waiting, front =>
      if front.stamps.getD thread.inst 0 = place.index + 1 then
        follow program place fuel waiting front
      else
        let front := { front with
          stamps := front.stamps.setIfInBounds thread.inst (place.index + 1) }
        match program.insts.getD thread.inst .stuck with
        | .chars _ _ =>
            follow program place fuel waiting
              { front with threads := front.threads.push thread }
        | .accept =>
            follow program place fuel waiting
              { front with threads := front.threads.push thread }
        | .look kind next =>
            if kind.holds place then
              follow program place fuel ({ thread with inst := next } :: waiting) front
            else follow program place fuel waiting front
        | .fork nexts =>
            follow program place fuel
              (nexts.map (fun next => { thread with inst := next }) ++ waiting) front
        | .mark slot next =>
            let slots := thread.slots.setIfInBounds slot (some place.index)
            follow program place fuel (⟨next, slots⟩ :: waiting) front
        | .stuck => follow program place fuel waiting front

/-- The fuel that following needs. -/
def followFuel (program : Program) : Nat :=
  program.insts.foldl (fun total inst =>
    match inst with
    | .fork nexts => total + nexts.length
    | _ => total + 1) 1

/-- The program with its threads, its fuel, and the best match so far. -/
structure Run where
  front : Front
  best : Option Slots

/-- Move the threads over a character.  They stand in order of preference, so the first one
that accepts is the best match, and those behind it are dropped. -/
def advance (program : Program) (fuel : Nat) (c : Char) (place : Place) :
    List Thread → Run → Run
  | [], run => run
  | thread :: rest, run =>
      match program.insts.getD thread.inst .stuck with
      | .accept => { run with best := some thread.slots }
      | .chars set next =>
          if set.contains c then
            advance program fuel c place rest
              { run with
                front := follow program place fuel [{ thread with inst := next }] run.front }
          else advance program fuel c place rest run
      | _ => advance program fuel c place rest run

/-- Search from a place on.  While nothing has matched, a match may still begin here. -/
def searchFrom (program : Program) (fuel : Nat) :
    Nat → Option Char → Text → Run → Option Slots
  | index, before, rest, run =>
      let place : Place := ⟨index, before, rest.head?⟩
      let fresh : Thread := ⟨program.start, Array.replicate (2 * program.groups) none⟩
      let front := if run.best.isNone then follow program place fuel [fresh] run.front
        else run.front
      match rest with
      | [] =>
          match front.threads.find? fun thread =>
              match program.insts.getD thread.inst .stuck with
              | .accept => true
              | _ => false with
          | some thread => some thread.slots
          | none => run.best
      | c :: rest =>
          let place : Place := ⟨index + 1, some c, rest.head?⟩
          let run := advance program fuel c place front.threads.toList
            ⟨⟨#[], front.stamps⟩, run.best⟩
          if run.best.isSome && run.front.threads.isEmpty then run.best
          else searchFrom program fuel (index + 1) (some c) rest run

/-- The text between two marked places. -/
def slice (s : Text) (first last : Option Nat) : Option Text :=
  match first, last with
  | some a, some b => some ((s.drop a).take (b - a))
  | _, _ => none

/-- The groups of the first match in a text: the whole match, then each group, of which
those that took no part have no text. -/
def captures? (program : Program) (s : Text) : Option (List (Option Text)) :=
  let stamps := Array.replicate program.insts.size 0
  (searchFrom program program.followFuel 0 none s ⟨⟨#[], stamps⟩, none⟩).map fun slots =>
    (List.range program.groups).map fun i =>
      slice s (slots.getD (2 * i) none) (slots.getD (2 * i + 1) none)

end Program

end Regex

end Reroute
