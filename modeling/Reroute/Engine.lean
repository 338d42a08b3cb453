import Reroute.RulesFile

/-!
The engine: the rule set that is published at a time.  Every publication is an object of its
own, told from the others by its number, also where the rules are the same.  An evaluation
works on a snapshot, so what is published later does not reach it.
-/
namespace Reroute

/-- A rule set with the number of its publication. -/
structure Snapshot where
  number : Nat
  ruleset : Ruleset

/-- What is published. -/
structure Engine where
  current : Snapshot

namespace Engine

/-- An engine that begins with a rule set. -/
def start (ruleset : Ruleset) : Engine := ⟨⟨0, ruleset⟩⟩

/-- Publish a rule set in place of the current one. -/
def publish (engine : Engine) (ruleset : Ruleset) : Engine :=
  ⟨⟨engine.current.number + 1, ruleset⟩⟩

/-- Read the rules file and publish what it says.  When it cannot be read nothing changes. -/
def reload (engine : Engine) (file : Option (List UInt8)) :
    Except RulesFile.LoadError Engine :=
  (RulesFile.load file).map engine.publish

/-- Whether a snapshot is still the published object. -/
def publishes (engine : Engine) (snapshot : Snapshot) : Bool :=
  engine.current.number == snapshot.number

end Engine

end Reroute
