import Reroute.Action

/-!
Rule sets: the compiled form of a rules file.  The rule of a request is the first whose
pattern matches its URL, among the rules before any section and then those of the active
sections, in the order of the file.
-/
namespace Reroute

/-- A rule with its own modifiers. -/
structure Rule where
  pattern : Pattern
  action : Action
  modifiers : List Modifier

/-- A named group of rules.  One that is not active keeps its place without contents. -/
structure Section where
  name : Text
  active : Bool
  modifiers : List Modifier
  rules : List Rule

/-- The compiled form of a rules file. -/
structure Ruleset where
  modifiers : List Modifier
  rules : List Rule
  sections : List Section

namespace Ruleset

/-- No rules. -/
def empty : Ruleset := ⟨[], [], []⟩

/-- A rule with its place: the section, if it stands in one, and its number there. -/
structure Entry where
  rule : Rule
  owner : Option Section
  index : Nat

/-- The rules of a container with their places. -/
def entriesOf (owner : Option Section) (rules : List Rule) : List Entry :=
  rules.zipIdx.map fun (rule, index) => ⟨rule, owner, index⟩

/-- The active sections. -/
def activeSections (ruleset : Ruleset) : List Section :=
  ruleset.sections.filter Section.active

/-- All rules that can be selected, in order. -/
def entries (ruleset : Ruleset) : List Entry :=
  entriesOf none ruleset.rules ++
    ruleset.activeSections.flatMap fun owner => entriesOf (some owner) owner.rules

/-- A selected rule with the groups of its match. -/
structure Selected where
  entry : Entry
  captures : Captures

/-- The rule of a URL. -/
def select? (ruleset : Ruleset) (url : Text) : Option Selected :=
  ruleset.entries.findSome? fun entry =>
    (entry.rule.pattern.match? url).map fun captures => ⟨entry, captures⟩

/-- The modifiers that run for a selected rule: those of the file, of its section, and its
own. -/
def modifiersFor (ruleset : Ruleset) (entry : Entry) : List Modifier :=
  ruleset.modifiers ++ ((entry.owner.map Section.modifiers).getD [] ++ entry.rule.modifiers)

/-- The number of rules that can be selected. -/
def ruleCount (ruleset : Ruleset) : Nat :=
  ruleset.entries.length

/-- Evaluate a request: the modifiers of its rule, then the action.  A request without a
rule is forwarded as it is. -/
def evaluate (ruleset : Ruleset) (executor : Executor) (request : Request) : Action.Outcome :=
  match ruleset.select? request.url with
  | none => .quiet .forward request
  | some selected =>
      let rule := selected.entry.rule
      rule.action.perform executor rule.pattern selected.captures
        (request.modify (ruleset.modifiersFor selected.entry))

end Ruleset

end Reroute
