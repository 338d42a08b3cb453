import Reroute.Ruleset

/-!
Rules files.  The lines that count are trimmed, not blank, and begin with no `#`.  They are
read one after the other into a rule set that grows at its end, under a scope that says where
the next modifier belongs.  A line that cannot be read is left out with a warning, and a rule
left out takes the modifiers below it along.
-/
namespace Reroute.RulesFile

/-- The lines that count. -/
def significantLines (text : Text) : List Text :=
  ((Text.lines text).map Text.trim).filter fun line =>
    !line.isEmpty && line.head? != some '#'

/-- The name of a section header: all between one pair of brackets, trimmed. -/
def header? (line : Text) : Option Text := do
  let inner ← Text.before? [']'] (← Text.after? ['['] line)
  if inner.contains ']' then none else some (Text.trim inner)

/-- What a line within a block says. -/
inductive Statement where
  | modifier (command : Text)
  | rule (pattern action : Text)
  | other
deriving Repr, DecidableEq

/-- Read a line that is no header. -/
def Statement.ofLine (line : Text) : Statement :=
  match Text.after? ['$'] line with
  | some command => .modifier command
  | none =>
      match Text.cutAt "=>".toList line with
      | some (pattern, action) => .rule (Text.trim pattern) (Text.trim action)
      | none => .other

/-- Whether the name of a section leaves it active. -/
def isActiveName (name : Text) : Bool :=
  name.head? != some '#'

/-! ### Warnings -/

/-- What is worth telling about a line. -/
inductive Warning where
  | unknownCommand (error : Modifier.UnknownCommand)
  | skippedRule (line : Text) (error : Regex.Error)
  | malformedTarget (target : Text)
deriving Repr, DecidableEq

/-- The wording of a warning. -/
def Warning.message : Warning → Text
  | .unknownCommand error => error.message
  | .skippedRule line error =>
      "skipping rule `".toList ++ line ++ "`: ".toList ++ error.message
  | .malformedTarget target =>
      "proxy target `".toList ++ target ++
        "` is malformed, requests will not be forwarded through it".toList

/-! ### Growing a rule set -/

/-- Change the last entry of a list. -/
def changeLast {α : Type} (change : α → α) : List α → List α
  | [] => []
  | [last] => [change last]
  | first :: second :: rest => first :: changeLast change (second :: rest)

/-- Change the rules that the next rule joins: those of the last section, or those of the
file where there is no section. -/
def changeRules (change : List Rule → List Rule) (ruleset : Ruleset) : Ruleset :=
  if ruleset.sections.isEmpty then { ruleset with rules := change ruleset.rules }
  else
    { ruleset with
      sections := changeLast (fun s => { s with rules := change s.rules }) ruleset.sections }

/-- Put a rule behind the others. -/
def addRule (rule : Rule) (ruleset : Ruleset) : Ruleset :=
  changeRules (fun rules => rules ++ [rule]) ruleset

/-- Where the next modifier belongs. -/
inductive Scope where
  /-- To the file: there was no header and no rule. -/
  | file
  /-- To the last section, which has no rule yet. -/
  | heading
  /-- To the last rule. -/
  | rule
  /-- Nowhere, as the last rule was left out. -/
  | dropped
  /-- Nowhere, as the section is disabled. -/
  | disabled
deriving Repr, DecidableEq

/-- Put a modifier where it belongs. -/
def attach (modifier : Modifier) (ruleset : Ruleset) : Scope → Ruleset
  | .file => { ruleset with modifiers := ruleset.modifiers ++ [modifier] }
  | .heading =>
      { ruleset with
        sections := changeLast (fun s => { s with modifiers := s.modifiers ++ [modifier] })
          ruleset.sections }
  | .rule =>
      changeRules
        (changeLast fun rule => { rule with modifiers := rule.modifiers ++ [modifier] })
        ruleset
  | .dropped => ruleset
  | .disabled => ruleset

/-! ### Reading -/

/-- What has been read of a file. -/
structure Reading where
  ruleset : Ruleset
  scope : Scope
  warnings : List Warning

namespace Reading

/-- Nothing has been read. -/
def start : Reading := ⟨Ruleset.empty, .file, []⟩

/-- Begin a section. -/
def openSection (reading : Reading) (name : Text) : Reading :=
  let active := isActiveName name
  { reading with
    ruleset := { reading.ruleset with
      sections := reading.ruleset.sections ++ [⟨name, active, [], []⟩] }
    scope := if active then .heading else .disabled }

/-- Read a modifier. -/
def readModifier (reading : Reading) (command : Text) : Reading :=
  match Modifier.compile command with
  | .ok (some modifier) =>
      { reading with ruleset := attach modifier reading.ruleset reading.scope }
  | .ok none => reading
  | .error error =>
      { reading with warnings := reading.warnings ++ [.unknownCommand error] }

/-- Read a rule, which stands in a line. -/
def readRule (reading : Reading) (line source action : Text) : Reading :=
  match Pattern.compile source with
  | .ok pattern =>
      { ruleset := addRule ⟨pattern, Action.compile pattern action, []⟩ reading.ruleset
        scope := .rule
        warnings := reading.warnings ++
          ((Action.malformedTarget? action).map .malformedTarget).toList }
  | .error error =>
      { reading with
        scope := .dropped
        warnings := reading.warnings ++ [.skippedRule line error] }

/-- Read a line. -/
def readLine (reading : Reading) (line : Text) : Reading :=
  match header? line with
  | some name => reading.openSection name
  | none =>
      if reading.scope = .disabled then reading
      else
        match Statement.ofLine line with
        | .modifier command => reading.readModifier command
        | .rule source action => reading.readRule line source action
        | .other => reading

end Reading

/-- Read the lines that count. -/
def read (text : Text) : Reading :=
  (significantLines text).foldl Reading.readLine Reading.start

/-- The rule set of a rules file. -/
def parse (text : Text) : Ruleset :=
  (read text).ruleset

/-- The warnings of a rules file, in order. -/
def warnings (text : Text) : List Warning :=
  (read text).warnings

/-! ### Loading -/

/-- Why a rules file could not be read. -/
inductive LoadError where
  | notFound
  | invalidData
deriving Repr, DecidableEq

/-- Read the contents of a rules file, which there may not be. -/
def load : Option (List UInt8) → Except LoadError Ruleset
  | none => .error .notFound
  | some bytes =>
      match Utf8.decode? bytes with
      | some text => .ok (parse text)
      | none => .error .invalidData

theorem load_of_decode?_some {contents : Option (List UInt8)} {text : Text}
    (htext : contents.bind Utf8.decode? = some text) : load contents = .ok (parse text) := by
  obtain ⟨bytes, rfl, hdecode⟩ := Option.bind_eq_some_iff.mp htext
  simp [load, hdecode]

theorem load_of_decode?_none {contents : Option (List UInt8)}
    (htext : contents.bind Utf8.decode? = none) : ∃ error, load contents = .error error := by
  cases contents with
  | none => exact ⟨_, rfl⟩
  | some bytes =>
      have hdecode : Utf8.decode? bytes = none := htext
      exact ⟨.invalidData, by simp [load, hdecode]⟩

end Reroute.RulesFile
