import Mathlib.Data.List.Induction
import Reroute.Proofs.Grouping

/-!
Reading a rules file line by line comes to the grouping of its lines.  The carried fact is
that the scope agrees with the shape of the rule set: a part which is still open stands at
the end of the rule set, its contents are those of the lines read so far, and the scope says
whether its last rule line, if it has one, became a rule.
-/
namespace Reroute.RulesFile

@[simp] theorem changeLast_concat {α : Type} (change : α → α) (init : List α) (last : α) :
    changeLast change (init ++ [last]) = init ++ [change last] := by
  induction init with
  | nil => rfl
  | cons first rest ih =>
      cases rest with
      | nil => rfl
      | cons second rest => simpa [changeLast] using ih

/-- What stands around the part that is being read: nothing for the lines before the first
header, and otherwise the file so far with the name of an active section. -/
inductive Frame where
  | file
  | underHeader (before : Ruleset) (name : Text)

namespace Frame

/-- The rule set whose last part has the given modifiers and rules. -/
def fill : Frame → List Modifier × List Rule → Ruleset
  | .file, part => ⟨part.1, part.2, []⟩
  | .underHeader before name, part =>
      { before with sections := before.sections ++ [⟨name, true, part.1, part.2⟩] }

/-- The scope in which the part begins. -/
def scope : Frame → Scope
  | .file => .file
  | .underHeader _ _ => .heading

/-- The scope behind lines of the part: it follows the last rule line. -/
def scopeAfter (frame : Frame) (lines : List Text) : Scope :=
  match (segments ruleLine? lines).2.getLast? with
  | none => frame.scope
  | some group => if (compileSides? group.1).isSome then .rule else .dropped

theorem scope_ne_disabled (frame : Frame) : frame.scope ≠ .disabled := by
  cases frame <;> simp [scope]

theorem scopeAfter_ne_disabled (frame : Frame) (lines : List Text) :
    frame.scopeAfter lines ≠ .disabled := by
  unfold scopeAfter
  split
  · exact frame.scope_ne_disabled
  · split <;> simp

theorem changeRules_fill (frame : Frame) (change : List Rule → List Rule)
    (part : List Modifier × List Rule) :
    changeRules change (frame.fill part) = frame.fill (part.1, change part.2) := by
  cases frame with
  | file => rfl
  | underHeader before name => simp [changeRules, fill]

theorem attach_fill_head (frame : Frame) (modifier : Modifier)
    (part : List Modifier × List Rule) :
    attach modifier (frame.fill part) frame.scope =
      frame.fill (part.1 ++ [modifier], part.2) := by
  cases frame with
  | file => rfl
  | underHeader before name => simp [attach, fill, scope]

theorem attach_fill_rule (frame : Frame) (modifier : Modifier) (modifiers : List Modifier)
    (rules : List Rule) (rule : Rule) :
    attach modifier (frame.fill (modifiers, rules ++ [rule])) .rule =
      frame.fill (modifiers,
        rules ++ [{ rule with modifiers := rule.modifiers ++ [modifier] }]) := by
  simp [attach, changeRules_fill]

/-- An effective modifier goes where the grouping puts its line. -/
theorem attach_scopeAfter (frame : Frame) (lines : List Text) {line : Text}
    {modifier : Modifier} (hrule : ruleLine? line = none)
    (hmodifier : modifier? line = some modifier) :
    attach modifier (frame.fill (contents lines)) (frame.scopeAfter lines) =
      frame.fill (contents (lines ++ [line])) := by
  rcases segments_concat_unmarked ruleLine? hrule lines with
    ⟨hlines, hconcat⟩ | ⟨before, groups, sides, below, hlines, hconcat⟩
  · simp [scopeAfter, contents, hlines, hconcat, attach_fill_head, modifiersOf, hmodifier]
  · cases hcompiled : compileSides? sides with
    | none => simp [scopeAfter, contents, hlines, hconcat, hcompiled, ruleOf?, attach]
    | some compiled =>
        simp [scopeAfter, contents, hlines, hconcat, hcompiled, ruleOf?, attach_fill_rule,
          modifiersOf, hmodifier]

/-- A line that is neither a rule nor an effective modifier leaves the contents alone. -/
theorem contents_concat_of_none {lines : List Text} {line : Text}
    (hrule : ruleLine? line = none) (hmodifier : modifier? line = none) :
    contents (lines ++ [line]) = contents lines := by
  rcases segments_concat_unmarked ruleLine? hrule lines with
    ⟨hlines, hconcat⟩ | ⟨before, groups, sides, below, hlines, hconcat⟩
  · simp [contents, hlines, hconcat, modifiersOf, hmodifier]
  · have hrule' : ruleOf? (sides, below ++ [line]) = ruleOf? (sides, below) := by
      simp [ruleOf?, modifiersOf, hmodifier]
    simp [contents, hlines, hconcat, List.filterMap_cons, hrule']

/-- A line that is no rule leaves the scope alone. -/
theorem scopeAfter_concat_of_none (frame : Frame) {lines : List Text} {line : Text}
    (hrule : ruleLine? line = none) :
    frame.scopeAfter (lines ++ [line]) = frame.scopeAfter lines := by
  rcases segments_concat_unmarked ruleLine? hrule lines with
    ⟨hlines, hconcat⟩ | ⟨before, groups, sides, below, hlines, hconcat⟩
  · simp [scopeAfter, hlines, hconcat]
  · simp [scopeAfter, hlines, hconcat]

/-- A rule line opens a rule of its own, or none if its pattern does not compile. -/
theorem contents_concat_rule (lines : List Text) {line : Text} {sides : Text × Text}
    (hline : ruleLine? line = some sides) :
    contents (lines ++ [line]) =
      ((contents lines).1, (contents lines).2 ++ (ruleOf? (sides, [])).toList) := by
  cases hrule : ruleOf? (sides, []) <;>
    simp [contents, segments_concat_mark ruleLine? hline, hrule]

theorem scopeAfter_concat_rule (frame : Frame) (lines : List Text) {line : Text}
    {sides : Text × Text} (hline : ruleLine? line = some sides) :
    frame.scopeAfter (lines ++ [line]) =
      if (compileSides? sides).isSome then .rule else .dropped := by
  simp [scopeAfter, segments_concat_mark ruleLine? hline]

/-- The state of reading behind lines of an open part. -/
def reading (frame : Frame) (warnings : List Warning) (lines : List Text) : Reading :=
  ⟨frame.fill (contents lines), frame.scopeAfter lines, warnings ++ lines.filterMap warning?⟩

/-- One line of a part: the step that carries the agreement of scope and shape. -/
theorem readLine_reading (frame : Frame) (warnings : List Warning) (lines : List Text)
    {line : Text} (hheader : header? line = none) :
    (frame.reading warnings lines).readLine line =
      frame.reading warnings (lines ++ [line]) := by
  simp only [Reading.readLine, hheader, reading, frame.scopeAfter_ne_disabled lines, if_false]
  cases hline : Statement.ofLine line with
  | modifier command =>
      have hrule : ruleLine? line = none := by simp [ruleLine?, hline]
      rw [scopeAfter_concat_of_none frame hrule]
      cases hcompile : Modifier.compile command with
      | error error =>
          have hmodifier : modifier? line = none := by
            simp [modifier?, hline, hcompile, Except.toOption]
          simp [Reading.readModifier, hcompile, contents_concat_of_none hrule hmodifier,
            warning?, hline]
      | ok effect =>
          cases effect with
          | none =>
              have hmodifier : modifier? line = none := by
                simp [modifier?, hline, hcompile, Except.toOption]
              simp [Reading.readModifier, hcompile, contents_concat_of_none hrule hmodifier,
                warning?, hline]
          | some modifier =>
              have hmodifier : modifier? line = some modifier := by
                simp [modifier?, hline, hcompile, Except.toOption]
              simp [Reading.readModifier, hcompile,
                attach_scopeAfter frame lines hrule hmodifier, warning?, hline]
  | rule source action =>
      have hrule : ruleLine? line = some (source, action) := by simp [ruleLine?, hline]
      rw [scopeAfter_concat_rule frame lines hrule, contents_concat_rule lines hrule]
      cases hcompile : Pattern.compile source with
      | error error =>
          simp [Reading.readRule, hcompile, compileSides?, ruleOf?, Except.toOption, warning?,
            hline]
      | ok pattern =>
          cases htarget : Action.malformedTarget? action <;>
            simp [Reading.readRule, hcompile, compileSides?, ruleOf?, Except.toOption, warning?,
              hline, htarget, addRule, changeRules_fill, modifiersOf]
  | other =>
      have hrule : ruleLine? line = none := by simp [ruleLine?, hline]
      have hmodifier : modifier? line = none := by simp [modifier?, hline]
      rw [scopeAfter_concat_of_none frame hrule, contents_concat_of_none hrule hmodifier]
      simp [warning?, hline]

/-- Reading all lines of a part, by induction from its first line on. -/
theorem foldl_readLine (frame : Frame) (warnings : List Warning) (lines : List Text)
    (hheader : ∀ line ∈ lines, header? line = none) :
    lines.foldl Reading.readLine (frame.reading warnings []) =
      frame.reading warnings lines := by
  induction lines using List.reverseRecOn with
  | nil => rfl
  | append_singleton lines line ih =>
      rw [List.foldl_append, ih fun other hother => hheader other (by simp [hother])]
      exact readLine_reading frame warnings lines (hheader line (by simp))

end Frame

/-- Lines of a disabled section are passed over. -/
theorem foldl_readLine_of_disabled {reading : Reading} (hscope : reading.scope = .disabled)
    (lines : List Text) (hheader : ∀ line ∈ lines, header? line = none) :
    lines.foldl Reading.readLine reading = reading := by
  induction lines with
  | nil => rfl
  | cons line rest ih =>
      have hline : reading.readLine line = reading := by
        simp [Reading.readLine, hheader line List.mem_cons_self, hscope]
      rw [List.foldl_cons, hline]
      exact ih fun other hother => hheader other (List.mem_cons_of_mem line hother)

/-- The lines behind the last header concern its section and nothing else. -/
theorem grouping_of_last_header {line name : Text} (hheader : header? line = some name)
    (before : List Text) {body : List Text} (hbody : ∀ other ∈ body, header? other = none) :
    grouping (before ++ line :: body) =
      { grouping before with
        sections := (grouping before).sections ++ [sectionOf (name, body)] } := by
  simp [grouping, segments_last_mark header? hheader before hbody]

theorem activeLines_of_last_header {line name : Text} (hheader : header? line = some name)
    (before : List Text) {body : List Text} (hbody : ∀ other ∈ body, header? other = none) :
    activeLines (before ++ line :: body) =
      activeLines before ++ if isActiveName name then body else [] := by
  by_cases hactive : isActiveName name <;>
    simp [activeLines, segments_last_mark header? hheader before hbody, hactive]

/-- Reading a section from its header on. -/
theorem foldl_readLine_section (reading : Reading) {line name : Text}
    (hheader : header? line = some name) {body : List Text}
    (hbody : ∀ other ∈ body, header? other = none) :
    let after := (line :: body).foldl Reading.readLine reading
    after.ruleset =
        { reading.ruleset with
          sections := reading.ruleset.sections ++ [sectionOf (name, body)] } ∧
      after.warnings = reading.warnings ++
        (if isActiveName name then body else []).filterMap warning? := by
  have hopen : reading.readLine line = reading.openSection name := by
    simp [Reading.readLine, hheader]
  rw [List.foldl_cons, hopen]
  by_cases hactive : isActiveName name
  · have hreading : reading.openSection name =
        (Frame.underHeader reading.ruleset name).reading reading.warnings [] := by
      simp [Reading.openSection, hactive, Frame.reading, Frame.fill, Frame.scopeAfter,
        Frame.scope, contents, segments, modifiersOf]
    rw [hreading, Frame.foldl_readLine _ _ body hbody]
    simp [Frame.reading, Frame.fill, sectionOf, hactive]
  · have hscope : (reading.openSection name).scope = .disabled := by
      simp [Reading.openSection, hactive]
    rw [foldl_readLine_of_disabled hscope body hbody]
    simp [Reading.openSection, sectionOf, hactive]

/-- Reading lines comes to their grouping.  The induction takes off the last header with the
lines behind it, since a header makes reading forget the scope it had. -/
theorem foldl_readLine_start (lines : List Text) :
    (lines.foldl Reading.readLine Reading.start).ruleset = grouping lines ∧
      (lines.foldl Reading.readLine Reading.start).warnings =
        (activeLines lines).filterMap warning? := by
  induction hlength : lines.length using Nat.strongRecOn generalizing lines with
  | ind n ih =>
      rcases unmarked_or_last_mark header? lines with
        hnone | ⟨before, line, name, body, rfl, hheader, hbody⟩
      · have hrun := Frame.file.foldl_readLine [] lines hnone
        have hstart : Frame.file.reading [] [] = Reading.start := rfl
        rw [hstart] at hrun
        simp [hrun, Frame.reading, Frame.fill, grouping, activeLines,
          segments_of_unmarked header? hnone]
      · have hshorter : before.length < n := by
          rw [← hlength]
          simp
        obtain ⟨hruleset, hwarnings⟩ := ih before.length hshorter before rfl
        obtain ⟨hruleset', hwarnings'⟩ := foldl_readLine_section
          (before.foldl Reading.readLine Reading.start) hheader hbody
        rw [List.foldl_append, grouping_of_last_header hheader before hbody,
          activeLines_of_last_header hheader before hbody, List.filterMap_append]
        exact ⟨by rw [hruleset', hruleset], by rw [hwarnings', hwarnings]⟩

theorem parse_eq_grouping (text : Text) : parse text = grouping (significantLines text) :=
  (foldl_readLine_start (significantLines text)).1

end Reroute.RulesFile
