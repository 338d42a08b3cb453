import Mathlib.Data.List.DropRight
import Reroute.Proofs.Reading
import Reroute.Proofs.Text

/-!
What reading makes of a rules file, line by line: which lines count and which of them name a
section (`LineRules`), which become sections, rules and modifiers, and which become nothing.
The main statement says it of every text, without the cuts by which the grouping is computed.
-/
namespace Reroute

namespace Modifier

variable {line : Text}

theorem compile_eq_ok_iff {effect : Option Modifier} :
    compile line = .ok effect ↔
      ∃ command, Command.ofWord? (commandWord line) = some command ∧
        ofCommand (argument line) command = effect := by
  cases hword : Command.ofWord? (commandWord line) <;> simp [compile, hword]

theorem compile_eq_error_iff {error : UnknownCommand} :
    compile line = .error error ↔
      Command.ofWord? (commandWord line) = none ∧ error = ⟨commandWord line⟩ := by
  cases hword : Command.ofWord? (commandWord line) <;> simp [compile, hword, eq_comm]

end Modifier

namespace RulesFile

section Segments

variable {α β : Type} (mark? : α → Option β)

/-- The entries from a list's first mark on. -/
theorem segments_dropWhile (entries : List α) :
    segments mark? (entries.dropWhile fun a => (mark? a).isNone) =
      ([], (segments mark? entries).2) := by
  induction entries with
  | nil => rfl
  | cons a rest ih =>
      cases hmark : mark? a with
      | none => simpa [segments, hmark] using ih
      | some mark => simp [segments, hmark]

end Segments

/-! ### The lines that count -/

theorem significantLines_append (above below : Text) :
    significantLines (above ++ '\n' :: below) =
      significantLines above ++ significantLines below := by
  simp [significantLines, Text.lines_append]

/-- A line counts as it is trimmed, unless it is blank or a comment. -/
theorem significantLines_line {line : Text} (hfeed : '\n' ∉ line) :
    significantLines line =
      if Text.trim line = [] ∨ (Text.trim line).head? = some '#' then []
      else [Text.trim line] := by
  have hline : Text.lines line = [line] := by
    simpa [Text.unlines, Text.joinWith_singleton] using
      Text.lines_unlines (List.cons_ne_nil line []) (by simpa using hfeed)
  rw [significantLines, hline]
  by_cases hblank : Text.trim line = [] <;>
    by_cases hcomment : (Text.trim line).head? = some '#' <;> simp [hblank, hcomment]

/-- A header is one pair of brackets around its line, with no closing one within. -/
theorem header?_eq_some_iff {line name : Text} :
    header? line = some name ↔
      ∃ inner, line = '[' :: (inner ++ [']']) ∧ ']' ∉ inner ∧ Text.trim inner = name := by
  constructor
  · intro hheader
    simp only [header?, Option.bind_eq_bind, Option.bind_eq_some_iff, Text.after?_eq_some_iff,
      Text.before?_eq_some_iff] at hheader
    obtain ⟨tail, htail, inner, hinner, hname⟩ := hheader
    by_cases hclose : ']' ∈ inner
    · simp [hclose] at hname
    · refine ⟨inner, ?_, hclose, by simpa [hclose] using hname⟩
      rw [← htail, ← hinner]
      rfl
  · rintro ⟨inner, rfl, hclose, rfl⟩
    have hafter : Text.after? ['['] ('[' :: (inner ++ [']'])) = some (inner ++ [']']) :=
      Text.after?_eq_some_iff.mpr rfl
    have hbefore : Text.before? [']'] (inner ++ [']']) = some inner :=
      Text.before?_eq_some_iff.mpr rfl
    simp [header?, hafter, hbefore, hclose]

theorem header?_dollar (command : Text) : header? ('$' :: command) = none := by
  rw [Option.eq_none_iff_forall_ne_some]
  intro name hheader
  obtain ⟨inner, hline, -, -⟩ := header?_eq_some_iff.mp hheader
  exact absurd (List.cons.inj hline).1 (by decide)

/-- The lines of a text that count, and the headers among them.  A text is read line by line, a
line counts as it is trimmed unless it is blank or a comment, and a header is all between one pair
of brackets, trimmed. -/
structure LineRules (counted : Text → List Text) (heading? : Text → Option Text) : Prop where
  append : ∀ above below, counted (above ++ '\n' :: below) = counted above ++ counted below
  line : ∀ line, '\n' ∉ line → counted line =
    if Text.trim line = [] ∨ (Text.trim line).head? = some '#' then [] else [Text.trim line]
  heading : ∀ line name, heading? line = some name ↔
    ∃ inner, line = '[' :: (inner ++ [']']) ∧ ']' ∉ inner ∧ Text.trim inner = name

theorem lineRules : LineRules significantLines header? where
  append := significantLines_append
  line _ hfeed := significantLines_line hfeed
  heading _ _ := header?_eq_some_iff

/-! ### The lines of a part -/

theorem ofLine_eq_modifier_iff {line command : Text} :
    Statement.ofLine line = .modifier command ↔ line = '$' :: command := by
  constructor
  · intro hline
    unfold Statement.ofLine at hline
    split at hline
    case h_1 rest hafter =>
        obtain rfl := Statement.modifier.inj hline
        exact (Text.after?_eq_some_iff.mp hafter).symm
    case h_2 => split at hline <;> exact nomatch hline
  · rintro rfl
    have hafter : Text.after? ['$'] ('$' :: command) = some command :=
      Text.after?_eq_some_iff.mpr rfl
    rw [Statement.ofLine, hafter]

theorem ofLine_eq_rule_iff {line source action : Text} :
    Statement.ofLine line = .rule source action ↔
      line.head? ≠ some '$' ∧ ∃ before behind,
        Text.cutAt "=>".toList line = some (before, behind) ∧
          Text.trim before = source ∧ Text.trim behind = action := by
  by_cases hdollar : line.head? = some '$'
  · obtain ⟨command, rfl⟩ := List.head?_eq_some_iff.mp hdollar
    rw [ofLine_eq_modifier_iff.mpr rfl]
    simp
  · have hafter : Text.after? ['$'] line = none := by
      rw [Option.eq_none_iff_forall_ne_some]
      intro command hcommand
      rw [← Text.after?_eq_some_iff.mp hcommand] at hdollar
      exact hdollar rfl
    cases hcut : Text.cutAt "=>".toList line with
    | none => simp only [Statement.ofLine, hafter, hcut]; simp
    | some sides =>
        obtain ⟨before, behind⟩ := sides
        simp only [Statement.ofLine, hafter, hcut]
        simp [hdollar]

theorem modifier?_dollar (command : Text) :
    modifier? ('$' :: command) = (Modifier.compile command).toOption.join := by
  rw [modifier?, ofLine_eq_modifier_iff.mpr rfl]

/-- The modifier of a line stands behind a dollar sign. -/
theorem modifier?_eq_some_iff {line : Text} {modifier : Modifier} :
    modifier? line = some modifier ↔
      ∃ command, line = '$' :: command ∧ Modifier.compile command = .ok (some modifier) := by
  simp only [← ofLine_eq_modifier_iff]
  cases hline : Statement.ofLine line with
  | modifier command =>
      cases hcompile : Modifier.compile command <;>
        simp [modifier?, hline, hcompile, Except.toOption]
  | rule source action => simp [modifier?, hline]
  | other => simp [modifier?, hline]

theorem ruleLine?_eq_some_iff {line : Text} {sides : Text × Text} :
    ruleLine? line = some sides ↔ Statement.ofLine line = .rule sides.1 sides.2 := by
  cases hline : Statement.ofLine line <;> simp [ruleLine?, hline, Prod.ext_iff]

/-- A rule line is one that begins with no dollar sign and holds an arrow. -/
theorem ruleLine?_isSome_iff (line : Text) :
    (ruleLine? line).isSome ↔ line.head? ≠ some '$' ∧ "=>".toList <:+: line := by
  rw [← Text.cutAt_isSome_iff, Option.isSome_iff_exists]
  simp only [ruleLine?_eq_some_iff, ofLine_eq_rule_iff, Option.isSome_iff_exists]
  constructor
  · rintro ⟨sides, hdollar, before, behind, hcut, -, -⟩
    exact ⟨hdollar, _, hcut⟩
  · rintro ⟨hdollar, ⟨before, behind⟩, hcut⟩
    exact ⟨(_, _), hdollar, before, behind, hcut, rfl, rfl⟩

/-- The pattern and the action of a line that makes a rule. -/
def rule? (line : Text) : Option (Pattern × Action) :=
  (ruleLine? line).bind compileSides?

/-- The lines before the first rule line. -/
def aboveRules (lines : List Text) : List Text :=
  lines.takeWhile fun line => (ruleLine? line).isNone

/-- The lines from the first rule line on. -/
def fromRules (lines : List Text) : List Text :=
  lines.dropWhile fun line => (ruleLine? line).isNone

theorem contents_modifiers (lines : List Text) :
    (contents lines).1 = modifiersOf (aboveRules lines) := by
  rw [contents, segments_before]
  rfl

/-- Every line that makes a rule makes one, in order, and no other line does. -/
theorem contents_rules (lines : List Text) :
    (contents lines).2.map (fun rule => (rule.pattern, rule.action)) =
      lines.filterMap rule? := by
  have hgroup : ∀ group : (Text × Text) × List Text,
      (ruleOf? group).map (fun rule => (rule.pattern, rule.action)) =
        compileSides? group.1 := by
    intro group
    cases hcompiled : compileSides? group.1 <;> simp [ruleOf?, hcompiled]
  calc (contents lines).2.map (fun rule => (rule.pattern, rule.action))
      = (segments ruleLine? lines).2.filterMap (fun group => compileSides? group.1) := by
        simp [contents, List.map_filterMap, hgroup]
    _ = ((segments ruleLine? lines).2.map Prod.fst).filterMap compileSides? := by
        rw [List.filterMap_map]
        rfl
    _ = lines.filterMap rule? := by
        rw [segments_marks, List.filterMap_filterMap]
        rfl

theorem length_contents_rules (lines : List Text) :
    (contents lines).2.length = (lines.filterMap rule?).length := by
  rw [← contents_rules, List.length_map]

/-- A rule line cuts its part in two, and the lines up to the next one are its own. -/
theorem contents_append_rule {line : Text} {sides : Text × Text}
    (hline : ruleLine? line = some sides) (before after : List Text) :
    contents (before ++ line :: after) =
      ((contents before).1, (contents before).2 ++
        ((ruleOf? (sides, aboveRules after)).toList ++ (contents (fromRules after)).2)) := by
  have hafter : (contents (fromRules after)).2 =
      (segments ruleLine? after).2.filterMap ruleOf? := by
    simp [contents, fromRules, segments_dropWhile]
  have habove : (segments ruleLine? after).1 = aboveRules after := segments_before _ after
  rw [hafter, contents, segments_append_mark ruleLine? hline, habove]
  cases hrule : ruleOf? (sides, aboveRules after) <;>
    simp [contents, hrule]

/-- What the lines of a part make of its modifiers and its rules. -/
structure Arranged (lines : List Text) (modifiers : List Modifier) (rules : List Rule) :
    Prop where
  /-- The part's own modifiers stand above its first rule line. -/
  own : modifiers = modifiersOf (aboveRules lines)
  /-- Every line that makes a rule makes one, in order, and no other line does. -/
  made : rules.map (fun rule => (rule.pattern, rule.action)) = lines.filterMap rule?
  /-- A rule has the modifiers between its own line and the next rule line. -/
  below : ∀ before line after compiled, lines = before ++ line :: after →
    rule? line = some compiled →
      rules[(before.filterMap rule?).length]? =
        some ⟨compiled.1, compiled.2, modifiersOf (aboveRules after)⟩
  /-- What stands below a rule line that makes no rule is attached to nothing: without it
  the part is the same. -/
  dropped : ∀ before line after, lines = before ++ line :: after →
    (ruleLine? line).isSome → rule? line = none →
      contents (before ++ line :: fromRules after) = (modifiers, rules)

theorem contents_arranged (lines : List Text) :
    Arranged lines (contents lines).1 (contents lines).2 where
  own := contents_modifiers lines
  made := contents_rules lines
  below := by
    rintro before line after compiled rfl hrule
    obtain ⟨sides, hline, hcompiled⟩ := Option.bind_eq_some_iff.mp hrule
    rw [contents_append_rule hline, ← length_contents_rules]
    simp [ruleOf?, hcompiled]
  dropped := by
    intro before line after hlines hsome hrule
    subst hlines
    obtain ⟨sides, hline⟩ := Option.isSome_iff_exists.mp hsome
    have hcompiled : compileSides? sides = none := by simpa [rule?, hline] using hrule
    have htwice : fromRules (fromRules after) = fromRules after := by
      exact List.dropWhile_idempotent _ after
    rw [contents_append_rule hline, contents_append_rule hline, htwice]
    simp [ruleOf?, hcompiled]

/-! ### The sections -/

/-- The lines before the first header. -/
def aboveHeaders (lines : List Text) : List Text :=
  lines.takeWhile fun line => (header? line).isNone

/-- What a header and the lines up to the next one make of a section.  The body of a disabled
section makes nothing. -/
structure Headed (name : Text) (body : List Text) (part : Section) : Prop where
  named : part.name = name
  active_iff : part.active = true ↔ name.head? ≠ some '#'
  arranged : part.active = true → Arranged body part.modifiers part.rules
  empty : part.active = false → part.modifiers = [] ∧ part.rules = []

theorem sectionOf_headed (name : Text) (body : List Text) :
    Headed name body (sectionOf (name, body)) := by
  have harranged := contents_arranged body
  by_cases hactive : isActiveName name
  · have hname : name.head? ≠ some '#' := by simpa [isActiveName] using hactive
    constructor <;> simp [sectionOf, hactive, hname, harranged]
  · have hname : name.head? = some '#' := by simpa [isActiveName] using hactive
    constructor <;> simp [sectionOf, hactive, hname]

theorem sectionOf_active (part : Text × List Text) :
    (sectionOf part).active = isActiveName part.1 := by
  by_cases hactive : isActiveName part.1 <;> simp [sectionOf, hactive]

/-- Every header makes a section, in order, and no other line does. -/
theorem grouping_sections_name (lines : List Text) :
    (grouping lines).sections.map Section.name = lines.filterMap header? := by
  have hname : Section.name ∘ sectionOf = Prod.fst := by
    funext part
    exact (sectionOf_headed part.1 part.2).named
  rw [grouping, List.map_map, hname, segments_marks]

/-- The section of a header stands at the place of the header among the headers. -/
theorem grouping_sections_getElem? {line name : Text} (hheader : header? line = some name)
    (before after : List Text) :
    (grouping (before ++ line :: after)).sections[(before.filterMap header?).length]? =
      some (sectionOf (name, aboveHeaders after)) := by
  have habove : (segments header? after).1 = aboveHeaders after := segments_before _ after
  have hindex : (before.filterMap header?).length = (segments header? before).2.length := by
    rw [← segments_marks, List.length_map]
  rw [grouping, segments_append_mark header? hheader, habove, hindex]
  simp

/-- The rules that can be selected are as many as the lines outside of disabled sections that
make one. -/
theorem ruleCount_grouping (lines : List Text) :
    (grouping lines).ruleCount = ((activeLines lines).filterMap rule?).length := by
  have hactive : (grouping lines).activeSections =
      ((segments header? lines).2.filter fun part => isActiveName part.1).map sectionOf := by
    have hcomp : Section.active ∘ sectionOf = fun part => isActiveName part.1 :=
      funext sectionOf_active
    rw [Ruleset.activeSections, grouping, List.filter_map, hcomp]
  have hlength : ∀ part ∈ (segments header? lines).2.filter fun part => isActiveName part.1,
      (sectionOf part).rules.length = (part.2.filterMap rule?).length := by
    intro part hpart
    have hname : isActiveName part.1 = true := (List.mem_filter.mp hpart).2
    simp [sectionOf, hname, length_contents_rules]
  simp only [Ruleset.ruleCount, Ruleset.entries, Ruleset.entriesOf, List.length_append,
    List.length_map, List.length_zipIdx, List.length_flatMap, hactive, List.map_map]
  rw [activeLines, List.filterMap_append, List.length_append, List.filterMap_flatMap,
    List.length_flatMap, ← length_contents_rules, grouping]
  congr 2
  exact List.map_congr_left hlength

/-- Reading a rules file is the grouping of its significant lines.  Every header makes a
section, and the lines before the first header and those of every active section are arranged
into modifiers and rules.  No line has any other effect on the rule set.  The lines that count and
the headers are told by their rules. -/
theorem parse_arranged (text : Text) :
    parse text = grouping (significantLines text) ∧
      Arranged (aboveHeaders (significantLines text)) (parse text).modifiers
        (parse text).rules ∧
      (parse text).sections.map Section.name = (significantLines text).filterMap header? ∧
      (∀ before line after name, significantLines text = before ++ line :: after →
        header? line = some name →
          ∃ part, (parse text).sections[(before.filterMap header?).length]? = some part ∧
            Headed name (aboveHeaders after) part) ∧
      (parse text).ruleCount =
        ((activeLines (significantLines text)).filterMap rule?).length ∧
      (∀ line, (ruleLine? line).isSome ↔ line.head? ≠ some '$' ∧ "=>".toList <:+: line) ∧
      LineRules significantLines header? := by
  have hroot : aboveHeaders (significantLines text) =
      (segments header? (significantLines text)).1 := (segments_before _ _).symm
  rw [parse_eq_grouping]
  refine ⟨rfl, ?_, grouping_sections_name _, ?_, ruleCount_grouping _, ruleLine?_isSome_iff,
    lineRules⟩
  · rw [hroot]
    exact contents_arranged _
  · intro before line after name hlines hheader
    rw [hlines]
    exact ⟨_, grouping_sections_getElem? hheader before after, sectionOf_headed name _⟩

namespace ArrangedWitness

/-- A rule that is dropped with its modifier, an active section and a disabled one. -/
def text : Text :=
  ("$Delay 1\na =>\n # $Delay 9\n\t$Delay 2\n/(/ => b\n$Delay 3\n".toList ++
    "[s]\n$Delay 4\nb =>\n[#t]\n$Delay 5\nc =>".toList)

def belowRule : List Text :=
  ["$Delay 2".toList, "/(/ => b".toList, "$Delay 3".toList]

def belowHeader : List Text :=
  ["$Delay 4".toList, "b =>".toList, "[#t]".toList, "$Delay 5".toList, "c =>".toList]

theorem significantLines_text :
    significantLines text =
      "$Delay 1".toList :: "a =>".toList :: (belowRule ++ "[s]".toList :: belowHeader) := by
  decide

end ArrangedWitness

open ArrangedWitness in
/-- The rule with a bad pattern takes the modifier below it along, and the disabled section leaves
only its name. -/
theorem parse_arranged_dropped :
    (parse text).modifiers = [.setDelay 1] ∧
      (parse text).rules[0]? = some ⟨.startsWith "http://a".toList, .abort, [.setDelay 2]⟩ ∧
      (parse text).rules.length = 1 ∧
      (parse text).sections.map Section.name = ["s".toList, "#t".toList] ∧
      (∃ part, (parse text).sections[0]? = some part ∧ part.modifiers = [.setDelay 4]) ∧
      (parse text).ruleCount = 2 := by
  obtain ⟨-, hroot, hnames, hsections, hcount, -⟩ := parse_arranged text
  have habove : aboveHeaders (significantLines text) =
      ["$Delay 1".toList] ++ "a =>".toList :: belowRule := by decide
  obtain ⟨part, hpart, hheaded⟩ := hsections
    ("$Delay 1".toList :: "a =>".toList :: belowRule) "[s]".toList belowHeader "s".toList
    significantLines_text (by decide)
  have hactive : part.active = true := hheaded.active_iff.mpr (by decide)
  refine ⟨hroot.own.trans (by decide), hroot.below _ _ belowRule _ habove rfl, ?_,
    hnames.trans (by decide), ⟨part, hpart, (hheaded.arranged hactive).own.trans (by decide)⟩,
    hcount.trans (by decide)⟩
  rw [← List.length_map (fun rule : Rule => (rule.pattern, rule.action)), hroot.made]
  decide

end RulesFile

end Reroute
