import Reroute.Proofs.Arrangement
import Reroute.Proofs.Locality

/-!
Warnings are local and complete.  What is wrong with a line is said of the line alone, and a line
is warned of exactly where something is wrong with it and it stands outside of disabled sections.
The main statement lists the warnings of every text by the places of its lines.
-/
namespace Reroute.RulesFile

/-! ### Lines outside of disabled sections -/

/-- Whether what stands below lines is outside of disabled sections: the last header, if there
is one, has a name that leaves its section active. -/
def isOpenBelow (above : List Text) : Bool :=
  (above.filterMap header?).getLast?.all isActiveName

/-- The lines outside of disabled sections, less the headers, are told one by one from the last
header above each. -/
theorem activeLines_concat (lines : List Text) (line : Text) :
    activeLines (lines ++ [line]) =
      activeLines lines ++
        if (header? line).isNone && isOpenBelow lines then [line] else [] := by
  cases hheader : header? line with
  | some name =>
      have hlast := activeLines_of_last_header hheader lines (List.forall_mem_nil _)
      simpa using hlast
  | none =>
      have hmarks := segments_marks header? lines
      -- The line joins what stands before the first header, or the part of the last one.
      rcases segments_concat_unmarked header? hheader lines with
        ⟨hlines, hconcat⟩ | ⟨before, parts, name, body, hlines, hconcat⟩
      · rw [hlines] at hmarks
        simp [activeLines, isOpenBelow, hlines, hconcat, ← hmarks]
      · rw [hlines] at hmarks
        by_cases hactive : isActiveName name <;>
          simp [activeLines, isOpenBelow, hlines, hconcat, ← hmarks, hactive]

/-! ### Warnings by place -/

/-- What a line gives reason to warn of, wherever it stands. -/
def lineWarning? (line : Text) : Option Warning :=
  if (header? line).isSome then none else warning? line

/-- The warning at a place of lines. -/
def warningAt? (lines : List Text) (place : Nat) : Option Warning :=
  if isOpenBelow (lines.take place) then lines[place]?.bind lineWarning? else none

/-- A line more leaves the warnings of the others and may bring its own. -/
theorem filterMap_warningAt?_concat (lines : List Text) (line : Text) :
    (List.range (lines ++ [line]).length).filterMap (warningAt? (lines ++ [line])) =
      (List.range lines.length).filterMap (warningAt? lines) ++
        (if isOpenBelow lines then lineWarning? line else none).toList := by
  have hothers : ∀ place ∈ List.range lines.length,
      warningAt? (lines ++ [line]) place = warningAt? lines place := by
    intro place hplace
    have hlt := List.mem_range.mp hplace
    rw [warningAt?, warningAt?, List.take_append_of_le_length (Nat.le_of_lt hlt),
      List.getElem?_append_left hlt]
  have hown : warningAt? (lines ++ [line]) lines.length =
      if isOpenBelow lines then lineWarning? line else none := by
    simp [warningAt?]
  rw [List.length_append, List.length_singleton, List.range_succ, List.filterMap_append,
    List.filterMap_congr hothers, List.filterMap_cons, hown]
  cases (if isOpenBelow lines then lineWarning? line else none) <;> rfl

/-- The places give the warnings of the lines outside of disabled sections. -/
theorem filterMap_warningAt? (lines : List Text) :
    (List.range lines.length).filterMap (warningAt? lines) =
      (activeLines lines).filterMap warning? := by
  induction lines using List.reverseRecOn with
  | nil => rfl
  | append_singleton lines line ih =>
      have hown : (if isOpenBelow lines then lineWarning? line else none).toList =
          (if (header? line).isNone && isOpenBelow lines then [line] else []).filterMap
            warning? := by
        cases hheader : header? line <;> cases hopen : isOpenBelow lines <;>
          cases hwarning : warning? line <;> simp [lineWarning?, hheader, hwarning]
      rw [filterMap_warningAt?_concat, activeLines_concat, List.filterMap_append, ih, hown]

theorem warnings_eq_filterMap (text : Text) :
    warnings text = (activeLines (significantLines text)).filterMap warning? :=
  (foldl_readLine_start (significantLines text)).2

/-! ### What is wrong with a line -/

/-- The two sides of a rule line: it is no header, begins with no dollar sign, and is cut at its
first arrow. -/
structure IsRuleLine (line source action : Text) : Prop where
  header : header? line = none
  dollar : line.head? ≠ some '$'
  arrow : ∃ before behind, Text.cutAt "=>".toList line = some (before, behind) ∧
    Text.trim before = source ∧ Text.trim behind = action

/-- What is wrong with a line: a modifier with a word that is no command, a rule with a pattern
that does not compile, or a rule for a proxy that its target does not name. -/
inductive Defect (line : Text) : Warning → Prop
  | unknownCommand {command : Text} (hline : line = '$' :: command)
      (hword : Modifier.Command.ofWord? (Modifier.commandWord command) = none) :
      Defect line (.unknownCommand ⟨Modifier.commandWord command⟩)
  | skippedRule {source action : Text} {error : Regex.Error}
      (hline : IsRuleLine line source action) (hpattern : Pattern.compile source = .error error) :
      Defect line (.skippedRule line error)
  | malformedTarget {source action target : Text} {pattern : Pattern}
      (hline : IsRuleLine line source action) (hpattern : Pattern.compile source = .ok pattern)
      (haction : action = "proxy:".toList ++ target)
      (htarget : NextHop.parse? (Text.trim target) = none) :
      Defect line (.malformedTarget target)

theorem malformedTarget?_eq_some_iff {action target : Text} :
    Action.malformedTarget? action = some target ↔
      action = "proxy:".toList ++ target ∧ NextHop.parse? (Text.trim target) = none := by
  rw [Action.malformedTarget?, Option.filter_eq_some_iff, Option.isNone_iff_eq_none,
    Action.proxyTarget?, Text.after?_eq_some_iff, eq_comm]

theorem isRuleLine_iff {line source action : Text} :
    IsRuleLine line source action ↔
      header? line = none ∧ Statement.ofLine line = .rule source action := by
  rw [ofLine_eq_rule_iff]
  exact ⟨fun hline => ⟨hline.header, hline.dollar, hline.arrow⟩,
    fun hline => ⟨hline.1, hline.2.1, hline.2.2⟩⟩

theorem Defect.header?_eq_none {line : Text} {warning : Warning} (hdefect : Defect line warning) :
    header? line = none := by
  cases hdefect with
  | unknownCommand hline hword => rw [hline, header?_dollar]
  | skippedRule hline hpattern => exact hline.header
  | malformedTarget hline hpattern haction htarget => exact hline.header

/-- A line that is no header is warned of with what is wrong with it. -/
theorem warning?_eq_some_iff {line : Text} {warning : Warning} (hheader : header? line = none) :
    warning? line = some warning ↔ Defect line warning := by
  constructor
  · intro hwarning
    cases hline : Statement.ofLine line with
    | modifier command =>
        cases hcompile : Modifier.compile command with
        | ok effect => simp [warning?, hline, hcompile] at hwarning
        | error error =>
            obtain ⟨hword, rfl⟩ := Modifier.compile_eq_error_iff.mp hcompile
            obtain rfl : _ = warning := by simpa [warning?, hline, hcompile] using hwarning
            exact .unknownCommand (ofLine_eq_modifier_iff.mp hline) hword
    | rule source action =>
        have hrule : IsRuleLine line source action := isRuleLine_iff.mpr ⟨hheader, hline⟩
        cases hpattern : Pattern.compile source with
        | error error =>
            obtain rfl : _ = warning := by simpa [warning?, hline, hpattern] using hwarning
            exact .skippedRule hrule hpattern
        | ok pattern =>
            have htarget : (Action.malformedTarget? action).map .malformedTarget =
                some warning := by simpa [warning?, hline, hpattern] using hwarning
            obtain ⟨target, hmalformed, rfl⟩ := Option.map_eq_some_iff.mp htarget
            obtain ⟨haction, hparse⟩ := malformedTarget?_eq_some_iff.mp hmalformed
            exact .malformedTarget hrule hpattern haction hparse
    | other => simp [warning?, hline] at hwarning
  · intro hdefect
    cases hdefect with
    | unknownCommand hline hword =>
        have hcompile := Modifier.compile_eq_error_iff.mpr ⟨hword, rfl⟩
        simp [warning?, ofLine_eq_modifier_iff.mpr hline, hcompile]
    | skippedRule hline hpattern =>
        simp [warning?, (isRuleLine_iff.mp hline).2, hpattern]
    | malformedTarget hline hpattern haction htarget =>
        have hmalformed := malformedTarget?_eq_some_iff.mpr ⟨haction, htarget⟩
        simp [warning?, (isRuleLine_iff.mp hline).2, hpattern, hmalformed]

theorem lineWarning?_eq_some_iff {line : Text} {warning : Warning} :
    lineWarning? line = some warning ↔ Defect line warning := by
  cases hheader : header? line with
  | none =>
      rw [lineWarning?, hheader]
      exact warning?_eq_some_iff hheader
  | some name =>
      rw [lineWarning?, hheader]
      constructor
      · exact fun hwarning => nomatch hwarning
      · intro hdefect
        rw [hdefect.header?_eq_none] at hheader
        exact nomatch hheader

/-- The warnings of a rules file, in the order of its lines: a line that counts is warned of with
what is wrong with it if the last header above it leaves its section active, and no other line
is.  What is wrong with a line is a matter of that line alone, and so is whether it counts and
whether it is a header. -/
theorem warnings_by_line (text : Text) :
    warnings text =
        (List.range (significantLines text).length).filterMap
          (warningAt? (significantLines text)) ∧
      (∀ line warning, lineWarning? line = some warning ↔ Defect line warning) ∧
      LineRules significantLines header? :=
  ⟨(warnings_eq_filterMap text).trans (filterMap_warningAt? _).symm,
    fun _ _ => lineWarning?_eq_some_iff, lineRules⟩

/-- The disabled section is not warned of, though its line is the one of the section below. -/
theorem warnings_by_line_disabled :
    warnings "[#off]\n$Delya 5\n[on]\n$Delya 5\n/(/ =>".toList =
        [.unknownCommand ⟨"Delya".toList⟩, .skippedRule "/(/ =>".toList .unclosedGroup] ∧
      Defect "$Delya 5".toList (.unknownCommand ⟨"Delya".toList⟩) := by
  obtain ⟨hwarnings, hdefect, -⟩ :=
    warnings_by_line "[#off]\n$Delya 5\n[on]\n$Delya 5\n/(/ =>".toList
  exact ⟨hwarnings.trans (by decide), (hdefect _ _).mp (by decide)⟩

end Reroute.RulesFile
