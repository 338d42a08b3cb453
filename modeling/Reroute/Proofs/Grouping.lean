import Reroute.RulesFile
import Mathlib.Data.List.Basic

/-!
The grouping of a rules file, told without a scope.  The lines that count are cut at the
headers, and the lines of each part at the rules.  What stands before the first cut belongs
to the part itself, and what stands behind a cut to the header or the rule that made it.
-/
namespace Reroute.RulesFile

/-! ### Cutting at marks -/

section Segments

variable {α β : Type}

/-- Cut a list at its marked entries: what stands before the first of them, and the mark of
each with what stands behind it. -/
def segments (mark? : α → Option β) : List α → List α × List (β × List α)
  | [] => ([], [])
  | a :: rest =>
      match mark? a with
      | some mark => ([], (mark, (segments mark? rest).1) :: (segments mark? rest).2)
      | none => (a :: (segments mark? rest).1, (segments mark? rest).2)

variable (mark? : α → Option β)

/-- There is a part for every mark, in order. -/
theorem segments_marks (entries : List α) :
    (segments mark? entries).2.map Prod.fst = entries.filterMap mark? := by
  induction entries with
  | nil => rfl
  | cons a rest ih =>
      cases hmark : mark? a with
      | none => simpa [segments, hmark] using ih
      | some mark => simpa [segments, hmark] using ih

/-- Before the first mark stands what comes before it. -/
theorem segments_before (entries : List α) :
    (segments mark? entries).1 = entries.takeWhile fun a => (mark? a).isNone := by
  induction entries with
  | nil => rfl
  | cons a rest ih =>
      cases hmark : mark? a with
      | none => simp [segments, hmark, ih]
      | some mark => simp [segments, hmark]

theorem segments_of_unmarked {entries : List α} (hnone : ∀ a ∈ entries, mark? a = none) :
    segments mark? entries = (entries, []) := by
  induction entries with
  | nil => rfl
  | cons a rest ih =>
      have hrest := ih fun b hb => hnone b (List.mem_cons_of_mem a hb)
      simp [segments, hnone a List.mem_cons_self, hrest]

/-- A mark ends the part before it, so the parts on both sides of it are cut on their own. -/
theorem segments_append_mark {a : α} {mark : β} (hmark : mark? a = some mark)
    (before after : List α) :
    segments mark? (before ++ a :: after) =
      ((segments mark? before).1,
        (segments mark? before).2 ++
          (mark, (segments mark? after).1) :: (segments mark? after).2) := by
  induction before with
  | nil => simp [segments, hmark]
  | cons b rest ih =>
      cases hb : mark? b with
      | none => simp [segments, hb, ih]
      | some other => simp [segments, hb, ih]

/-- A list has no mark, or a last one with nothing but unmarked entries behind it. -/
theorem unmarked_or_last_mark (entries : List α) :
    (∀ a ∈ entries, mark? a = none) ∨
      ∃ before a mark after, entries = before ++ a :: after ∧ mark? a = some mark ∧
        ∀ b ∈ after, mark? b = none := by
  induction entries with
  | nil => exact Or.inl (by simp)
  | cons b rest ih =>
      rcases ih with hnone | ⟨before, a, mark, after, rfl, hmark, hafter⟩
      · cases hb : mark? b with
        | none =>
            refine Or.inl fun c hc => ?_
            rcases List.mem_cons.mp hc with rfl | hc
            · exact hb
            · exact hnone c hc
        | some mark => exact Or.inr ⟨[], b, mark, rest, rfl, hb, hnone⟩
      · exact Or.inr ⟨b :: before, a, mark, after, rfl, hmark, hafter⟩

/-- The last part, where there is one, holds all entries behind the last mark. -/
theorem segments_last_mark {a : α} {mark : β} (hmark : mark? a = some mark)
    (before : List α) {after : List α} (hafter : ∀ b ∈ after, mark? b = none) :
    segments mark? (before ++ a :: after) =
      ((segments mark? before).1, (segments mark? before).2 ++ [(mark, after)]) := by
  rw [segments_append_mark mark? hmark, segments_of_unmarked mark? hafter]

theorem segments_concat_mark {a : α} {mark : β} (hmark : mark? a = some mark)
    (entries : List α) :
    segments mark? (entries ++ [a]) =
      ((segments mark? entries).1, (segments mark? entries).2 ++ [(mark, [])]) :=
  segments_last_mark mark? hmark entries (by simp)

/-- An unmarked entry at the end joins the last part. -/
theorem segments_concat_unmarked {a : α} (hmark : mark? a = none) (entries : List α) :
    (segments mark? entries = (entries, []) ∧
        segments mark? (entries ++ [a]) = (entries ++ [a], [])) ∨
      ∃ before parts mark part,
        segments mark? entries = (before, parts ++ [(mark, part)]) ∧
          segments mark? (entries ++ [a]) = (before, parts ++ [(mark, part ++ [a])]) := by
  rcases unmarked_or_last_mark mark? entries with
    hnone | ⟨before, b, mark, after, rfl, hb, hafter⟩
  · have hnone' : ∀ c ∈ entries ++ [a], mark? c = none := by
      simpa [or_imp, forall_and, hmark] using hnone
    exact Or.inl ⟨segments_of_unmarked mark? hnone, segments_of_unmarked mark? hnone'⟩
  · have hafter' : ∀ c ∈ after ++ [a], mark? c = none := by
      simpa [or_imp, forall_and, hmark] using hafter
    refine Or.inr ⟨_, _, mark, after, segments_last_mark mark? hb before hafter, ?_⟩
    rw [List.append_assoc, List.cons_append]
    exact segments_last_mark mark? hb before hafter'

end Segments

/-! ### Lines of a part -/

/-- The two sides of a rule line, also where the pattern does not compile. -/
def ruleLine? (line : Text) : Option (Text × Text) :=
  match Statement.ofLine line with
  | .rule source action => some (source, action)
  | .modifier _ => none
  | .other => none

/-- The modifier of a line that holds one which can be read and has an effect. -/
def modifier? (line : Text) : Option Modifier :=
  match Statement.ofLine line with
  | .modifier command => (Modifier.compile command).toOption.join
  | .rule _ _ => none
  | .other => none

/-- What a line gives reason to warn of. -/
def warning? (line : Text) : Option Warning :=
  match Statement.ofLine line with
  | .modifier command =>
      match Modifier.compile command with
      | .ok _ => none
      | .error error => some (.unknownCommand error)
  | .rule source action =>
      match Pattern.compile source with
      | .ok _ => (Action.malformedTarget? action).map .malformedTarget
      | .error error => some (.skippedRule line error)
  | .other => none

/-- The effective modifiers of lines, in order. -/
def modifiersOf (lines : List Text) : List Modifier :=
  lines.filterMap modifier?

/-- The pattern and the action of the two sides of a rule, if the pattern compiles. -/
def compileSides? (sides : Text × Text) : Option (Pattern × Action) :=
  (Pattern.compile sides.1).toOption.map fun pattern =>
    (pattern, Action.compile pattern sides.2)

/-- The rule of two sides with the lines below it. -/
def ruleOf? (group : (Text × Text) × List Text) : Option Rule :=
  (compileSides? group.1).map fun compiled =>
    ⟨compiled.1, compiled.2, modifiersOf group.2⟩

/-- The modifiers and rules of a part, which is cut at its rule lines. -/
def contents (lines : List Text) : List Modifier × List Rule :=
  (modifiersOf (segments ruleLine? lines).1, (segments ruleLine? lines).2.filterMap ruleOf?)

/-- The section of a header's name with the lines below it. -/
def sectionOf (part : Text × List Text) : Section :=
  if isActiveName part.1 then ⟨part.1, true, (contents part.2).1, (contents part.2).2⟩
  else ⟨part.1, false, [], []⟩

/-- The rule set of the lines that count, which are cut at the headers. -/
def grouping (lines : List Text) : Ruleset :=
  ⟨(contents (segments header? lines).1).1, (contents (segments header? lines).1).2,
    (segments header? lines).2.map sectionOf⟩

/-- The lines that stand in no disabled section, less the headers. -/
def activeLines (lines : List Text) : List Text :=
  (segments header? lines).1 ++
    ((segments header? lines).2.filter fun part => isActiveName part.1).flatMap Prod.snd

end Reroute.RulesFile
