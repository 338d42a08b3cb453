import Mathlib.Logic.Relation
import Reroute.Proofs.Arrangement
import Reroute.Proofs.Locality

/-!
The layout of a rules file carries no meaning.  A line tells something of the rule set if it is a
header, a rule line or a modifier with an effect, and the rule set is the grouping of these lines
alone, as they are when trimmed.  So line ends, blanks around lines and lines that tell nothing
may come and go: the main statement says it of any number of such changes, anywhere in the text.
-/
namespace Reroute.RulesFile

section Segments

variable {α β : Type} (mark? : α → Option β) (keep : α → Bool)

/-- Leaving out unmarked entries leaves the cuts where they are. -/
theorem segments_filter (hmarks : ∀ a, (mark? a).isSome → keep a = true) (entries : List α) :
    segments mark? (entries.filter keep) =
      ((segments mark? entries).1.filter keep,
        (segments mark? entries).2.map fun part => (part.1, part.2.filter keep)) := by
  induction entries with
  | nil => rfl
  | cons a rest ih =>
      cases hmark : mark? a with
      | some mark =>
          have hkeep : keep a = true := hmarks a (by rw [hmark]; rfl)
          rw [List.filter_cons_of_pos hkeep]
          simp [segments, hmark, ih]
      | none =>
          by_cases hkeep : keep a = true
          · rw [List.filter_cons_of_pos hkeep]
            simp [segments, hmark, ih, hkeep]
          · rw [List.filter_cons_of_neg hkeep, ih]
            simp [segments, hmark, hkeep]

end Segments

/-! ### Lines that tell something -/

/-- Whether a line tells something of the rule set. -/
def tells (line : Text) : Bool :=
  (header? line).isSome || (ruleLine? line).isSome || (modifier? line).isSome

theorem modifiersOf_filter_tells (lines : List Text) :
    modifiersOf (lines.filter tells) = modifiersOf lines := by
  rw [modifiersOf, List.filterMap_filter]
  refine List.filterMap_congr fun line _ => ?_
  cases hmodifier : modifier? line with
  | none => exact ite_self none
  | some modifier => simp [tells, hmodifier]

theorem contents_filter_tells (lines : List Text) :
    contents (lines.filter tells) = contents lines := by
  have hcut := segments_filter ruleLine? tells
    (fun line hrule => by simp [tells, hrule]) lines
  have hrule : ∀ group : (Text × Text) × List Text,
      ruleOf? (group.1, group.2.filter tells) = ruleOf? group := by
    intro group
    rw [ruleOf?, ruleOf?, modifiersOf_filter_tells]
  rw [contents, contents, hcut, modifiersOf_filter_tells, List.filterMap_map]
  exact congrArg _ (List.filterMap_congr fun group _ => hrule group)

theorem sectionOf_filter_tells (part : Text × List Text) :
    sectionOf (part.1, part.2.filter tells) = sectionOf part := by
  rw [sectionOf, sectionOf, contents_filter_tells]

/-- A rule set is told by the lines that tell something. -/
theorem grouping_filter_tells (lines : List Text) :
    grouping (lines.filter tells) = grouping lines := by
  have hcut := segments_filter header? tells
    (fun line hheader => by simp [tells, hheader]) lines
  rw [grouping, grouping, hcut, contents_filter_tells, List.map_map]
  exact congrArg _ (List.map_congr_left fun part _ => sectionOf_filter_tells part)

/-- What a line as it is written tells, if it tells something: the line without the blanks
around it. -/
def told? (line : Text) : Option Text :=
  (some (Text.trim line)).filter fun s => tells s && (!s.isEmpty && s.head? != some '#')

theorem filterMap_told? (lines : List Text) :
    lines.filterMap told? = (significant lines).filter tells := by
  rw [significant, List.filter_filter, ← List.filterMap_eq_map, List.filter_filterMap]
  rfl

theorem parse_eq_grouping_told (text : Text) :
    parse text = grouping ((Text.lines text).filterMap told?) := by
  rw [filterMap_told?, grouping_filter_tells, parse_eq_grouping]
  rfl

/-! ### Lines that tell nothing -/

/-- Lines that tell nothing of the rule set. -/
inductive Inert (line : Text) : Prop
  | blank (hblank : ∀ c ∈ line, Text.isBlank c = true)
  | comment (hhash : (Text.trim line).head? = some '#')
  | noise (hheader : header? (Text.trim line) = none)
      (hdollar : (Text.trim line).head? ≠ some '$') (harrow : ¬"=>".toList <:+: Text.trim line)
  | unknownCommand {command : Text} (hline : Text.trim line = '$' :: command)
      (hword : Modifier.Command.ofWord? (Modifier.commandWord command) = none)
  | noEffect {command : Text} (hline : Text.trim line = '$' :: command)
      (hcompile : Modifier.compile command = .ok none)

theorem modifier?_of_head {line : Text} (hdollar : line.head? ≠ some '$') :
    modifier? line = none := by
  rw [Option.eq_none_iff_forall_ne_some]
  intro modifier hmodifier
  obtain ⟨command, rfl, -⟩ := modifier?_eq_some_iff.mp hmodifier
  exact hdollar rfl

theorem tells_dollar {command : Text}
    (hcompile : (Modifier.compile command).toOption.join = none) :
    tells ('$' :: command) = false := by
  have hrule : ruleLine? ('$' :: command) = none := by
    rw [ruleLine?, ofLine_eq_modifier_iff.mpr rfl]
  simp [tells, header?_dollar, hrule, modifier?_dollar, hcompile]

theorem Inert.told?_eq_none {line : Text} (hinert : Inert line) : told? line = none := by
  rw [told?, Option.filter_some, if_neg]
  rw [Bool.and_eq_true, not_and_or]
  cases hinert with
  | blank hblank => exact Or.inr (by simp [Text.trim_of_blank hblank])
  | comment hhash => exact Or.inr (by simp [hhash])
  | noise hheader hdollar harrow =>
      have hrule : ruleLine? (Text.trim line) = none := by
        rw [← Option.not_isSome_iff_eq_none, ruleLine?_isSome_iff]
        exact fun hline => harrow hline.2
      exact Or.inl (by simp [tells, hheader, hrule, modifier?_of_head hdollar])
  | unknownCommand hline hword =>
      have hcompile := Modifier.compile_eq_error_iff.mpr ⟨hword, rfl⟩
      rw [hline, tells_dollar (by simp [hcompile, Except.toOption])]
      exact Or.inl Bool.false_ne_true
  | noEffect hline hcompile =>
      rw [hline, tells_dollar (by simp [hcompile, Except.toOption])]
      exact Or.inl Bool.false_ne_true

/-! ### Changes of layout -/

/-- Blanks that do not end a line. -/
def IsPadding (s : Text) : Prop :=
  ∀ c ∈ s, Text.isBlank c = true ∧ c ≠ '\n'

/-- A change to the layout of a text: one line end is written with a carriage return, one line
gets blanks around it, or a line that tells nothing is put in or taken out. -/
inductive LayoutChange : Text → Text → Prop
  | carriageReturn (before after : Text) :
      LayoutChange (before ++ '\n' :: after) (before ++ '\r' :: '\n' :: after)
  | pad {text line left right : Text} {above below : List Text}
      (hlines : Text.lines text = above ++ line :: below) (hleft : IsPadding left)
      (hright : IsPadding right) :
      LayoutChange text (Text.unlines (above ++ (left ++ line ++ right) :: below))
  | insert {text line : Text} {above below : List Text}
      (hlines : Text.lines text = above ++ below) (hfeed : '\n' ∉ line) (hinert : Inert line) :
      LayoutChange text (Text.unlines (above ++ line :: below))
  | delete {text line : Text} {above below : List Text}
      (hlines : Text.lines text = above ++ line :: below) (hinert : Inert line) :
      LayoutChange text (Text.unlines (above ++ below))

/-- Lines may take the place of others that tell the same. -/
theorem filterMap_told?_replace {text : Text} (above old new below : List Text)
    (hlines : Text.lines text = above ++ old ++ below) (hfeed : ∀ line ∈ new, '\n' ∉ line)
    (htold : new.filterMap told? = old.filterMap told?) :
    (Text.lines (Text.unlines (above ++ new ++ below))).filterMap told? =
      (Text.lines text).filterMap told? := by
  have hall : ∀ line ∈ above ++ new ++ below, '\n' ∉ line := by
    have hold : ∀ line ∈ above ++ old ++ below, '\n' ∉ line := by
      rw [← hlines]
      exact fun line hline => Text.lineFeed_notMem_of_mem_lines hline
    simp only [List.forall_mem_append] at hold ⊢
    exact ⟨⟨hold.1.1, hfeed⟩, hold.2⟩
  have hread : (Text.lines (Text.unlines (above ++ new ++ below))).filterMap told? =
      (above ++ new ++ below).filterMap told? := by
    -- The text of no lines at all is read as one empty line, which tells nothing.
    cases hnew : above ++ new ++ below with
    | nil => rfl
    | cons first rest =>
        rw [hnew] at hall
        rw [Text.lines_unlines (List.cons_ne_nil first rest) hall]
  rw [hread, hlines]
  simp only [List.filterMap_append, htold]

theorem told?_pad (line : Text) {left right : Text} (hleft : IsPadding left)
    (hright : IsPadding right) : told? (left ++ line ++ right) = told? line := by
  rw [told?, told?, Text.trim_surround line (fun c hc => (hleft c hc).1)
    fun c hc => (hright c hc).1]

/-- A change of layout changes nothing of what is told. -/
theorem LayoutChange.filterMap_told? {text other : Text} (hchange : LayoutChange text other) :
    (Text.lines other).filterMap told? = (Text.lines text).filterMap told? := by
  cases hchange with
  | carriageReturn before after =>
      have hreturn : IsPadding ['\r'] := by
        intro c hc
        rw [List.mem_singleton.mp hc]
        exact ⟨by decide, by decide⟩
      obtain ⟨init, last, hbefore, hreturned⟩ :=
        Text.lines_append_of_notMem before (t := ['\r']) (by decide)
      have hnothing : IsPadding [] := fun c hc => absurd hc List.not_mem_nil
      have hlast := told?_pad last hnothing hreturn
      rw [List.nil_append] at hlast
      rw [Text.lines_append, hbefore, List.append_cons before, Text.lines_append, hreturned]
      simp only [List.filterMap_append, List.filterMap_cons, hlast]
  | @pad _ line left right above below hlines hleft hright =>
      rw [List.append_cons]
      refine filterMap_told?_replace above [line] _ below (by rw [hlines, List.append_cons]) ?_ ?_
      · intro padded hpadded
        have hline : '\n' ∉ line :=
          Text.lineFeed_notMem_of_mem_lines (s := text) (by simp [hlines])
        rw [List.mem_singleton.mp hpadded]
        simp only [List.mem_append, not_or]
        exact ⟨⟨fun hmem => (hleft _ hmem).2 rfl, hline⟩, fun hmem => (hright _ hmem).2 rfl⟩
      · simp only [List.filterMap_cons, told?_pad line hleft hright]
  | @insert _ line above below hlines hfeed hinert =>
      rw [List.append_cons]
      refine filterMap_told?_replace above [] _ below (by rw [hlines, List.append_nil]) ?_ ?_
      · simpa using hfeed
      · simp only [List.filterMap_cons, hinert.told?_eq_none]
  | @delete _ line above below hlines hinert =>
      rw [← List.append_nil above]
      refine filterMap_told?_replace above [line] [] below (by rw [hlines, List.append_cons]) ?_ ?_
      · simp
      · simp only [List.filterMap_cons, hinert.told?_eq_none]

theorem LayoutChange.parse_eq {text other : Text} (hchange : LayoutChange text other) :
    parse other = parse text := by
  rw [parse_eq_grouping_told, parse_eq_grouping_told, hchange.filterMap_told?]

/-- Layout carries no meaning: after any number of changes to it, anywhere in the text, the same
rule set is read. -/
theorem parse_layout {text other : Text}
    (hchanges : Relation.ReflTransGen LayoutChange text other) : parse other = parse text := by
  induction hchanges with
  | refl => rfl
  | tail _ hchange ih => rw [hchange.parse_eq, ih]

namespace LayoutWitness

def rule : Text := "a =>\r".toList

def delay : Text := "$Delay 5".toList

def unknown : Text := "$Frobnicate".toList

def tidy : Text := "a =>\n\n$Delay 5".toList

def untidy : Text := "a =>\r\n$Frobnicate\n\t$Delay 5\u3000".toList

theorem inert_unknown : Inert unknown :=
  .unknownCommand (show Text.trim unknown = '$' :: "Frobnicate".toList by decide) (by decide)

theorem isPadding_blanks : IsPadding "\t".toList ∧ IsPadding "\u3000".toList := by
  simp [IsPadding, Text.isBlank]

theorem untidied : Relation.ReflTransGen LayoutChange tidy untidy := by
  have hreturned : LayoutChange tidy (rule ++ '\n' :: '\n' :: delay) :=
    .carriageReturn "a =>".toList ('\n' :: delay)
  have hdeleted := LayoutChange.delete
    (show Text.lines (rule ++ '\n' :: '\n' :: delay) = [rule] ++ [] :: [delay] by decide)
    (.blank (by simp))
  have hinserted := LayoutChange.insert
    (show Text.lines (Text.unlines [rule, delay]) = [rule] ++ [delay] by decide)
    (by decide) inert_unknown
  have hpadded := LayoutChange.pad
    (show Text.lines (Text.unlines [rule, unknown, delay]) = [rule, unknown] ++ delay :: []
      by decide)
    isPadding_blanks.1 isPadding_blanks.2
  exact (((Relation.ReflTransGen.single hreturned).tail hdeleted).tail hinserted).tail hpadded

end LayoutWitness

open LayoutWitness in
/-- Every kind of change at once, around a rule with a delay. -/
theorem parse_layout_untidy :
    Relation.ReflTransGen LayoutChange tidy untidy ∧ parse untidy = parse tidy ∧
      (parse untidy).rules.map Rule.modifiers = [[.setDelay 5]] := by
  have hsame : parse untidy = parse tidy := parse_layout untidied
  refine ⟨untidied, hsame, ?_⟩
  rw [hsame]
  rfl

end Reroute.RulesFile
