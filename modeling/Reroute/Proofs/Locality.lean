import Reroute.Proofs.Arrangement

/-!
A rules file is local: what stands behind a header changes nothing above it.  Appended
sections come after all that is there, so they are asked only for the requests that no rule
above them takes, and a disabled section is as good as none.
-/
namespace Reroute

namespace Ruleset

/-- An evaluation asks for nothing but the modifiers, the rules before any section and the
active sections. -/
theorem evaluate_congr {first second : Ruleset} (hmodifiers : first.modifiers = second.modifiers)
    (hrules : first.rules = second.rules)
    (hsections : first.activeSections = second.activeSections) (executor : Executor)
    (request : Request) : first.evaluate executor request = second.evaluate executor request := by
  have hentries : first.entries = second.entries := by
    rw [entries, entries, hrules, hsections]
  simp only [evaluate, select?, hentries, modifiersFor, hmodifiers]

/-- A rule set with more sections behind its own. -/
def withSections (ruleset : Ruleset) (sections : List Section) : Ruleset :=
  { ruleset with sections := ruleset.sections ++ sections }

/-- The modifiers of the file with sections alone. -/
def onlySections (ruleset : Ruleset) (sections : List Section) : Ruleset :=
  ⟨ruleset.modifiers, [], sections⟩

theorem entries_withSections (ruleset : Ruleset) (sections : List Section) :
    (ruleset.withSections sections).entries =
      ruleset.entries ++ (ruleset.onlySections sections).entries := by
  simp [entries, withSections, onlySections, activeSections, entriesOf]

/-- The first match wins: sections behind are asked when nothing before them matches. -/
theorem select?_withSections (ruleset : Ruleset) (sections : List Section) (url : Text) :
    (ruleset.withSections sections).select? url =
      (ruleset.select? url).or ((ruleset.onlySections sections).select? url) := by
  simp only [select?, entries_withSections, List.findSome?_append]

theorem evaluate_withSections_of_selected {ruleset : Ruleset} {request : Request}
    (hselected : (ruleset.select? request.url).isSome) (sections : List Section)
    (executor : Executor) :
    (ruleset.withSections sections).evaluate executor request =
      ruleset.evaluate executor request := by
  obtain ⟨selected, hselect⟩ := Option.isSome_iff_exists.mp hselected
  have hselect' : (ruleset.withSections sections).select? request.url = some selected := by
    rw [select?_withSections, hselect, Option.some_or]
  simp only [evaluate, hselect, hselect']
  rfl

theorem evaluate_withSections_of_none {ruleset : Ruleset} {request : Request}
    (hselected : ruleset.select? request.url = none) (sections : List Section)
    (executor : Executor) :
    (ruleset.withSections sections).evaluate executor request =
      (ruleset.onlySections sections).evaluate executor request := by
  have hselect : (ruleset.withSections sections).select? request.url =
      (ruleset.onlySections sections).select? request.url := by
    rw [select?_withSections, hselected, Option.none_or]
  simp only [evaluate, hselect]
  rfl

end Ruleset

namespace RulesFile

/-! ### Lines behind a header -/

/-- The lines that count among lines. -/
def significant (lines : List Text) : List Text :=
  (lines.map Text.trim).filter fun line => !line.isEmpty && line.head? != some '#'

theorem significant_append (first second : List Text) :
    significant (first ++ second) = significant first ++ significant second := by
  simp [significant]

/-- A header counts. -/
theorem significant_header {line name : Text} (hheader : header? (Text.trim line) = some name)
    (rest : List Text) : significant (line :: rest) = Text.trim line :: significant rest := by
  obtain ⟨inner, hinner, -, -⟩ := header?_eq_some_iff.mp hheader
  simp [significant, hinner]

/-- Lines that begin with a header, if there are any. -/
def HeaderFirst (lines : List Text) : Prop :=
  ∀ line, lines.head? = some line → (header? line).isSome

/-- Lines from a header on make their own sections and nothing else. -/
theorem grouping_append {behind : List Text} (hfirst : HeaderFirst behind)
    (lines : List Text) :
    grouping (lines ++ behind) = (grouping lines).withSections (grouping behind).sections := by
  cases behind with
  | nil => simp [grouping, segments, Ruleset.withSections]
  | cons line rest =>
      obtain ⟨name, hheader⟩ := Option.isSome_iff_exists.mp (hfirst line rfl)
      simp [grouping, segments_append_mark header? hheader, segments, hheader,
        Ruleset.withSections]

/-- A section changes nothing but itself: the lines around it are grouped on their own. -/
theorem grouping_section {line name : Text} (hheader : header? line = some name)
    (before : List Text) {body behind : List Text}
    (hbody : ∀ other ∈ body, header? other = none) (hfirst : HeaderFirst behind) :
    grouping (before ++ line :: body ++ behind) =
      (grouping before).withSections
        (sectionOf (name, body) :: (grouping behind).sections) := by
  rw [grouping_append hfirst, grouping_of_last_header hheader before hbody]
  simp [Ruleset.withSections]

/-! ### Disabling a section -/

/-- The header that disables the section of a name. -/
def disabledHeader (name : Text) : Text :=
  '[' :: '#' :: (name ++ [']'])

theorem header?_disabledHeader {line name : Text} (hheader : header? line = some name) :
    header? (Text.trim (disabledHeader name)) = some ('#' :: name) := by
  obtain ⟨inner, -, hclose, rfl⟩ := header?_eq_some_iff.mp hheader
  have hbracket : Text.isBlank '[' = false := by decide
  have hhash : Text.isBlank '#' = false := by decide
  have hend : Text.trimEnd ('#' :: (Text.trim inner ++ [']'])) =
      '#' :: (Text.trim inner ++ [']']) :=
    Text.trimEnd_concat ('#' :: Text.trim inner) (by decide)
  have htrim : Text.trim (disabledHeader (Text.trim inner)) =
      disabledHeader (Text.trim inner) := Text.trim_cons hbracket hend
  have hname : Text.trim ('#' :: Text.trim inner) = '#' :: Text.trim inner :=
    Text.trim_cons hhash (Text.trimEnd_trim inner)
  rw [htrim]
  refine header?_eq_some_iff.mpr ⟨'#' :: Text.trim inner, rfl, ?_, hname⟩
  intro hmem
  rcases List.mem_cons.mp hmem with hchar | hmem
  · exact absurd hchar (by decide)
  · exact hclose (Text.mem_of_mem_trim hmem)

/-- A text with the header in a line disabled. -/
def disableSection (text : Text) (index : Nat) (name : Text) : Text :=
  Text.unlines ((Text.lines text).set index (disabledHeader name))

/-- The lines below one, up to the next header. -/
def bodyBelow (lines : List Text) (index : Nat) : List Text :=
  (lines.drop (index + 1)).takeWhile fun line => (header? (Text.trim line)).isNone

/-- The lines from the next header below one on. -/
def fromNextHeader (lines : List Text) (index : Nat) : List Text :=
  (lines.drop (index + 1)).dropWhile fun line => (header? (Text.trim line)).isNone

/-- A text without the header in a line and its body. -/
def deleteSection (text : Text) (index : Nat) : Text :=
  Text.unlines ((Text.lines text).take index ++ fromNextHeader (Text.lines text) index)

example : disableSection "a =>\n[s]\nb =>\n[t]".toList 1 "s".toList =
    "a =>\n[#s]\nb =>\n[t]".toList := by decide

example : deleteSection "a =>\n[s]\nb =>\n[t]".toList 1 = "a =>\n[t]".toList := by decide

theorem lineFeed_notMem_disabledHeader {line name : Text} (hline : '\n' ∉ line)
    (hheader : header? (Text.trim line) = some name) : '\n' ∉ disabledHeader name := by
  obtain ⟨inner, hinner, -, rfl⟩ := header?_eq_some_iff.mp hheader
  have hname : '\n' ∉ Text.trim inner := by
    intro hmem
    apply hline
    apply Text.mem_of_mem_trim
    rw [hinner]
    simp [Text.mem_of_mem_trim hmem]
  simp [disabledHeader, hname]

/-- The lines that count in the text of lines. -/
theorem significantLines_unlines {lines : List Text} (hfeed : ∀ line ∈ lines, '\n' ∉ line) :
    significantLines (Text.unlines lines) = significant lines := by
  cases lines with
  | nil => rfl
  | cons first rest =>
      rw [significantLines, Text.lines_unlines (List.cons_ne_nil first rest) hfeed]
      rfl

theorem significant_fromNextHeader (lines : List Text) (index : Nat) :
    HeaderFirst (significant (fromNextHeader lines index)) := by
  have hnext := List.head?_dropWhile_not
    (fun line => (header? (Text.trim line)).isNone) (lines.drop (index + 1))
  cases hlines : fromNextHeader lines index with
  | nil => simp [HeaderFirst, significant]
  | cons line rest =>
      rw [fromNextHeader] at hlines
      rw [hlines] at hnext
      have hsome : (header? (Text.trim line)).isSome := by simpa using hnext
      obtain ⟨name, hheader⟩ := Option.isSome_iff_exists.mp hsome
      simp [HeaderFirst, significant_header hheader, hheader]

theorem significant_bodyBelow (lines : List Text) (index : Nat) :
    ∀ line ∈ significant (bodyBelow lines index), header? line = none := by
  intro line hline
  obtain ⟨other, hother, rfl⟩ := List.mem_map.mp (List.mem_filter.mp hline).1
  simpa using List.mem_takeWhile_imp hother

section Disable

variable {text line name : Text} {index : Nat}

/-- A text with a header disabled falls into what stands above the header, its body, and what
stands from the next header on. -/
theorem significantLines_disableSection (hline : (Text.lines text)[index]? = some line)
    (hheader : header? (Text.trim line) = some name) :
    significantLines (disableSection text index name) =
      significant ((Text.lines text).take index) ++ Text.trim (disabledHeader name) ::
          significant (bodyBelow (Text.lines text) index) ++
        significant (fromNextHeader (Text.lines text) index) := by
  obtain ⟨hindex, -⟩ := List.getElem?_eq_some_iff.mp hline
  have hsplit : (Text.lines text).set index (disabledHeader name) =
      (Text.lines text).take index ++ disabledHeader name ::
        (bodyBelow (Text.lines text) index ++ fromNextHeader (Text.lines text) index) := by
    rw [List.set_eq_take_append_cons_drop, if_pos hindex, bodyBelow, fromNextHeader,
      List.takeWhile_append_dropWhile]
  rw [disableSection, significantLines_unlines, hsplit, significant_append,
    significant_header (header?_disabledHeader hheader), significant_append]
  · simp
  · intro other hother
    rcases List.mem_or_eq_of_mem_set hother with hold | rfl
    · exact Text.lineFeed_notMem_of_mem_lines hold
    · have hfeed : '\n' ∉ line :=
        Text.lineFeed_notMem_of_mem_lines (List.mem_of_getElem? hline)
      exact lineFeed_notMem_disabledHeader hfeed hheader

theorem significantLines_deleteSection (text : Text) (index : Nat) :
    significantLines (deleteSection text index) =
      significant ((Text.lines text).take index) ++
        significant (fromNextHeader (Text.lines text) index) := by
  rw [deleteSection, significantLines_unlines, significant_append]
  intro other hother
  apply Text.lineFeed_notMem_of_mem_lines
  rcases List.mem_append.mp hother with htake | hdrop
  · exact List.mem_of_mem_take htake
  · exact List.mem_of_mem_drop ((List.dropWhile_sublist _).subset hdrop)

/-- A disabled section counts for nothing in an evaluation. -/
theorem evaluate_disabled (ruleset : Ruleset) (name : Text) (body : List Text)
    (sections : List Section) (executor : Executor) (request : Request) :
    (ruleset.withSections (sectionOf ('#' :: name, body) :: sections)).evaluate executor
        request =
      (ruleset.withSections sections).evaluate executor request := by
  apply Ruleset.evaluate_congr
  · rfl
  · rfl
  · simp [Ruleset.activeSections, Ruleset.withSections, sectionOf, isActiveName]

/-- Disabling a section is as good as deleting it. -/
theorem evaluate_disableSection (hline : (Text.lines text)[index]? = some line)
    (hheader : header? (Text.trim line) = some name) (executor : Executor)
    (request : Request) :
    (parse (disableSection text index name)).evaluate executor request =
      (parse (deleteSection text index)).evaluate executor request := by
  have hfirst := significant_fromNextHeader (Text.lines text) index
  rw [parse_eq_grouping, parse_eq_grouping, significantLines_disableSection hline hheader,
    significantLines_deleteSection,
    grouping_section (header?_disabledHeader hheader) _ (significant_bodyBelow _ _) hfirst,
    grouping_append hfirst]
  exact evaluate_disabled _ _ _ _ executor request

end Disable

/-- A configuration is local.  Text that begins with a header, put behind another, is asked
only for requests that no rule above takes, under the file's modifiers; and to disable a
section is to delete it. -/
theorem evaluate_local (executor : Executor) (request : Request) :
    (∀ a b : Text, (∃ line name rest, significantLines b = line :: rest ∧
        header? line = some name) →
      (((parse a).select? request.url).isSome →
        (parse (a ++ '\n' :: b)).evaluate executor request =
          (parse a).evaluate executor request) ∧
      ((parse a).select? request.url = none →
        (parse (a ++ '\n' :: b)).evaluate executor request =
          Ruleset.evaluate ⟨(parse a).modifiers, [], (parse b).sections⟩ executor request)) ∧
    ∀ (text line name : Text) (index : Nat), (Text.lines text)[index]? = some line →
      header? (Text.trim line) = some name →
        (parse (disableSection text index name)).evaluate executor request =
          (parse (deleteSection text index)).evaluate executor request := by
  constructor
  · rintro a b ⟨line, name, rest, hb, hheader⟩
    have hfirst : HeaderFirst (significantLines b) := by
      simp [HeaderFirst, hb, hheader]
    have happend : parse (a ++ '\n' :: b) = (parse a).withSections (parse b).sections := by
      simp only [parse_eq_grouping, significantLines_append]
      exact grouping_append hfirst _
    rw [happend]
    exact ⟨fun hselected => Ruleset.evaluate_withSections_of_selected hselected _ executor,
      fun hselected => Ruleset.evaluate_withSections_of_none hselected _ executor⟩
  · intro text line name index hline hheader
    exact evaluate_disableSection hline hheader executor request

namespace LocalityWitness

def above : Text := "a.test =>".toList

def below : Text := "[s]\nb.test =>".toList

def executor : Executor := fun _ => .error "no".toList

def requestFor (url : Text) : Request := { url := url, headers := Headers.empty }

end LocalityWitness

open LocalityWitness in
/-- The rule above keeps its requests, the section below gets others, and disabled it gets
none. -/
theorem evaluate_local_appended :
    (parse (above ++ '\n' :: below)).evaluate executor (requestFor "http://a.test/".toList) =
        (parse above).evaluate executor (requestFor "http://a.test/".toList) ∧
      (parse (above ++ '\n' :: below)).evaluate executor (requestFor "http://b.test/".toList) =
        Ruleset.evaluate ⟨(parse above).modifiers, [], (parse below).sections⟩ executor
          (requestFor "http://b.test/".toList) ∧
      (parse (disableSection below 0 "s".toList)).evaluate executor
          (requestFor "http://b.test/".toList) =
        (parse (deleteSection below 0)).evaluate executor
          (requestFor "http://b.test/".toList) := by
  have hbelow : ∃ line name rest, significantLines below = line :: rest ∧
      header? line = some name :=
    ⟨"[s]".toList, "s".toList, ["b.test =>".toList], by decide, by decide⟩
  refine ⟨?_, ?_, ?_⟩
  · exact ((evaluate_local executor _).1 above below hbelow).1 (by decide)
  · exact ((evaluate_local executor _).1 above below hbelow).2 (by decide)
  · exact (evaluate_local executor _).2 below "[s]".toList "s".toList 0 (by decide) (by decide)

end RulesFile

end Reroute
