import Reroute.Proofs.FilePath

/-!
Templates of groups.  Behind a regular expression, a template without `~` and without names in
braces refers to nothing but the groups of the match.  These are settled when the rule is
selected, and no suffix of the URL joins the template.  The main statement: whatever the modifiers
do before the action, the new URL, the command or the body is the same.
-/
namespace Reroute

namespace Template

/-- A template in which only numbers can be placeholders. -/
structure GroupsOnly (template : Text) : Prop where
  root : '~' ∉ template
  brace : ¬['$', '{'] <:+: template

instance (template : Text) : Decidable (GroupsOnly template) :=
  decidable_of_iff ('~' ∉ template ∧ ¬['$', '{'] <:+: template)
    ⟨fun hgroups => ⟨hgroups.1, hgroups.2⟩, fun hgroups => ⟨hgroups.root, hgroups.brace⟩⟩

theorem GroupsOnly.of_suffix {template rest : Text} (hgroups : GroupsOnly template)
    (hrest : rest <:+ template) : GroupsOnly rest where
  root hmem := hgroups.root (hrest.subset hmem)
  brace hfound := hgroups.brace (hfound.trans hrest.isInfix)

/-- A placeholder at the beginning of such a template is a number. -/
theorem GroupsOnly.reads {m after : Text} {piece : Piece} (hgroups : GroupsOnly (m ++ after))
    (hreads : Reads m piece) : ∃ digits, piece = .group digits := by
  have hbraced : ∀ name, m ≠ braced name := by
    rintro name rfl
    exact hgroups.brace ⟨[], name ++ ['}'] ++ after, by simp [braced]⟩
  cases hreads with
  | root => exact absurd (List.mem_append_left after List.mem_cons_self) hgroups.root
  | group hne hdigits => exact ⟨_, rfl⟩
  | plain hne hclose hplain => exact absurd rfl (hbraced _)
  | encoded hne hclose => exact absurd rfl (hbraced _)
  | ampersand => exact absurd rfl (hbraced _)

/-- Its pieces are characters and numbers. -/
theorem GroupsOnly.mem_pieces {template : Text} (hgroups : GroupsOnly template) :
    ∀ piece ∈ pieces template, (∃ c, piece = .char c) ∨ ∃ digits, piece = .group digits := by
  induction template using pieces_induction with
  | nil => simp [pieces]
  | reads m first after hreads hlongest ih =>
      rw [pieces_of_reads hreads hlongest]
      intro piece hpiece
      rcases List.mem_cons.mp hpiece with rfl | hpiece
      · exact Or.inr (hgroups.reads hreads)
      · exact ih (hgroups.of_suffix (List.suffix_append m after)) piece hpiece
  | char c rest hnone ih =>
      rw [pieces_of_none hnone]
      intro piece hpiece
      rcases List.mem_cons.mp hpiece with rfl | hpiece
      · exact Or.inl ⟨c, rfl⟩
      · exact ih (hgroups.of_suffix (List.suffix_cons c rest)) piece hpiece

end Template

namespace Request

/-- The expansion of a template of groups depends on no request. -/
theorem expand_of_groupsOnly {template : Text} (hgroups : Template.GroupsOnly template)
    (request other : Request) (captures : Captures) :
    request.expand captures template = other.expand captures template := by
  refine List.flatMap_congr fun piece hpiece => ?_
  rcases hgroups.mem_pieces piece hpiece with ⟨c, rfl⟩ | ⟨digits, rfl⟩
  · rfl
  · rfl

end Request

namespace Action

/-- The template that an action expands into a URL, a command or a body. -/
def template? : Action → Option Text
  | .redirect template => some template
  | .run template => some template
  | .eval template => some template
  | .data template _ false => some template
  | _ => none

/-- An outcome shows the text that the template of its action has become: as the new URL, as the
command that was run and whose answer is passed on, as the command that was written down, or as
the body. -/
def Outcome.Shows (outcome : Outcome) (executor : Executor) (text : Text) : Action → Prop
  | .redirect _ => outcome.result = .ok .forward ∧ outcome.request.url = text
  | .run _ =>
      outcome.commands = [text] ∧
        outcome.result = (executor text).map fun output => .send output.body
  | .eval _ => outcome.result = .ok .forward ∧ outcome.request.evalCommand = some text
  | .data _ contentType false =>
      outcome.result = .ok (.send (Utf8.encode text)) ∧
        outcome.request.contentType = some contentType
  | _ => False

/-- Behind a regular expression nothing joins the template. -/
theorem perform_shows {action : Action} {template : Text}
    (htemplate : action.template? = some template) (executor : Executor) (compiled : Regex)
    (captures : Captures) (request : Request) :
    (action.perform executor (.regex compiled) captures request).Shows executor
      (request.expand captures template) action := by
  cases action with
  | redirect url =>
      obtain rfl := Option.some.inj htemplate
      exact ⟨rfl, rfl⟩
  | run command =>
      obtain rfl := Option.some.inj htemplate
      exact ⟨rfl, rfl⟩
  | eval command =>
      obtain rfl := Option.some.inj htemplate
      exact ⟨rfl, rfl⟩
  | data payload contentType base64 =>
      cases base64 with
      | false =>
          obtain rfl := Option.some.inj htemplate
          exact ⟨rfl, rfl⟩
      | true => exact nomatch htemplate
  | _ => exact nomatch htemplate

end Action

namespace Ruleset

section Groups

variable {ruleset other : Ruleset} {request : Request} {selected rival : Selected}
  {compiled : Regex} {template : Text}

theorem captures_of_regex {url : Text} (hselect : ruleset.select? url = some selected)
    (hpattern : selected.entry.rule.pattern = .regex compiled) :
    compiled.captures? url = some selected.captures := by
  have hmatch := match?_of_select? hselect
  rw [hpattern] at hmatch
  exact hmatch

/-- What the action of a rule shows does not depend on the modifiers before it, if its template
has groups only. -/
theorem evaluate_shows (hselect : ruleset.select? request.url = some selected)
    (hpattern : selected.entry.rule.pattern = .regex compiled)
    (htemplate : selected.entry.rule.action.template? = some template)
    (hgroups : Template.GroupsOnly template) (executor : Executor) :
    (ruleset.evaluate executor request).Shows executor
      (request.expand selected.captures template) selected.entry.rule.action := by
  have hshows := Action.perform_shows htemplate executor compiled selected.captures
    (ruleset.ready selected.entry request)
  rw [evaluate_of_some hselect, hpattern, Request.expand_of_groupsOnly hgroups request]
  exact hshows

/-- The groups of a match are settled when the rule is selected.  A rule with a regular
expression, whose template has groups only, may stand under any modifiers, here those of two
rulesets: the URL it redirects to, the command it runs or writes down and the body it answers
with are those of its template and of the groups that the URL of the request as it came has, and
no request plays a part in how the template is expanded. -/
theorem evaluate_groups (hselect : ruleset.select? request.url = some selected)
    (hrival : other.select? request.url = some rival)
    (hpattern : selected.entry.rule.pattern = .regex compiled)
    (hsamePattern : rival.entry.rule.pattern = .regex compiled)
    (hsameAction : rival.entry.rule.action = selected.entry.rule.action)
    (htemplate : selected.entry.rule.action.template? = some template)
    (hgroups : Template.GroupsOnly template) (executor : Executor) :
    ∃ captures, compiled.captures? request.url = some captures ∧
      (∀ later : Request, later.expand captures template = request.expand captures template) ∧
      (ruleset.evaluate executor request).Shows executor (request.expand captures template)
        selected.entry.rule.action ∧
      (other.evaluate executor request).Shows executor (request.expand captures template)
        selected.entry.rule.action := by
  have hcaptures := captures_of_regex hselect hpattern
  have hagree : rival.captures = selected.captures :=
    Option.some.inj ((captures_of_regex hrival hsamePattern).symm.trans hcaptures)
  have hother := evaluate_shows hrival hsamePattern (hsameAction ▸ htemplate) hgroups executor
  rw [hagree, hsameAction] at hother
  exact ⟨selected.captures, hcaptures,
    fun later => later.expand_of_groupsOnly hgroups request selected.captures,
    evaluate_shows hselect hpattern htemplate hgroups executor, hother⟩

end Groups

namespace GroupsWitness

/-- The expression `t/([a-z]*)`. -/
def compiled : Regex where
  source := "t/([a-z]*)".toList
  program := .ofExpr (.cat (.chars (.singleton 't')) (.cat (.chars (.singleton '/'))
    (.group 1 (.loop 0 none true (.chars ⟨[('a'.toNat, 'z'.toNat)]⟩)))))

/-- One group of the match, and a number that no group has. -/
def template : Text := "http://b.test/$1$18446744073709551616".toList

/-- The rule under modifiers. -/
def under (modifiers : List Modifier) : Ruleset :=
  ⟨modifiers, [⟨.regex compiled, .redirect template, []⟩], []⟩

/-- Modifiers that rewrite the query and the document root. -/
def rewriting : List Modifier :=
  [.setParam "page".toList "2".toList, .setDocumentRoot "/srv".toList]

def request : Request := { url := "http://a.test/list?page=1".toList, headers := Headers.empty }

def captures : Captures := [some "t/list".toList, some "list".toList]

def executor : Executor := fun _ => .error "no".toList

theorem captures?_request : compiled.captures? request.url = some captures := by
  decide +kernel

theorem expand_template : request.expand captures template = "http://b.test/list".toList := by
  decide +kernel

theorem select?_under (modifiers : List Modifier) :
    ∃ selected, (under modifiers).select? request.url = some selected ∧
      selected.entry.rule.pattern = .regex compiled ∧
      selected.entry.rule.action = .redirect template ∧
      (under modifiers).modifiersFor selected.entry = modifiers := by
  have hmatch : (Pattern.regex compiled).match? request.url = some captures := captures?_request
  refine ⟨⟨⟨⟨.regex compiled, .redirect template, []⟩, none, 0⟩, captures⟩, ?_, rfl, rfl, ?_⟩
  · simp [under, select?, entries, entriesOf, activeSections, hmatch]
  · simp [under, modifiersFor]

end GroupsWitness

open GroupsWitness in
/-- The modifiers rewrite the URL that was matched, and the redirect stays the same. -/
theorem evaluate_groups_rewriting :
    ∃ selected rival, (under []).select? request.url = some selected ∧
      (under rewriting).select? request.url = some rival ∧
      selected.entry.rule.pattern = .regex compiled ∧
      rival.entry.rule.pattern = .regex compiled ∧
      rival.entry.rule.action = selected.entry.rule.action ∧
      selected.entry.rule.action.template? = some template ∧
      Template.GroupsOnly template ∧
      ((under rewriting).ready rival.entry request).url = "http://a.test/list?page=2".toList ∧
      ((under []).evaluate executor request).request.url = "http://b.test/list".toList ∧
      ((under rewriting).evaluate executor request).request.url =
        "http://b.test/list".toList := by
  obtain ⟨selected, hselect, hpattern, haction, -⟩ := select?_under []
  obtain ⟨rival, hrival, hsamePattern, hsameAction, hmodifiers⟩ := select?_under rewriting
  have haction' : rival.entry.rule.action = selected.entry.rule.action := by
    rw [hsameAction, haction]
  have htemplate : selected.entry.rule.action.template? = some template := by
    rw [haction]
    rfl
  have hgroups : Template.GroupsOnly template := by decide
  have hurl : ((under rewriting).ready rival.entry request).url =
      "http://a.test/list?page=2".toList := by
    rw [ready_eq, hmodifiers]
    decide +kernel
  obtain ⟨groups, hmatch, -, hfirst, hsecond⟩ := evaluate_groups hselect hrival hpattern
    hsamePattern haction' htemplate hgroups executor
  obtain rfl : groups = captures := Option.some.inj (hmatch.symm.trans captures?_request)
  rw [haction, expand_template] at hfirst hsecond
  exact ⟨selected, rival, hselect, hrival, hpattern, hsamePattern, haction', htemplate, hgroups,
    hurl, hfirst.2, hsecond.2⟩

end Ruleset

end Reroute
