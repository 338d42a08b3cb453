import Reroute.Proofs.Expansion
import Reroute.Proofs.Text
import Reroute.RulesFile

/-!
Redirects behind a literal.  The suffix of the URL is put behind the target before the target
is expanded, so the suffix is template too.  The main statement: the new URL is the expansion
of both together, and it ends in the suffix as the client wrote it where no placeholder
reaches into that.
-/
namespace Reroute

namespace Pattern

/-- The suffix behind a literal is what the normalized URL has behind it. -/
theorem suffix?_startsWith {start suffix url : Text}
    (hurl : Url.normalize url = start ++ suffix) :
    (startsWith start).suffix? url = some suffix := by
  simp [suffix?, literal?, suffixBehind, hurl, Text.dropBytes?_append]

theorem match?_startsWith {start url : Text} {captures : Captures} :
    (startsWith start).match? url = some captures ↔ start <+: Url.normalize url ∧ captures = [] := by
  simp only [match?, Option.ite_none_right_eq_some, List.isPrefixOf_iff_prefix,
    Option.some.injEq]
  rw [eq_comm (a := [])]

end Pattern

namespace Template

/-- No placeholder of a template reaches into the suffix behind it. -/
def Spares (template suffix : Text) : Prop :=
  ∀ before m after, template ++ suffix = before ++ (m ++ after) → IsPlaceholder m →
    before ++ m <+: template

variable {template suffix : Text}

theorem Spares.seam (hspares : Spares template suffix) : Seam template suffix := by
  rintro head tail ⟨before, rfl⟩ ⟨after, rfl⟩ - htail hplaceholder
  have hwithin := (hspares before (head ++ tail) after (by simp) hplaceholder).length_le
  have hpositive := List.length_pos_iff.mpr htail
  simp only [List.length_append] at hwithin
  omega

theorem Spares.infix_none (hspares : Spares template suffix) :
    ∀ m, m <:+: suffix → ¬IsPlaceholder m := by
  rintro m ⟨before, after, rfl⟩ hplaceholder
  have hwithin :=
    (hspares (template ++ before) m after (by simp) hplaceholder).length_le
  have hpositive := List.length_pos_iff.mpr hplaceholder.ne_nil
  simp only [List.length_append] at hwithin
  omega

/-- A suffix without the characters that begin a placeholder is spared by every closed
template. -/
theorem Closed.spares (hclosed : Closed template) (hroot : '~' ∉ suffix)
    (hdollar : '$' ∉ suffix) : Spares template suffix := by
  intro before m after hjoined hplaceholder
  have hwithout : ∀ m, m <:+: suffix → ¬IsPlaceholder m :=
    fun m hm => not_isPlaceholder_of_infix hroot hdollar hm
  rcases List.append_eq_append_iff.mp hjoined with ⟨behind, -, hsuffix⟩ | ⟨rest, htemplate, hrest⟩
  · exact absurd hplaceholder (hwithout m ⟨behind, after, by simp [hsuffix]⟩)
  · -- The placeholder begins in the template, so the seam decides where it ends.
    by_cases hnil : rest = []
    · have hm : m <:+: suffix := ⟨[], after, by simpa [hnil] using hrest⟩
      exact absurd hplaceholder (hwithout m hm)
    · have hseam : Seam rest suffix := Seam.of_append (htemplate ▸ hclosed.seam suffix)
      obtain ⟨left, hleft, -⟩ := hseam.split hnil hplaceholder hrest.symm
      exact ⟨left, by simp [htemplate, hleft]⟩

end Template

namespace Request

theorem expand_of_spares {template suffix : Text} (hspares : Template.Spares template suffix)
    (request : Request) (captures : Captures) :
    request.expand captures (template ++ suffix) =
      request.expand captures template ++ suffix := by
  rw [request.expand_append captures hspares.seam,
    request.expand_of_infix_none captures hspares.infix_none]

end Request

namespace Ruleset

section Suffix

variable {ruleset : Ruleset} {request : Request} {selected : Selected}

/-- A selected rule matches the URL, with its groups. -/
theorem match?_of_select? {url : Text} (hselect : ruleset.select? url = some selected) :
    selected.entry.rule.pattern.match? url = some selected.captures := by
  obtain ⟨entry, -, hentry⟩ := List.exists_of_findSome?_eq_some hselect
  obtain ⟨captures, hmatch, rfl⟩ := Option.map_eq_some_iff.mp hentry
  exact hmatch

/-- A literal pattern has no groups. -/
theorem captures_of_startsWith {url start : Text} (hselect : ruleset.select? url = some selected)
    (hpattern : selected.entry.rule.pattern = .startsWith start) : selected.captures = [] := by
  have hmatch := match?_of_select? hselect
  rw [hpattern, Pattern.match?_startsWith] at hmatch
  exact hmatch.2

variable {start target suffix : Text}

/-- The suffix joins the target, and then the two are expanded. -/
theorem evaluate_redirect (hselect : ruleset.select? request.url = some selected)
    (hpattern : selected.entry.rule.pattern = .startsWith start)
    (haction : selected.entry.rule.action = .redirect target)
    (hmodifiers : ruleset.modifiersFor selected.entry = [])
    (hurl : Url.normalize request.url = start ++ suffix) (executor : Executor) :
    ruleset.evaluate executor request =
      .quiet .forward (request.setUrl (request.expand [] (target ++ suffix))) := by
  have hcaptures := captures_of_startsWith hselect hpattern
  simp [evaluate, hselect, hmodifiers, Request.modify, haction, Action.perform,
    Action.urlTemplate, hpattern, Pattern.suffix?_startsWith hurl, hcaptures]

/-- A redirect behind a literal, without modifiers, sends the request to the target with the
suffix behind it, both expanded.  The new URL is the expanded target with the suffix as it
stands, whatever characters that holds, if no placeholder reaches into the suffix. -/
theorem evaluate_redirect_suffix (hselect : ruleset.select? request.url = some selected)
    (hpattern : selected.entry.rule.pattern = .startsWith start)
    (haction : selected.entry.rule.action = .redirect target)
    (hmodifiers : ruleset.modifiersFor selected.entry = [])
    (hurl : Url.normalize request.url = start ++ suffix) (executor : Executor) :
    ruleset.evaluate executor request =
        .quiet .forward (request.setUrl (request.expand [] (target ++ suffix))) ∧
      (Template.Spares target suffix →
        (ruleset.evaluate executor request).request.url =
          request.expand [] target ++ suffix) := by
  have houtcome := evaluate_redirect hselect hpattern haction hmodifiers hurl executor
  refine ⟨houtcome, ?_⟩
  intro hspares
  rw [houtcome, ← request.expand_of_spares hspares]
  rfl

end Suffix

namespace RedirectWitness

def ruleset : Ruleset := RulesFile.parse "a.test/ => b.test/~/".toList

def executor : Executor := fun _ => .error "no".toList

def start : Text := "http://a.test/".toList

def target : Text := "http://b.test/~/".toList

/-- A request for what the client wrote behind the start of the rule. -/
def requestFor (suffix : Text) : Request :=
  Request.arriving ("http://a.test/".toList ++ suffix) Headers.empty (some "srv".toList)

theorem select?_requestFor (suffix : Text) :
    ∃ selected, ruleset.select? (requestFor suffix).url = some selected ∧
      selected.entry.rule.pattern = .startsWith start ∧
      selected.entry.rule.action = .redirect target ∧
      ruleset.modifiersFor selected.entry = [] := ⟨_, rfl, rfl, rfl, rfl⟩

theorem normalize_requestFor (suffix : Text) :
    Url.normalize (requestFor suffix).url = start ++ suffix := rfl

end RedirectWitness

open RedirectWitness in
/-- A suffix without placeholders comes through. -/
theorem evaluate_redirect_suffix_plain :
    (∃ selected, ruleset.select? (requestFor "old?x=1%7E".toList).url = some selected ∧
      selected.entry.rule.pattern = .startsWith start ∧
      selected.entry.rule.action = .redirect target ∧
      ruleset.modifiersFor selected.entry = []) ∧
    Url.normalize (requestFor "old?x=1%7E".toList).url = start ++ "old?x=1%7E".toList ∧
    Template.Spares target "old?x=1%7E".toList ∧
    (ruleset.evaluate executor (requestFor "old?x=1%7E".toList)).request.url =
      (requestFor "old?x=1%7E".toList).expand [] target ++ "old?x=1%7E".toList := by
  have hselected := select?_requestFor "old?x=1%7E".toList
  have hclosed : Template.Closed target := by decide
  have hspares : Template.Spares target "old?x=1%7E".toList :=
    hclosed.spares (by decide) (by decide)
  refine ⟨hselected, normalize_requestFor _, hspares, ?_⟩
  obtain ⟨selected, hselect, hpattern, haction, hmodifiers⟩ := hselected
  exact (evaluate_redirect_suffix hselect hpattern haction hmodifiers
    (normalize_requestFor _) executor).2 hspares

open RedirectWitness in
/-- A `~` that the client wrote gives way to the document root. -/
theorem evaluate_redirect_suffix_replaced :
    ∃ selected, ruleset.select? (requestFor "~".toList).url = some selected ∧
      selected.entry.rule.pattern = .startsWith start ∧
      selected.entry.rule.action = .redirect target ∧
      ruleset.modifiersFor selected.entry = [] ∧
      Url.normalize (requestFor "~".toList).url = start ++ "~".toList ∧
      (ruleset.evaluate executor (requestFor "~".toList)).request.url =
        (requestFor "~".toList).expand [] target ++ "srv".toList ∧
      (ruleset.evaluate executor (requestFor "~".toList)).request.url ≠
        (requestFor "~".toList).expand [] target ++ "~".toList := by
  obtain ⟨selected, hselect, hpattern, haction, hmodifiers⟩ := select?_requestFor "~".toList
  have hclosed : Template.Closed target := by decide
  have hurl : (ruleset.evaluate executor (requestFor "~".toList)).request.url =
      (requestFor "~".toList).expand [] target ++ "srv".toList := by
    rw [evaluate_redirect hselect hpattern haction hmodifiers (normalize_requestFor _)]
    change (requestFor "~".toList).expand [] (target ++ "~".toList) = _
    rw [Request.expand_append _ _ (hclosed.seam _)]
    exact congrArg _ (Request.expand_of_reads _ _ .root)
  refine ⟨selected, hselect, hpattern, haction, hmodifiers, normalize_requestFor _, hurl, ?_⟩
  rw [hurl]
  intro hsame
  exact absurd (List.append_cancel_left hsame) (by decide)

end Ruleset

end Reroute
