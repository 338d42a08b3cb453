import Reroute.Proofs.Modification
import Reroute.Proofs.Redirect

/-!
The suffix behind a literal, when modifiers have run.  A rule is chosen by the URL as the
request brings it, but its action cuts the suffix from the URL as the modifiers leave it.
Modifiers write nothing but the query, and a literal without `?` ends before that, so the
literal is still there to be cut off and only the query behind it may be another.
-/
namespace Reroute

namespace Url

/-- The rest of a URL from its first `?` on. -/
def fromMark (url : Text) : Text :=
  url.dropWhile fun c => c != '?'

theorem base_append_fromMark (url : Text) : base url ++ fromMark url = url :=
  List.takeWhile_append_dropWhile

/-- A beginning without `?` ends before the query. -/
theorem prefix_base_iff {start : Text} (hmark : '?' ∉ start) (url : Text) :
    start <+: base url ↔ start <+: url := by
  constructor
  · exact fun hstart => hstart.trans (List.takeWhile_prefix _)
  · rintro ⟨rest, rfl⟩
    rw [base, List.takeWhile_append_of_pos (forall_ne_mark hmark)]
    exact List.prefix_append _ _

/-- The scheme is looked for before the query. -/
theorem normalize_eq (url : Text) : normalize url = normalize (base url) ++ fromMark url := by
  have hscheme : ∀ scheme : Text, '?' ∉ scheme →
      (scheme.isPrefixOf url = scheme.isPrefixOf (base url)) := by
    intro scheme hmark
    rw [Bool.eq_iff_iff, List.isPrefixOf_iff_prefix, List.isPrefixOf_iff_prefix,
      prefix_base_iff hmark]
  unfold normalize
  rw [hscheme _ (by decide), hscheme _ (by decide)]
  split
  · exact (base_append_fromMark url).symm
  · rw [List.append_assoc, base_append_fromMark]

theorem base_normalize (url : Text) : base (normalize url) = normalize (base url) := by
  have hplain : '?' ∉ normalize (base url) := by
    unfold normalize
    split
    · exact mark_notMem_base url
    · simp [mark_notMem_base url]
  have hmark : base (fromMark url) = [] := by
    unfold base fromMark
    cases hbehind : url.dropWhile fun c => c != '?' with
    | nil => rfl
    | cons c rest =>
        have hc := List.head?_dropWhile_not (fun c => c != '?') url
        rw [hbehind] at hc
        exact List.takeWhile_cons_of_neg (by simpa using hc)
  rw [normalize_eq, base, List.takeWhile_append_of_pos (forall_ne_mark hplain)]
  exact (congrArg _ hmark).trans (List.append_nil _)

/-- URLs that differ in their queries alone have the same literals before them. -/
theorem prefix_normalize_iff {start : Text} (hmark : '?' ∉ start) (url : Text) :
    start <+: normalize url ↔ start <+: normalize (base url) := by
  rw [← prefix_base_iff hmark, base_normalize]

end Url

namespace Ruleset

section Suffix

variable {ruleset : Ruleset} {request : Request} {selected : Selected} {start : Text}

/-- What the action of a rule finds whose pattern is a literal without `?`: before the query
the URL is the one the request came with, so that the literal still stands at its beginning;
the suffix is what came behind the literal with the query as the modifiers left it; and
nothing has been decided about the proxy, the command to run and the media type. -/
theorem evaluate_suffix_kept (hselect : ruleset.select? request.url = some selected)
    (hpattern : selected.entry.rule.pattern = .startsWith start) (hmark : '?' ∉ start) :
    let found := ruleset.ready selected.entry request
    (∀ executor, ruleset.evaluate executor request =
        selected.entry.rule.action.perform executor (.startsWith start) [] found) ∧
      Url.base found.url = Url.base request.url ∧
      start <+: Url.normalize found.url ∧
      (∃ rest, Url.normalize (Url.base request.url) = start ++ rest ∧
        (Pattern.startsWith start).suffix? found.url = some (rest ++ Url.fromMark found.url)) ∧
      found.nextHop = request.nextHop ∧
      found.evalCommand = request.evalCommand ∧
      found.contentType = request.contentType := by
  intro found
  have huntouched : request.Untouched found := by
    rw [show found = _ from ruleset.ready_eq selected.entry request]
    exact Request.modify_untouched request _
  have hmatch := match?_of_select? hselect
  rw [hpattern, Pattern.match?_startsWith] at hmatch
  obtain ⟨hstart, hcaptures⟩ := hmatch
  obtain ⟨rest, hrest⟩ := (Url.prefix_normalize_iff hmark _).mp hstart
  have hfound : Url.normalize found.url = start ++ (rest ++ Url.fromMark found.url) := by
    rw [Url.normalize_eq, huntouched.base, ← hrest, List.append_assoc]
  refine ⟨?outcome, huntouched.base, ⟨_, hfound.symm⟩, ⟨rest, hrest.symm, ?suffix⟩,
    huntouched.nextHop, huntouched.evalCommand, huntouched.contentType⟩
  case outcome =>
    intro executor
    rw [evaluate_of_some hselect, hpattern, hcaptures]
  case suffix => exact Pattern.suffix?_startsWith hfound

end Suffix

namespace SuffixWitness

/-- Modifiers of the file, of the section and of the rule that write the query. -/
def ruleset : Ruleset :=
  RulesFile.parse "$SetQueryParam a=~\n[s]\n$RemoveQueryParam b\na/x => $\n$SetCookie c=d".toList

def request : Request := Request.arriving "a/x/y?b=2&b=%".toList Headers.empty (some "r".toList)

def start : Text := "http://a/x".toList

theorem select?_request :
    ∃ selected, ruleset.select? request.url = some selected ∧
      selected.entry.rule.pattern = .startsWith start ∧
      ruleset.modifiersFor selected.entry =
        [.setParam "a".toList "~".toList, .removeParam "b".toList,
          .setCookie "c".toList "d".toList] := ⟨_, rfl, rfl, rfl⟩

end SuffixWitness

open SuffixWitness in
/-- Two parameters have gone and one has come, and the suffix ends with what came of it. -/
theorem evaluate_suffix_kept_rewritten :
    ∃ selected, ruleset.select? request.url = some selected ∧
      selected.entry.rule.pattern = .startsWith start ∧ '?' ∉ start ∧
      (ruleset.ready selected.entry request).url = "a/x/y?a=r".toList ∧
      Url.base request.url = "a/x/y".toList ∧
      (Pattern.startsWith start).suffix? (ruleset.ready selected.entry request).url =
        some "/y?a=r".toList := by
  obtain ⟨selected, hselect, hpattern, hmodifiers⟩ := select?_request
  have hmark : '?' ∉ start := by decide
  obtain ⟨-, hbase, -, ⟨rest, hrest, hsuffix⟩, -⟩ :=
    evaluate_suffix_kept hselect hpattern hmark
  have hurl : (ruleset.ready selected.entry request).url = "a/x/y?a=r".toList := by
    rw [ready_eq, hmodifiers]
    decide +kernel
  rw [hurl] at hbase hsuffix
  refine ⟨selected, hselect, hpattern, hmark, hurl, hbase.symm, ?_⟩
  have hrest : start ++ "/y".toList = start ++ rest := hrest
  rw [hurl, hsuffix, ← List.append_cancel_left hrest]
  rfl

end Ruleset

end Reroute
