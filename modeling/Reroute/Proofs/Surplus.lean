import Reroute.Proofs.Suffix

/-!
The surplus behind an exact pattern.  A URL that is equal to the pattern leaves nothing behind it.
But the suffix is cut by the length of the pattern from the URL as the modifiers leave it, and
they write the query anew.  The main statement: a redirect appends what the query has grown by,
so that the target stands alone exactly where the query has not grown.
-/
namespace Reroute

namespace Text

theorem byteLength_append (s t : Text) : byteLength (s ++ t) = byteLength s + byteLength t := by
  induction s with
  | nil => exact (Nat.zero_add _).symm
  | cons c rest ih => rw [List.cons_append, byteLength_cons, byteLength_cons, ih, Nat.add_assoc]

end Text

namespace Query

/-- A written name or value is ASCII and holds nothing that begins a placeholder. -/
theorem mem_encodePart {c : Char} {s : Text} (hc : c ∈ encodePart s) :
    c.toNat < 0x80 ∧ c ≠ '~' ∧ c ≠ '$' := by
  obtain ⟨b, -, hspelled⟩ := List.mem_flatMap.mp hc
  split at hspelled
  · rw [List.mem_singleton.mp hspelled]
    decide
  · rcases Percent.mem_encode hspelled with ⟨b, -, hplain, rfl⟩ | rfl | ⟨n, hn, rfl⟩
    · have hascii := (safe_isPlainByte _ hplain).1
      have hother : ∀ mark : Char, isPlainByte (UInt8.ofNat mark.toNat) = false →
          Char.ofNat b.toNat ≠ mark := by
        rintro mark hmark rfl
        rw [Text.toNat_charOfByte, UInt8.ofNat_toNat, hplain] at hmark
        exact Bool.noConfusion hmark
      rw [Text.toNat_charOfByte]
      exact ⟨hascii, hother '~' (by decide), hother '$' (by decide)⟩
    · decide
    · have hdigits : ∀ n < 16, (Hex.upperDigit n).toNat < 0x80 ∧ Hex.upperDigit n ≠ '~' ∧
          Hex.upperDigit n ≠ '$' := by decide
      exact hdigits n hn

theorem mem_encode {c : Char} {pairs : Pairs} (hc : c ∈ encode pairs) :
    c.toNat < 0x80 ∧ c ≠ '~' ∧ c ≠ '$' := by
  rcases Text.mem_joinWith hc with hmark | ⟨part, hpart, hc⟩
  · rw [List.mem_singleton.mp hmark]
    decide
  · obtain ⟨pair, -, rfl⟩ := List.mem_map.mp hpart
    rcases List.mem_append.mp hc with hname | hvalue
    · exact mem_encodePart hname
    · rcases List.mem_cons.mp hvalue with rfl | hvalue
      · decide
      · exact mem_encodePart hvalue

end Query

namespace Url

theorem mem_fromMark_withPairs {c : Char} {url : Text} {ps : Pairs}
    (hc : c ∈ fromMark (withPairs url ps)) : c.toNat < 0x80 ∧ c ≠ '~' ∧ c ≠ '$' := by
  have hbase : ∀ c ∈ base url, (c != '?') = true := forall_ne_mark (mark_notMem_base url)
  by_cases hps : ps = []
  · rw [hps, withPairs_nil, fromMark, List.dropWhile_eq_nil_iff.mpr hbase] at hc
    exact absurd hc List.not_mem_nil
  · rw [withPairs_of_ne_nil url hps, fromMark, List.dropWhile_append_of_pos hbase] at hc
    rcases List.mem_cons.mp hc with rfl | hc
    · decide
    · exact Query.mem_encode hc

/-- What the query of a URL has behind as many bytes as the query before it had. -/
def surplus (before after : Text) : Text :=
  (fromMark after).drop (Text.byteLength (fromMark before))

theorem surplus_eq_nil_iff {before after : Text} :
    surplus before after = [] ↔
      (fromMark after).length ≤ Text.byteLength (fromMark before) :=
  List.drop_eq_nil_iff

theorem surplus_self (url : Text) : surplus url url = [] :=
  surplus_eq_nil_iff.mpr (Text.length_le_byteLength _)

/-- Behind the URL that was stands the surplus of the URL that is, if the two differ in their
queries alone and the later one is ASCII. -/
theorem suffixBehind_normalize {before after : Text} (hbase : base after = base before)
    (hascii : ∀ c ∈ fromMark after, c.toNat < 0x80) :
    Pattern.suffixBehind (normalize before) after = surplus before after := by
  rw [Pattern.suffixBehind, normalize_eq before, normalize_eq after, hbase,
    Text.byteLength_append, Text.dropBytes?_byteLength_add, Text.getD_dropBytes?_of_ascii hascii,
    surplus]

theorem suffixBehind_self (url : Text) : Pattern.suffixBehind (normalize url) url = [] := by
  have hnothing := Text.dropBytes?_append (normalize url) []
  rw [List.append_nil] at hnothing
  rw [Pattern.suffixBehind, hnothing, Option.getD_some]

end Url

namespace Modifier

/-- The modifiers that write the query. -/
def writesQuery : Modifier → Bool
  | .setParam _ _ => true
  | .removeParam _ => true
  | _ => false

theorem apply_url (request : Request) (modifier : Modifier) :
    (modifier.apply request).url = request.url ∨
      modifier.writesQuery = true ∧
        ∃ pairs, (modifier.apply request).url = Url.withPairs request.url pairs := by
  cases modifier with
  | setHeader scope name value =>
      left
      rw [apply, request.setHeader_eq]
      cases scope <;> cases HeaderEdit.setting? name (request.expand [] value) <;> rfl
  | removeHeader scope name =>
      left
      rw [apply, request.removeHeader_eq]
      cases scope <;> cases HeaderEdit.removing? name <;> rfl
  | setParam name value => exact Or.inr ⟨rfl, _, rfl⟩
  | removeParam name => exact Or.inr ⟨rfl, _, rfl⟩
  | _ => exact Or.inl rfl

end Modifier

namespace Request

/-- Modifiers leave the URL alone, or the last of those that write the query has written it. -/
theorem modify_url (request : Request) (modifiers : List Modifier) :
    (request.modify modifiers).url = request.url ∨
      (∃ modifier ∈ modifiers, modifier.writesQuery = true) ∧
        ∃ pairs, (request.modify modifiers).url = Url.withPairs request.url pairs := by
  induction modifiers using List.reverseRecOn with
  | nil => exact Or.inl rfl
  | append_singleton modifiers modifier ih =>
      rw [modify_concat]
      rcases modifier.apply_url (request.modify modifiers) with hsame | ⟨hwrites, pairs, hurl⟩
      · rw [hsame]
        rcases ih with hbefore | ⟨⟨writer, hwriter, hwrites⟩, hpairs⟩
        · exact Or.inl hbefore
        · exact Or.inr ⟨⟨writer, List.mem_append_left _ hwriter, hwrites⟩, hpairs⟩
      · refine Or.inr ⟨⟨modifier, by simp, hwrites⟩, pairs, ?_⟩
        rcases ih with hbefore | ⟨-, earlier, hbefore⟩
        · rw [hurl, hbefore]
        · rw [hurl, hbefore, Url.withPairs_withPairs]

end Request

namespace Pattern

theorem match?_exact {literal url : Text} {captures : Captures} :
    (exact literal).match? url = some captures ↔ Url.normalize url = literal ∧ captures = [] := by
  simp only [match?, Option.ite_none_right_eq_some, Option.some.injEq]
  rw [eq_comm (a := [])]

end Pattern

namespace Action

/-- Behind a literal pattern the target of a redirect is normalized when it is compiled. -/
theorem eq_normalize_of_compile {pattern : Pattern} {text target : Text}
    (hliteral : pattern.isLiteral = true) (hcompile : compile pattern text = .redirect target) :
    target = Url.normalize text := by
  unfold compile ofForm at hcompile
  -- Of all forms only the last is a redirect.
  iterate 7
    split at hcompile
    · exact nomatch hcompile
  rw [ofUrl, if_pos hliteral] at hcompile
  exact (Action.redirect.inj hcompile).symm

end Action

namespace Ruleset

section Exact

variable {ruleset : Ruleset} {request : Request} {selected : Selected} {literal target : Text}

/-- Modifiers leave nothing behind the URL that was, or the surplus of the query that they have
written, which begins no placeholder. -/
theorem suffixBehind_ready (ruleset : Ruleset) (entry : Entry) (request : Request) :
    let found := ruleset.ready entry request
    Pattern.suffixBehind (Url.normalize request.url) found.url =
        Url.surplus request.url found.url ∧
      (∀ c ∈ Url.surplus request.url found.url, c ≠ '~' ∧ c ≠ '$') ∧
      ((∀ modifier ∈ ruleset.modifiersFor entry, modifier.writesQuery = false) →
        Url.surplus request.url found.url = []) := by
  intro found
  have hfound : found = request.modify (ruleset.modifiersFor entry) := ruleset.ready_eq entry request
  have hbase : Url.base found.url = Url.base request.url := by
    rw [hfound]
    exact (request.modify_untouched _).base
  rcases request.modify_url (ruleset.modifiersFor entry) with
    hsame | ⟨⟨writer, hwriter, hwrites⟩, pairs, hurl⟩
  · rw [hfound, hsame, Url.surplus_self, Url.suffixBehind_self]
    exact ⟨rfl, nofun, fun _ => rfl⟩
  · have hwritten : ∀ c ∈ Url.fromMark found.url, c.toNat < 0x80 ∧ c ≠ '~' ∧ c ≠ '$' := by
      rw [hfound, hurl]
      exact fun c hc => Url.mem_fromMark_withPairs hc
    refine ⟨Url.suffixBehind_normalize hbase fun c hc => (hwritten c hc).1, ?_, ?_⟩
    · exact fun c hc => (hwritten c (List.mem_of_mem_drop hc)).2
    · intro hnone
      rw [hnone writer hwriter] at hwrites
      exact nomatch hwrites

/-- A redirect behind an exact pattern goes to the target with the surplus behind it: what the
query has beyond the bytes it came with, once the modifiers have written it.  The target stands
alone where the query has not grown, and so wherever no modifier writes it; if no placeholder is
open at the end of the target, it stands alone nowhere else. -/
theorem evaluate_redirect_exact (hselect : ruleset.select? request.url = some selected)
    (hpattern : selected.entry.rule.pattern = .exact literal)
    (haction : selected.entry.rule.action = .redirect target) (executor : Executor) :
    let found := ruleset.ready selected.entry request
    let surplus := Url.surplus request.url found.url
    let outcome := ruleset.evaluate executor request
    outcome = .quiet .forward (found.setUrl (found.expand [] (target ++ surplus))) ∧
    ((Url.fromMark found.url).length ≤ Text.byteLength (Url.fromMark request.url) →
      outcome.request.url = found.expand [] target) ∧
    ((∀ modifier ∈ ruleset.modifiersFor selected.entry, modifier.writesQuery = false) →
      outcome.request.url = found.expand [] target) ∧
    (Template.Closed target →
      outcome.request.url = found.expand [] target ++ surplus ∧
      (outcome.request.url = found.expand [] target ↔
        (Url.fromMark found.url).length ≤ Text.byteLength (Url.fromMark request.url))) ∧
    ∀ text, Action.compile (.exact literal) text = .redirect target →
      target = Url.normalize text := by
  intro found surplus outcome
  have hmatch := match?_of_select? hselect
  rw [hpattern, Pattern.match?_exact] at hmatch
  obtain ⟨hliteral, hcaptures⟩ := hmatch
  obtain ⟨hsuffix, hplain, hunwritten⟩ := ruleset.suffixBehind_ready selected.entry request
  rw [hliteral] at hsuffix
  have htemplate : Action.urlTemplate (.exact literal) target found.url = target ++ surplus := by
    rw [Action.urlTemplate, Pattern.suffix?, Pattern.literal?, Option.map_some, hsuffix]
  have houtcome : outcome =
      .quiet .forward (found.setUrl (found.expand [] (target ++ surplus))) := by
    rw [show outcome = _ from evaluate_of_some hselect executor, hpattern, haction, hcaptures,
      Action.perform, htemplate]
  have hurl : outcome.request.url = found.expand [] (target ++ surplus) :=
    congrArg (fun outcome => outcome.request.url) houtcome
  have halone : surplus = [] → outcome.request.url = found.expand [] target := by
    intro hnil
    rw [hurl, hnil, List.append_nil]
  refine ⟨houtcome, fun hlength => halone (Url.surplus_eq_nil_iff.mpr hlength),
    fun hnone => halone (hunwritten hnone), fun hclosed => ?_,
    fun text => Action.eq_normalize_of_compile rfl⟩
  have hspares : Template.Spares target surplus :=
    hclosed.spares (fun hmem => (hplain _ hmem).1 rfl) fun hmem => (hplain _ hmem).2 rfl
  have happended : outcome.request.url = found.expand [] target ++ surplus := by
    rw [hurl, found.expand_of_spares hspares]
  refine ⟨happended, ?_⟩
  rw [happended, List.append_right_eq_self, ← Url.surplus_eq_nil_iff]

end Exact

namespace SurplusWitness

/-- A parameter that is set to a value as long as the one it had, and a modifier that changes no
parameter at all, where the query is written longer than it came. -/
def ruleset : Ruleset :=
  RulesFile.parse ("!a.test/?b=x => b.test/~\n$SetQueryParam b=y\n".toList ++
    "!c.test/?next=/home => d.test/\n$RemoveQueryParam utm".toList)

def request (url : String) : Request :=
  Request.arriving url.toList Headers.empty (some "srv".toList)

def executor : Executor := fun _ => .error "no".toList

theorem select?_same :
    ∃ selected, ruleset.select? (request "http://a.test/?b=x").url = some selected ∧
      selected.entry.rule.pattern = .exact "http://a.test/?b=x".toList ∧
      selected.entry.rule.action = .redirect "http://b.test/~".toList ∧
      ruleset.modifiersFor selected.entry = [.setParam "b".toList "y".toList] :=
  ⟨_, rfl, rfl, rfl, rfl⟩

theorem select?_longer :
    ∃ selected, ruleset.select? (request "http://c.test/?next=/home").url = some selected ∧
      selected.entry.rule.pattern = .exact "http://c.test/?next=/home".toList ∧
      selected.entry.rule.action = .redirect "http://d.test/".toList ∧
      ruleset.modifiersFor selected.entry = [.removeParam "utm".toList] :=
  ⟨_, rfl, rfl, rfl, rfl⟩

end SurplusWitness

open SurplusWitness in
/-- The query is another one of the same length, and nothing is appended. -/
theorem evaluate_redirect_exact_same :
    ∃ selected, ruleset.select? (request "http://a.test/?b=x").url = some selected ∧
      selected.entry.rule.pattern = .exact "http://a.test/?b=x".toList ∧
      selected.entry.rule.action = .redirect "http://b.test/~".toList ∧
      (ruleset.ready selected.entry (request "http://a.test/?b=x")).url =
        "http://a.test/?b=y".toList ∧
      (ruleset.evaluate executor (request "http://a.test/?b=x")).request.url =
        "http://b.test/srv".toList := by
  obtain ⟨selected, hselect, hpattern, haction, hmodifiers⟩ := select?_same
  have hurl : (ruleset.ready selected.entry (request "http://a.test/?b=x")).url =
      "http://a.test/?b=y".toList := by
    rw [ready_eq, hmodifiers]
    decide +kernel
  obtain ⟨-, halone, -⟩ := evaluate_redirect_exact hselect hpattern haction executor
  rw [hurl] at halone
  refine ⟨selected, hselect, hpattern, haction, hurl, (halone (by decide)).trans ?_⟩
  rw [ready_eq, hmodifiers]
  decide +kernel

open SurplusWitness in
/-- A slash is written as three characters, and the last two of the query are appended. -/
theorem evaluate_redirect_exact_longer :
    ∃ selected, ruleset.select? (request "http://c.test/?next=/home").url = some selected ∧
      selected.entry.rule.pattern = .exact "http://c.test/?next=/home".toList ∧
      selected.entry.rule.action = .redirect "http://d.test/".toList ∧
      (ruleset.ready selected.entry (request "http://c.test/?next=/home")).expand []
        "http://d.test/".toList = "http://d.test/".toList ∧
      (ruleset.evaluate executor (request "http://c.test/?next=/home")).request.url =
        "http://d.test/me".toList := by
  obtain ⟨selected, hselect, hpattern, haction, hmodifiers⟩ := select?_longer
  have hcaptures : selected.captures = [] := by
    have hmatch := match?_of_select? hselect
    rw [hpattern, Pattern.match?_exact] at hmatch
    exact hmatch.2
  refine ⟨selected, hselect, hpattern, haction, ?_, ?_⟩
  · rw [ready_eq, hmodifiers]
    decide +kernel
  · rw [evaluate_of_some hselect, hpattern, haction, hcaptures, ready_eq, hmodifiers]
    decide +kernel

end Ruleset

end Reroute
