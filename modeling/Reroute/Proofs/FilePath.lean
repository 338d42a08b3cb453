import Reroute.Proofs.Suffix

/-!
Files behind a literal, asked for with a query.  The suffix that joins the path of a template
has the query at its end, and only what comes of their expansion is cut at its first `?`.  The
main statement: a query takes no part in the path but as the value of placeholders that the
client wrote before it, so the same file is served where these do not read the URL.
-/
namespace Reroute

namespace Url

/-- What stands behind a `?` does not matter before it. -/
theorem base_append_mark (before behind : Text) :
    base (before ++ '?' :: behind) = base before := by
  induction before with
  | nil => rfl
  | cons c rest ih =>
      by_cases hmark : c = '?'
      · simp [base, hmark]
      · simpa [base, hmark] using ih

/-- A query stays behind what a URL is normalized to. -/
theorem normalize_append_mark {url : Text} (hmark : '?' ∉ url) (query : Text) :
    normalize (url ++ '?' :: query) = normalize url ++ '?' :: query := by
  have hbehind : fromMark (url ++ '?' :: query) = '?' :: query := by
    simp [fromMark, List.dropWhile_append_of_pos (forall_ne_mark hmark)]
  rw [normalize_eq, base_append hmark, hbehind]

end Url

namespace Template

/-! ### References -/

/-- The names whose values are read from the URL. -/
def ReadsUrl (name : Text) : Prop :=
  name ∈ ["url".toList, "host".toList, "port".toList, "path".toList, "query".toList] ∨
    "param:".toList <+: name

theorem lookup_of_not_readsUrl {name : Text} (hname : ¬ReadsUrl name) (request : Request)
    (url : Text) : lookup { request with url := url } name = lookup request name := by
  simp only [ReadsUrl, List.mem_cons, List.not_mem_nil, or_false, not_or] at hname
  obtain ⟨⟨hurl, hhost, hport, hpath, hquery⟩, hparam⟩ := hname
  have hnone : Text.after? "param:".toList name = none := by
    rwa [← Option.not_isSome_iff_eq_none, Text.after?_isSome_iff]
  simp only [lookup, hurl, hhost, hport, hpath, hquery, if_false, hnone]
  rfl

/-- Two requests have the same values for all that a template refers to. -/
def AgreeOn (template : Text) (request other : Request) : Prop :=
  ∀ encoded name, .reference encoded name ∈ pieces template →
    lookup request name = lookup other name

/-- Without a dollar sign nothing is referred to. -/
theorem reference_notMem_pieces {template : Text} (hdollar : '$' ∉ template) (encoded : Bool)
    (name : Text) : .reference encoded name ∉ pieces template := by
  induction template with
  | nil => simp [pieces]
  | cons c rest ih =>
      simp only [List.mem_cons, not_or] at hdollar
      have hrest := ih hdollar.2
      rw [pieces]
      simp only [Ne.symm hdollar.1, if_false]
      split <;> simpa using hrest

/-- Nor is a placeholder left open. -/
theorem closed_of_notMem {template : Text} (hdollar : '$' ∉ template) : Closed template where
  number := by
    rintro before digits rfl
    simp at hdollar
  brace := by
    rintro before after rfl
    simp at hdollar

/-- A text without a dollar sign may stand before a template for another. -/
theorem AgreeOn.of_append {before behind rest : Text} {request other : Request}
    (hagree : AgreeOn (before ++ rest) request other) (hbefore : '$' ∉ before)
    (hbehind : '$' ∉ behind) : AgreeOn (behind ++ rest) request other := by
  intro encoded name hpiece
  apply hagree encoded name
  rw [pieces_append ((closed_of_notMem hbefore).seam rest)]
  rw [pieces_append ((closed_of_notMem hbehind).seam rest), List.mem_append] at hpiece
  exact List.mem_append_right _
    (hpiece.resolve_left (reference_notMem_pieces hbehind encoded name))

/-! ### A query behind a template -/

/-- No name that is open at the end of a template is closed by a query. -/
def Apart (template query : Text) : Prop :=
  ∀ before after, template = before ++ '$' :: '{' :: after → '}' ∈ after ∨ '}' ∉ query

variable {template query : Text}

theorem Apart.seam (hapart : Apart template query) : Seam template ('?' :: query) := by
  refine seam_of (fun _ _ _ => Or.inr ?_) fun before after htemplate => ?_
  · intro c hc
    obtain rfl := Option.some.inj hc
    decide
  · exact (hapart before after htemplate).imp_right (by simp)

theorem apart_of_notMem (hdollar : '$' ∉ template) : Apart template query := by
  rintro before after rfl
  simp at hdollar

theorem Apart.of_append {before behind rest : Text} (hapart : Apart (before ++ rest) query)
    (hbehind : '$' ∉ behind) : Apart (behind ++ rest) query := by
  intro first after hfirst
  rcases List.append_eq_append_iff.mp hfirst with ⟨middle, -, hrest⟩ | ⟨middle, hmiddle, hrest⟩
  · exact hapart (before ++ middle) after (by simp [hrest])
  · -- The dollar sign would be one of the text before, unless it begins the rest.
    cases middle with
    | nil =>
        obtain rfl : '$' :: '{' :: after = rest := hrest
        exact hapart before after rfl
    | cons c others =>
        obtain ⟨rfl, -⟩ := List.cons.inj hrest
        simp [hmiddle] at hbehind

end Template

namespace Request

/-- An expansion depends on the request by its document root and by what is referred to. -/
theorem expand_of_agreeOn {template : Text} {request other : Request}
    (hagree : Template.AgreeOn template request other)
    (hroot : request.documentRoot = other.documentRoot) (captures : Captures) :
    request.expand captures template = other.expand captures template := by
  refine List.flatMap_congr fun piece hpiece => ?_
  cases piece with
  | char c => rfl
  | root => exact hroot
  | group digits => rfl
  | reference encoded name =>
      simp only [Template.Piece.value, hagree encoded name hpiece]

end Request

namespace Action

/-! ### Paths joined -/

section Joined

variable {template suffix : Text}

/-- A path and a suffix are joined in the same way whether a query follows or not: the suffix
is more than slashes, or the path ends in one slash and no more. -/
def Joins (template suffix : Text) : Prop :=
  (∃ c ∈ suffix, c ≠ '/') ∨ ∃ folder, template = folder ++ ['/'] ∧ folder.getLast? ≠ some '/'

theorem joinPath_of_slashes (hslashes : ∀ c ∈ suffix, c = '/') :
    joinPath template suffix = template := by
  have hnil : suffix.dropWhile (fun c => c == '/') = [] :=
    List.dropWhile_eq_nil_iff.mpr (by simpa using hslashes)
  simp [joinPath, hnil]

theorem joinPath_of_not_slashes (hsuffix : ¬∀ c ∈ suffix, c = '/') :
    joinPath template suffix =
      template.rdropWhile (fun c => c == '/') ++ '/' :: suffix.dropWhile fun c => c == '/' := by
  have hkept : suffix.dropWhile (fun c => c == '/') ≠ [] := by
    simpa [List.dropWhile_eq_nil_iff] using hsuffix
  simp [joinPath, hkept, List.rdropWhile]

theorem Joins.joinPath_append (hjoins : Joins template suffix) (query : Text) :
    joinPath template (suffix ++ '?' :: query) = joinPath template suffix ++ '?' :: query := by
  have hquery : ¬∀ c ∈ suffix ++ '?' :: query, c = '/' :=
    fun hslashes => absurd (hslashes '?' (by simp)) (by decide)
  rw [joinPath_of_not_slashes hquery]
  -- With the query a suffix of slashes is no longer one, so the path loses its own and gets one.
  by_cases hslashes : ∀ c ∈ suffix, c = '/'
  · obtain ⟨folder, rfl, hfolder⟩ := hjoins.resolve_left (by simpa using hslashes)
    have htrim : (folder ++ ['/']).rdropWhile (fun c => c == '/') = folder := by
      rw [List.rdropWhile_concat_pos _ _ _ (by simp), List.rdropWhile_eq_self_iff]
      intro hne hlast
      exact hfolder (List.getLast?_eq_some_getLast hne ▸ congrArg some (beq_iff_eq.mp hlast))
    rw [joinPath_of_slashes hslashes, htrim,
      List.dropWhile_append_of_pos (by simpa using hslashes)]
    simp
  · have hkept : suffix.dropWhile (fun c => c == '/') ≠ [] := by
      simpa [List.dropWhile_eq_nil_iff] using hslashes
    rw [joinPath_of_not_slashes hslashes]
    simp [List.dropWhile_append, hkept]

/-- The dollar signs of a joined path are those of the suffix, if the path had none. -/
theorem exists_joinPath_eq (hdollar : '$' ∉ template) (suffix : Text) :
    ∃ folder slashes rest, joinPath template suffix = folder ++ rest ∧
      suffix = slashes ++ rest ∧ '$' ∉ folder ∧ '$' ∉ slashes := by
  by_cases hslashes : ∀ c ∈ suffix, c = '/'
  · refine ⟨template, suffix, [], by simp [joinPath_of_slashes hslashes], by simp, hdollar, ?_⟩
    exact fun hmem => absurd (hslashes '$' hmem) (by decide)
  · refine ⟨template.rdropWhile (fun c => c == '/') ++ ['/'],
      suffix.takeWhile fun c => c == '/', suffix.dropWhile fun c => c == '/',
      by simp [joinPath_of_not_slashes hslashes], List.takeWhile_append_dropWhile.symm, ?_, ?_⟩
    · intro hmem
      rcases List.mem_append.mp hmem with hmem | hmem
      · exact hdollar ((List.rdropWhile_prefix _ _).subset hmem)
      · exact absurd hmem (by decide)
    · exact fun hmem => absurd (List.mem_takeWhile_imp hmem) (by decide)

end Joined

/-- The path of the file that a template stands for. -/
def servedPath (request : Request) (template : Text) : Text :=
  Text.replaceChar '~' request.documentRoot (Url.base (request.expand [] template))

theorem filePath_startsWith {request : Request} {start suffix : Text}
    (hurl : Url.normalize request.url = start ++ suffix) (template : Text) :
    filePath (.startsWith start) [] request template =
      servedPath request (joinPath template suffix) := by
  rw [filePath, pathTemplate, Pattern.suffix?_startsWith hurl]
  rfl

/-- A query behind a template is cut off again. -/
theorem servedPath_append {template query : Text} (hapart : Template.Apart template query)
    (request : Request) :
    servedPath request (template ++ '?' :: query) = servedPath request template := by
  have hquery : request.expand [] ('?' :: query) = '?' :: request.expand [] query := by
    simp [Request.expand, Template.pieces, Template.Piece.value]
  rw [servedPath, request.expand_append [] hapart.seam, hquery, Url.base_append_mark]
  rfl

theorem servedPath_of_agreeOn {template : Text} {request other : Request}
    (hagree : Template.AgreeOn template request other)
    (hroot : request.documentRoot = other.documentRoot) :
    servedPath request template = servedPath other template := by
  rw [servedPath, request.expand_of_agreeOn hagree hroot, hroot]
  rfl

end Action

namespace Ruleset

section FilePath

variable {ruleset : Ruleset} {request : Request} {selected : Selected}
  {start template suffix query : Text}

theorem evaluate_file (hselect : ruleset.select? request.url = some selected)
    (hpattern : selected.entry.rule.pattern = .startsWith start)
    (haction : selected.entry.rule.action = .file template)
    (hmodifiers : ruleset.modifiersFor selected.entry = [])
    (hurl : Url.normalize request.url = start ++ suffix) (executor : Executor) :
    ruleset.evaluate executor request =
      .quiet (.sendFile (Action.servedPath request (Action.joinPath template suffix))) request := by
  have hcaptures := captures_of_startsWith hselect hpattern
  simp [evaluate, hselect, hmodifiers, Request.modify, haction, Action.perform, hpattern,
    hcaptures, Action.filePath_startsWith hurl]

/-- A file behind a literal, without modifiers, asked for with a query.  The rule matches as it
does without the query, and the template with the suffix is expanded as if no query stood
behind it, so the query comes to the path as the value of placeholders in the suffix alone.
The same file is served as without it if those have the same values, and only names that read
the URL may have others. -/
theorem evaluate_file_query (hselect : ruleset.select? request.url = some selected)
    (hpattern : selected.entry.rule.pattern = .startsWith start)
    (haction : selected.entry.rule.action = .file template)
    (hmodifiers : ruleset.modifiersFor selected.entry = []) (hdollar : '$' ∉ template)
    (hmark : '?' ∉ request.url) (hurl : Url.normalize request.url = start ++ suffix)
    (hjoins : Action.Joins template suffix) (hapart : Template.Apart suffix query)
    (executor : Executor) :
    let asked : Request := { request with url := request.url ++ '?' :: query }
    let joined := Action.joinPath template suffix
    ruleset.evaluate executor request =
        .quiet (.sendFile (Action.servedPath request joined)) request ∧
      selected.entry.rule.pattern.match? asked.url = some selected.captures ∧
      (ruleset.select? asked.url = some selected →
        ruleset.evaluate executor asked =
          .quiet (.sendFile (Action.servedPath asked joined)) asked) ∧
      (Template.AgreeOn suffix asked request →
        Action.servedPath asked joined = Action.servedPath request joined) ∧
      ∀ name, ¬Template.ReadsUrl name →
        Template.lookup asked name = Template.lookup request name := by
  intro asked joined
  obtain ⟨folder, slashes, rest, hjoined, hsuffix, hfolder, hslashes⟩ :=
    Action.exists_joinPath_eq hdollar suffix
  have hasked : Url.normalize asked.url = start ++ (suffix ++ '?' :: query) := by
    rw [Url.normalize_append_mark hmark, hurl, List.append_assoc]
  refine ⟨evaluate_file hselect hpattern haction hmodifiers hurl executor, ?matched, ?asked,
    ?same, fun name hname => Template.lookup_of_not_readsUrl hname request _⟩
  case matched =>
    rw [hpattern, captures_of_startsWith hselect hpattern, Pattern.match?_startsWith]
    exact ⟨⟨_, hasked.symm⟩, rfl⟩
  case asked =>
    intro hselected
    have happart : Template.Apart joined query := by
      rw [show joined = _ from hjoined]
      exact (hsuffix ▸ hapart).of_append hfolder
    rw [evaluate_file hselected hpattern haction hmodifiers hasked executor,
      hjoins.joinPath_append, Action.servedPath_append happart]
  case same =>
    intro hagree
    refine Action.servedPath_of_agreeOn ?_ rfl
    rw [show joined = _ from hjoined]
    exact (hsuffix ▸ hagree).of_append hslashes hfolder

end FilePath

namespace FilePathWitness

def ruleset : Ruleset := RulesFile.parse "a.test/ => file://~/".toList

def executor : Executor := fun _ => .error "no".toList

def start : Text := "http://a.test/".toList

def template : Text := "~/".toList

/-- A request for what the client wrote behind the start of the rule. -/
def requestFor (suffix : Text) : Request :=
  Request.arriving ("http://a.test/".toList ++ suffix) Headers.empty (some "/srv".toList)

/-- The rule is selected for all of them. -/
theorem select?_requestFor :
    ∃ selected, (∀ suffix, ruleset.select? (requestFor suffix).url = some selected) ∧
      selected.entry.rule.pattern = .startsWith start ∧
      selected.entry.rule.action = .file template ∧
      ruleset.modifiersFor selected.entry = [] := ⟨_, fun _ => rfl, rfl, rfl, rfl⟩

theorem normalize_requestFor (suffix : Text) :
    Url.normalize (requestFor suffix).url = start ++ suffix := rfl

end FilePathWitness

open FilePathWitness in
/-- A query behind the name of a file is of no account. -/
theorem evaluate_file_query_stylesheet :
    ∃ selected, ruleset.select? (requestFor "css/a.css".toList).url = some selected ∧
      selected.entry.rule.pattern = .startsWith start ∧
      selected.entry.rule.action = .file template ∧
      ruleset.modifiersFor selected.entry = [] ∧ '$' ∉ template ∧
      '?' ∉ (requestFor "css/a.css".toList).url ∧
      Url.normalize (requestFor "css/a.css".toList).url = start ++ "css/a.css".toList ∧
      Action.Joins template "css/a.css".toList ∧
      Template.Apart "css/a.css".toList "v=3".toList ∧
      (ruleset.evaluate executor (requestFor "css/a.css".toList)).result =
        .ok (.sendFile "/srv/css/a.css".toList) ∧
      (ruleset.evaluate executor (requestFor "css/a.css?v=3".toList)).result =
        .ok (.sendFile "/srv/css/a.css".toList) := by
  obtain ⟨selected, hselect, hpattern, haction, hmodifiers⟩ := select?_requestFor
  have hdollar : '$' ∉ template := by decide
  have hmark : '?' ∉ (requestFor "css/a.css".toList).url := by decide
  have hplain : '$' ∉ "css/a.css".toList := by decide
  have hjoins : Action.Joins template "css/a.css".toList := Or.inl ⟨'c', by decide⟩
  have hapart : Template.Apart "css/a.css".toList "v=3".toList := Template.apart_of_notMem hplain
  obtain ⟨hbare, -, hasked, hsame, -⟩ :=
    evaluate_file_query (hselect _) hpattern haction hmodifiers hdollar hmark
      (normalize_requestFor _) hjoins hapart executor
  have hagree := hsame fun encoded name hpiece =>
    absurd hpiece (Template.reference_notMem_pieces hplain encoded name)
  have hpath : Action.servedPath (requestFor "css/a.css".toList)
      (Action.joinPath template "css/a.css".toList) = "/srv/css/a.css".toList := by decide +kernel
  refine ⟨selected, hselect _, hpattern, haction, hmodifiers, hdollar, hmark,
    normalize_requestFor _, hjoins, hapart, ?_, ?_⟩
  · rw [hbare, hpath]
    rfl
  · have hasked := hasked (hselect "css/a.css?v=3".toList)
    rw [hagree, hpath] at hasked
    exact congrArg Action.Outcome.result hasked

namespace FilePathWitness

/-- A placeholder for the query. -/
def named : Text := Template.braced "query".toList

/-- Behind the template it brings the query into the path. -/
theorem servedPath_named (found : Request) :
    Action.servedPath found (template ++ named) =
      Text.replaceChar '~' found.documentRoot
        (Url.base (found.documentRoot ++ '/' :: found.query)) := by
  have hclosed : Template.Closed template := by decide
  have hreads : Template.Reads named (.reference false "query".toList) :=
    .plain (by decide) (by decide) (by decide)
  have hquery : found.expand [] named = found.query := found.expand_of_reads [] hreads
  have htemplate : found.expand [] template = found.documentRoot ++ ['/'] := by
    simp [Request.expand, template, Template.pieces, Template.Piece.value]
  rw [Action.servedPath, found.expand_append [] (hclosed.seam named), htemplate, hquery,
    List.append_assoc]
  rfl

end FilePathWitness

open FilePathWitness in
/-- A placeholder that the client wrote before the query names the file by the query. -/
theorem evaluate_file_query_named :
    ∃ selected, (∀ behind, ruleset.select? (requestFor (named ++ behind)).url = some selected) ∧
      selected.entry.rule.pattern = .startsWith start ∧ '?' ∉ start ∧
      selected.entry.rule.action = .file template ∧ '$' ∉ template ∧
      ruleset.modifiersFor selected.entry = [] ∧
      '?' ∉ (requestFor named).url ∧
      (ruleset.evaluate executor (requestFor named)).result = .ok (.sendFile "/srv/".toList) ∧
      (ruleset.evaluate executor (requestFor (named ++ "?x".toList))).result =
        .ok (.sendFile "/srv/x".toList) := by
  obtain ⟨selected, hselect, hpattern, haction, hmodifiers⟩ := select?_requestFor
  have hapart : Template.Apart (template ++ named) "x".toList := by
    intro before after _
    exact Or.inr (by decide)
  have hjoined : Action.joinPath template named = template ++ named := by decide
  have hasked : Action.joinPath template (named ++ "?x".toList) =
      (template ++ named) ++ '?' :: "x".toList := by decide
  refine ⟨selected, fun _ => hselect _, hpattern, by decide, haction, by decide, hmodifiers,
    by decide, ?_, ?_⟩
  · rw [evaluate_file (hselect _) hpattern haction hmodifiers (normalize_requestFor _),
      hjoined, servedPath_named]
    decide
  · rw [evaluate_file (hselect _) hpattern haction hmodifiers (normalize_requestFor _),
      hasked, Action.servedPath_append hapart, servedPath_named]
    decide

end Ruleset

end Reroute
