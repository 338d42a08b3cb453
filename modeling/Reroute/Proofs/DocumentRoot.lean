import Reroute.Proofs.FilePath

/-!
The document root in the path of a file.  A `~` of the template becomes the document root when
the template is expanded, the path is cut at its first `?`, and every `~` that is in it then
becomes the document root once more.  The main statement: behind a regular expression the path
is the root with the rest of the template behind it, exactly where the root has nothing in it
that is cut or replaced.
-/
namespace Reroute

namespace Text

section Replace

variable {c : Char} {value s : Text}

theorem replaceChar_append (c : Char) (value s t : Text) :
    replaceChar c value (s ++ t) = replaceChar c value s ++ replaceChar c value t :=
  List.flatMap_append

theorem replaceChar_of_notMem (hc : c ∉ s) (value : Text) : replaceChar c value s = s := by
  induction s with
  | nil => rfl
  | cons d rest ih =>
      simp only [List.mem_cons, not_or] at hc
      have hrest : replaceChar c value rest = rest := ih hc.2
      rw [replaceChar, List.flatMap_cons, if_neg (Ne.symm hc.1)]
      exact congrArg (d :: ·) hrest

/-- The first of the characters gives way to the value. -/
theorem replaceChar_append_cons (hc : c ∉ s) (value t : Text) :
    replaceChar c value (s ++ c :: t) = s ++ (value ++ replaceChar c value t) := by
  rw [replaceChar_append, replaceChar_of_notMem hc, replaceChar, List.flatMap_cons, if_pos rfl]
  rfl

theorem mem_replaceChar {d : Char} (hc : c ∈ s) (hd : d ∈ value) : d ∈ replaceChar c value s :=
  List.mem_flatMap.mpr ⟨c, hc, by simpa using hd⟩

theorem replaceChar_eq_nil_iff (hvalue : value ≠ []) : replaceChar c value s = [] ↔ s = [] := by
  constructor
  · intro hnil
    rw [replaceChar, List.flatMap_eq_nil_iff] at hnil
    apply List.eq_nil_iff_forall_not_mem.mpr
    intro d hd
    have hempty := hnil d hd
    split at hempty
    · exact hvalue hempty
    · exact List.cons_ne_nil d [] hempty
  · rintro rfl
    rfl

/-- A text put in the place of a character of its own is the same text only where it does not
hold the character, or nothing else. -/
theorem replaceChar_self_iff : replaceChar c s s = s ↔ c ∉ s ∨ s = [c] := by
  constructor
  · intro hself
    by_cases hc : c ∈ s
    · right
      obtain ⟨before, behind, hs, hbefore⟩ := List.eq_append_cons_of_mem hc
      have hreplaced : before ++ (s ++ replaceChar c s behind) = s := by
        rw [← replaceChar_append_cons hbefore, ← hs, hself]
      -- The text stands within what it is equal to, so nothing stands around it.
      have hlength := congrArg List.length hreplaced
      simp only [List.length_append] at hlength
      have hfirst : before = [] := List.length_eq_zero_iff.mp (by omega)
      have hlast : replaceChar c s behind = [] := List.length_eq_zero_iff.mp (by omega)
      rw [replaceChar_eq_nil_iff (List.ne_nil_of_mem hc)] at hlast
      rw [hs, hfirst, hlast, List.nil_append]
    · exact Or.inl hc
  · rintro (hc | rfl)
    · exact replaceChar_of_notMem hc s
    · simp [replaceChar]

end Replace

end Text

namespace Action

section Served

variable {root path : Text}

/-- A `~` before the first `?` of the root is all that stands there but for the rest of the
template, if the root in its place makes the path that was meant. -/
theorem eq_of_replaceChar_eq {start rest : Text} (hsplit : root = start ++ '?' :: rest)
    (htilde : '~' ∈ start) (hmark : '?' ∉ path)
    (hserved : Text.replaceChar '~' root start = root ++ '/' :: path) :
    start = '~' :: '/' :: path := by
  obtain ⟨before, behind, rfl, hbefore⟩ := List.eq_append_cons_of_mem htilde
  rw [Text.replaceChar_append_cons hbefore] at hserved
  -- The root begins with the first `~`: it would begin with what stands before that.
  have hfirst : before = [] := by
    cases before with
    | nil => rfl
    | cons c others =>
        have hjoined : root ++ '/' :: path =
            (c :: others) ++ '~' :: (behind ++ '?' :: (rest ++ '/' :: path)) := by
          rw [hsplit]
          simp
        have hcut := List.append_cancel_left (hserved.trans hjoined)
        have hc : c = '~' := by
          simpa [hsplit] using congrArg List.head? hcut
        simp [hc] at hbefore
  subst hfirst
  have hbehind : Text.replaceChar '~' root behind = '/' :: path :=
    List.append_cancel_left hserved
  -- A second `~` would bring the `?` of the root into the rest of the template.
  have hplain : '~' ∉ behind := by
    intro hagain
    have hmem : '?' ∈ root := hsplit ▸ List.mem_append_right _ List.mem_cons_self
    have hmark' : '?' ∈ '/' :: path := hbehind ▸ Text.mem_replaceChar hagain hmem
    simp [hmark] at hmark'
  rw [Text.replaceChar_of_notMem hplain] at hbehind
  rw [hbehind, List.nil_append]

/-- Where the root has a `?`, the path ends in it, and only what is put in place of a `~` can
make up for the rest. -/
theorem replaceChar_base_append_iff_of_mem (hmem : '?' ∈ root) (hroot : '~' ∉ path)
    (hmark : '?' ∉ path) :
    Text.replaceChar '~' root (Url.base (root ++ '/' :: path)) = root ++ '/' :: path ↔
      ∃ rest, root = '~' :: '/' :: path ++ '?' :: rest := by
  obtain ⟨start, rest, hsplit, hstart⟩ := List.eq_append_cons_of_mem hmem
  have hbase : Url.base (root ++ '/' :: path) = start := by
    rw [hsplit, List.append_assoc]
    exact Url.base_append hstart _
  rw [hbase]
  constructor
  · intro hserved
    by_cases htilde : '~' ∈ start
    · exact ⟨rest, eq_of_replaceChar_eq hsplit htilde hmark hserved ▸ hsplit⟩
    · rw [Text.replaceChar_of_notMem htilde, hsplit] at hserved
      have hlength := congrArg List.length hserved
      simp at hlength
  · rintro ⟨rest', hrest⟩
    have hplain : '?' ∉ '~' :: '/' :: path := by simp [hmark]
    obtain rfl : start = '~' :: '/' :: path := by
      rw [← Url.base_append hstart rest, ← hsplit, hrest, Url.base_append hplain]
    have hbehind : '~' ∉ '/' :: path := by simp [hroot]
    exact (Text.replaceChar_append_cons List.not_mem_nil root ('/' :: path)).trans
      (by rw [Text.replaceChar_of_notMem hbehind]; rfl)

/-- The path of a file is the root with the rest of the template behind it exactly where the
root has no `?`, and no `~` unless it is one; or where the root goes on as the template does, up
to a `?`. -/
theorem replaceChar_base_append_iff (root : Text) (hroot : '~' ∉ path) (hmark : '?' ∉ path) :
    Text.replaceChar '~' root (Url.base (root ++ '/' :: path)) = root ++ '/' :: path ↔
      ('?' ∉ root ∧ ('~' ∉ root ∨ root = ['~'])) ∨
        ∃ rest, root = '~' :: '/' :: path ++ '?' :: rest := by
  by_cases hmem : '?' ∈ root
  · rw [replaceChar_base_append_iff_of_mem hmem hroot hmark]
    exact ⟨Or.inr, fun hserved => hserved.resolve_left fun hplain => hplain.1 hmem⟩
  · have hbase : Url.base (root ++ '/' :: path) = root ++ '/' :: path :=
      Url.base_of_notMem (by simp [hmem, hmark])
    have hpath : '~' ∉ '/' :: path := by simp [hroot]
    rw [hbase, Text.replaceChar_append, Text.replaceChar_of_notMem hpath,
      List.append_left_inj, Text.replaceChar_self_iff]
    refine ⟨fun hself => Or.inl ⟨hmem, hself⟩, ?_⟩
    rintro (⟨-, hself⟩ | ⟨rest, rfl⟩)
    · exact hself
    · simp at hmem

/-- The action of a file below the document root. -/
theorem compile_file (pattern : Pattern) (template : Text) :
    compile pattern ("file://".toList ++ template) = .file template := rfl

theorem expand_root {request : Request} (captures : Captures) (hroot : '~' ∉ path)
    (hdollar : '$' ∉ path) :
    request.expand captures ('~' :: '/' :: path) = request.documentRoot ++ '/' :: path := by
  have hclosed : Template.Closed ['~'] := by decide
  have hplain : request.expand captures ('/' :: path) = '/' :: path :=
    request.expand_of_infix_none captures fun m hm =>
      Template.not_isPlaceholder_of_infix (by simp [hroot]) (by simp [hdollar]) hm
  have happend := request.expand_append captures (hclosed.seam ('/' :: path))
  rw [hplain, request.expand_of_reads captures .root] at happend
  exact happend

/-- A regular expression has no suffix, so only the template decides on the path. -/
theorem filePath_regex {request : Request} (compiled : Regex) (captures : Captures)
    (hroot : '~' ∉ path) (hdollar : '$' ∉ path) :
    filePath (.regex compiled) captures request ('~' :: '/' :: path) =
      Text.replaceChar '~' request.documentRoot
        (Url.base (request.documentRoot ++ '/' :: path)) := by
  have htemplate : pathTemplate (.regex compiled) ('~' :: '/' :: path) request.url =
      '~' :: '/' :: path := rfl
  rw [filePath, htemplate, expand_root captures hroot hdollar]
  rfl

end Served

end Action

/-! ### Where the document root comes from -/

namespace Modifier

theorem documentRoot_apply (request : Request) (modifier : Modifier) :
    (modifier.apply request).documentRoot =
      match modifier with
      | .setDocumentRoot root => request.expand [] root
      | _ => request.documentRoot := by
  have hkeys : Request.documentRootKey ≠ Request.delayKey := by decide
  rw [Request.documentRoot, Request.get?, apply_store]
  cases modifier with
  | setDelay millis => simp [stored?, Store.get?_set, hkeys, Request.documentRoot, Request.get?]
  | setDocumentRoot root => simp [stored?, Store.get?_set]
  | _ => rfl

end Modifier

namespace Request

theorem modify_append (request : Request) (first second : List Modifier) :
    request.modify (first ++ second) = (request.modify first).modify second :=
  List.foldl_append

/-- Other modifiers leave the document root. -/
theorem documentRoot_modify {modifiers : List Modifier}
    (hnone : ∀ root, .setDocumentRoot root ∉ modifiers) (request : Request) :
    (request.modify modifiers).documentRoot = request.documentRoot := by
  induction modifiers using List.reverseRecOn with
  | nil => rfl
  | append_singleton modifiers modifier ih =>
      have hother : ∀ root, modifier ≠ .setDocumentRoot root := by
        rintro root rfl
        exact hnone root (List.mem_append_right _ List.mem_cons_self)
      have hbefore := ih fun root hmem => hnone root (List.mem_append_left _ hmem)
      rw [modify_concat, Modifier.documentRoot_apply, ← hbefore]
      cases modifier with
      | setDocumentRoot root => exact absurd rfl (hother root)
      | _ => rfl

/-- The last modifier that sets the document root has its way. -/
theorem documentRoot_modify_last {behind : List Modifier}
    (hlast : ∀ root, .setDocumentRoot root ∉ behind) (request : Request)
    (before : List Modifier) (template : Text) :
    (request.modify (before ++ .setDocumentRoot template :: behind)).documentRoot =
      (request.modify before).expand [] template := by
  have hsplit : before ++ .setDocumentRoot template :: behind =
      before ++ [.setDocumentRoot template] ++ behind := by simp
  rw [hsplit, modify_append, documentRoot_modify hlast, modify_concat,
    Modifier.documentRoot_apply]

end Request

namespace Ruleset

section FileRoot

variable {ruleset : Ruleset} {request : Request} {selected : Selected} {compiled : Regex}
  {path : Text}

theorem evaluate_file_regex (hselect : ruleset.select? request.url = some selected)
    (hpattern : selected.entry.rule.pattern = .regex compiled)
    (haction : selected.entry.rule.action =
      Action.compile selected.entry.rule.pattern ("file://~/".toList ++ path))
    (hroot : '~' ∉ path) (hdollar : '$' ∉ path) (executor : Executor) :
    let found := request.modify (ruleset.modifiersFor selected.entry)
    ruleset.evaluate executor request =
      .quiet (.sendFile (Text.replaceChar '~' found.documentRoot
        (Url.base (found.documentRoot ++ '/' :: path)))) found := by
  have hcompiled : selected.entry.rule.action = .file ('~' :: '/' :: path) :=
    haction.trans (Action.compile_file _ ('~' :: '/' :: path))
  rw [evaluate_of_some hselect, ready_eq, hcompiled, Action.perform, hpattern,
    Action.filePath_regex compiled _ hroot hdollar]

/-- A file below the document root, behind a regular expression.  The root is what the last
modifier that sets it has made it, or else what the request came with.  The path is the root
with the rest of the template behind it, cut at its first `?` and then with the root in place of
every `~`, so that it is the root and the rest as they are exactly where there is nothing to cut
or replace in the root, or where the one makes up for the other. -/
theorem evaluate_file_root (hselect : ruleset.select? request.url = some selected)
    (hpattern : selected.entry.rule.pattern = .regex compiled)
    (haction : selected.entry.rule.action =
      Action.compile selected.entry.rule.pattern ("file://~/".toList ++ path))
    (hroot : '~' ∉ path) (hdollar : '$' ∉ path) (hmark : '?' ∉ path) (executor : Executor) :
    let modifiers := ruleset.modifiersFor selected.entry
    let found := request.modify modifiers
    let root := found.documentRoot
    let served := Text.replaceChar '~' root (Url.base (root ++ '/' :: path))
    ruleset.evaluate executor request = .quiet (.sendFile served) found ∧
      (served = root ++ '/' :: path ↔
        ('?' ∉ root ∧ ('~' ∉ root ∨ root = ['~'])) ∨
          ∃ rest, root = '~' :: '/' :: path ++ '?' :: rest) ∧
      ((∀ template, .setDocumentRoot template ∉ modifiers) → root = request.documentRoot) ∧
      ∀ before template behind, modifiers = before ++ .setDocumentRoot template :: behind →
        (∀ other, .setDocumentRoot other ∉ behind) →
          root = (request.modify before).expand [] template := by
  intro modifiers found root served
  refine ⟨evaluate_file_regex hselect hpattern haction hroot hdollar executor,
    Action.replaceChar_base_append_iff root hroot hmark,
    fun hnone => Request.documentRoot_modify hnone request, ?_⟩
  intro before template behind hmodifiers hlast
  rw [← Request.documentRoot_modify_last hlast request before template, ← hmodifiers]

end FileRoot

namespace DocumentRootWitness

def ruleset : Ruleset := RulesFile.parse "// => file://~/x".toList

def executor : Executor := fun _ => .error "no".toList

/-- A request that arrives where the document root is this one. -/
def requestFor (root : Text) : Request :=
  Request.arriving "http://a.test/".toList Headers.empty (some root)

/-- The rule is selected for all of them, since they ask for one URL. -/
theorem select?_requestFor :
    ∃ selected compiled, (∀ root, ruleset.select? (requestFor root).url = some selected) ∧
      selected.entry.rule.pattern = .regex compiled ∧
      selected.entry.rule.action =
        Action.compile selected.entry.rule.pattern ("file://~/".toList ++ "x".toList) ∧
      ruleset.modifiersFor selected.entry = [] := by
  have hrule : ∃ selected compiled,
      ruleset.select? "http://a.test/".toList = some selected ∧
        selected.entry.rule.pattern = .regex compiled ∧
        selected.entry.rule.action =
          Action.compile selected.entry.rule.pattern ("file://~/".toList ++ "x".toList) ∧
        ruleset.modifiersFor selected.entry = [] := ⟨_, _, rfl, rfl, rfl, rfl⟩
  obtain ⟨selected, compiled, hselect, hrule⟩ := hrule
  exact ⟨selected, compiled, fun _ => hselect, hrule⟩

theorem plain : '~' ∉ "x".toList ∧ '$' ∉ "x".toList ∧ '?' ∉ "x".toList := by decide

def home : Text := "/home/~me".toList

def asking : Text := "/srv?1".toList

end DocumentRootWitness

open DocumentRootWitness in
/-- A plain root comes through. -/
theorem evaluate_file_root_plain :
    ∃ selected compiled, ruleset.select? (requestFor "/srv".toList).url = some selected ∧
      selected.entry.rule.pattern = .regex compiled ∧
      selected.entry.rule.action =
        Action.compile selected.entry.rule.pattern ("file://~/".toList ++ "x".toList) ∧
      ('~' ∉ "x".toList ∧ '$' ∉ "x".toList ∧ '?' ∉ "x".toList) ∧
      (requestFor "/srv".toList).documentRoot = "/srv".toList ∧
      (ruleset.evaluate executor (requestFor "/srv".toList)).result =
        .ok (.sendFile "/srv/x".toList) := by
  obtain ⟨selected, compiled, hselect, hpattern, haction, hmodifiers⟩ := select?_requestFor
  have hselect := hselect "/srv".toList
  obtain ⟨hroot, hdollar, hmark⟩ := plain
  obtain ⟨hevaluated, hserved, hkept, -⟩ :=
    evaluate_file_root hselect hpattern haction hroot hdollar hmark executor
  have hroot : ((requestFor "/srv".toList).modify
      (ruleset.modifiersFor selected.entry)).documentRoot = "/srv".toList :=
    hkept (by simp [hmodifiers])
  rw [hroot] at hevaluated hserved
  refine ⟨selected, compiled, hselect, hpattern, haction, plain, rfl, ?_⟩
  rw [hevaluated, hserved.mpr (Or.inl (by decide))]
  rfl

open DocumentRootWitness in
/-- A `~` of the root gives way to the root, and what stands behind a `?` of the root is lost. -/
theorem evaluate_file_root_replaced :
    (∃ selected compiled, (∀ root, ruleset.select? (requestFor root).url = some selected) ∧
      selected.entry.rule.pattern = .regex compiled ∧
      selected.entry.rule.action =
        Action.compile selected.entry.rule.pattern ("file://~/".toList ++ "x".toList)) ∧
    ('~' ∉ "x".toList ∧ '$' ∉ "x".toList ∧ '?' ∉ "x".toList) ∧
    (∀ root, (requestFor root).documentRoot = root) ∧
    (ruleset.evaluate executor (requestFor home)).result =
      .ok (.sendFile "/home//home/~meme/x".toList) ∧
    "/home//home/~meme/x".toList ≠ home ++ '/' :: "x".toList ∧
    (ruleset.evaluate executor (requestFor asking)).result = .ok (.sendFile "/srv".toList) ∧
    "/srv".toList ≠ asking ++ '/' :: "x".toList := by
  obtain ⟨selected, compiled, hselect, hpattern, haction, hmodifiers⟩ := select?_requestFor
  have hserved (root : Text) : (ruleset.evaluate executor (requestFor root)).result =
      .ok (.sendFile (Text.replaceChar '~' root (Url.base (root ++ '/' :: "x".toList)))) := by
    rw [evaluate_file_regex (hselect root) hpattern haction (by decide) (by decide), hmodifiers]
    rfl
  refine ⟨⟨selected, compiled, hselect, hpattern, haction⟩, plain, fun _ => rfl, ?_, by decide,
    ?_, by decide⟩
  · rw [hserved]
    decide
  · rw [hserved]
    decide

end Ruleset

end Reroute
