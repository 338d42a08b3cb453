import Mathlib.Data.List.TakeWhile
import Reroute.Template

/-!
Placeholders by their grammar.  Cutting a template finds the longest placeholder at every
place, from left to right: a placeholder that does not go on makes one piece, whatever
stands behind it, and a character at which no placeholder begins stands for itself.
-/
namespace Reroute

namespace Template

/-! ### The grammar -/

/-- A name in braces behind a dollar sign. -/
def braced (name : Text) : Text :=
  '$' :: '{' :: (name ++ ['}'])

theorem braced_inj {name other : Text} : braced name = braced other ↔ name = other := by
  simp [braced]

/-- The texts that are placeholders, with the pieces they are read as. -/
inductive Reads : Text → Piece → Prop
  | root : Reads ['~'] .root
  | group {digits : Text} (hne : digits ≠ [])
      (hdigits : ∀ d ∈ digits, Text.isDecimalDigit d = true) :
      Reads ('$' :: digits) (.group digits)
  | plain {name : Text} (hne : name ≠ []) (hclose : '}' ∉ name)
      (hplain : name.head? ≠ some '&') : Reads (braced name) (.reference false name)
  | encoded {name : Text} (hne : name ≠ []) (hclose : '}' ∉ name) :
      Reads (braced ('&' :: name)) (.reference true name)
  | ampersand : Reads (braced ['&']) (.reference false ['&'])

/-- Whether a text is a placeholder, and nothing more. -/
def IsPlaceholder (m : Text) : Prop :=
  ∃ piece, Reads m piece

/-- A placeholder that does not go on in the text behind it. -/
def Longest (m after : Text) : Prop :=
  ∀ d, after.head? = some d → ¬IsPlaceholder (m ++ [d])

theorem IsPlaceholder.ne_nil {m : Text} (hplaceholder : IsPlaceholder m) : m ≠ [] := by
  obtain ⟨piece, hreads⟩ := hplaceholder
  cases hreads <;> simp [braced]

/-- A name in braces is read as what it refers to. -/
theorem reads_braced {name : Text} {piece : Piece} (hclose : '}' ∉ name)
    (hname : reference? name = some piece) : Reads (braced name) piece := by
  unfold reference? at hname
  split at hname
  case h_1 => exact nomatch hname
  case h_2 =>
      obtain rfl := Option.some.inj hname
      exact .ampersand
  case h_3 rest hne =>
      obtain rfl := Option.some.inj hname
      exact .encoded (fun hnil => hne (by rw [hnil]))
        (fun hmem => hclose (List.mem_cons_of_mem '&' hmem))
  case h_4 hne _ hamp =>
      obtain rfl := Option.some.inj hname
      refine .plain hne hclose ?_
      intro hhead
      obtain ⟨rest, rfl⟩ := List.head?_eq_some_iff.mp hhead
      exact hamp rest rfl

theorem exists_reference? {name : Text} (hne : name ≠ []) :
    ∃ piece, reference? name = some piece := by
  unfold reference?
  split
  case h_1 => exact absurd rfl hne
  all_goals exact ⟨_, rfl⟩

/-- The placeholders are `~`, numbers behind a dollar sign and names in braces behind one. -/
theorem isPlaceholder_iff {m : Text} :
    IsPlaceholder m ↔ m = ['~'] ∨
      (∃ digits, m = '$' :: digits ∧ digits ≠ [] ∧
        ∀ d ∈ digits, Text.isDecimalDigit d = true) ∨
      ∃ name, m = braced name ∧ name ≠ [] ∧ '}' ∉ name := by
  constructor
  · rintro ⟨piece, hreads⟩
    cases hreads with
    | root => exact Or.inl rfl
    | group hne hdigits => exact Or.inr (Or.inl ⟨_, rfl, hne, hdigits⟩)
    | plain hne hclose => exact Or.inr (Or.inr ⟨_, rfl, hne, hclose⟩)
    | encoded hne hclose => exact Or.inr (Or.inr ⟨_, rfl, by simp, by simp [hclose]⟩)
    | ampersand => exact Or.inr (Or.inr ⟨_, rfl, by simp, by simp⟩)
  · rintro (rfl | ⟨digits, rfl, hne, hdigits⟩ | ⟨name, rfl, hne, hclose⟩)
    · exact ⟨_, .root⟩
    · exact ⟨_, .group hne hdigits⟩
    · obtain ⟨piece, hpiece⟩ := exists_reference? hne
      exact ⟨piece, reads_braced hclose hpiece⟩

/-- No placeholder stands in a text without the two characters that begin one. -/
theorem not_isPlaceholder_of_infix {s m : Text} (hroot : '~' ∉ s) (hdollar : '$' ∉ s)
    (hm : m <:+: s) : ¬IsPlaceholder m := by
  intro hplaceholder
  rcases isPlaceholder_iff.mp hplaceholder with rfl | ⟨digits, rfl, -⟩ | ⟨name, rfl, -⟩
  · exact hroot (hm.subset List.mem_cons_self)
  · exact hdollar (hm.subset List.mem_cons_self)
  · exact hdollar (hm.subset List.mem_cons_self)

/-- Braces end a placeholder. -/
theorem longest_braced (name after : Text) : Longest (braced name) after := by
  intro d _ hplaceholder
  rcases isPlaceholder_iff.mp hplaceholder with
    hroot | ⟨digits, hdollar, -, hdigits⟩ | ⟨other, hbraced, -, hother⟩
  · simp [braced] at hroot
  · have hbrace : '{' ∈ digits := by
      simp only [braced, List.cons_append, List.cons.injEq, true_and] at hdollar
      simp [← hdollar]
    exact absurd (hdigits '{' hbrace) (by decide)
  · have hname : name ++ ['}'] ++ [d] = other ++ ['}'] := by simpa [braced] using hbraced
    obtain ⟨hother', -⟩ := List.append_inj' hname rfl
    exact hother (by simp [← hother'])

theorem longest_root (after : Text) : Longest ['~'] after := by
  intro d _ hplaceholder
  rcases isPlaceholder_iff.mp hplaceholder with hroot | ⟨_, hdollar, -⟩ | ⟨_, hbraced, -⟩
  · simp at hroot
  · simp at hdollar
  · simp [braced] at hbraced

/-- A number goes on with a digit and with nothing else. -/
theorem longest_group_iff {digits after : Text} (hne : digits ≠ [])
    (hdigits : ∀ d ∈ digits, Text.isDecimalDigit d = true) :
    Longest ('$' :: digits) after ↔
      ∀ d, after.head? = some d → Text.isDecimalDigit d = false := by
  constructor
  · intro hlongest d hd
    rw [← Bool.not_eq_true]
    intro hdigit
    refine hlongest d hd (isPlaceholder_iff.mpr (Or.inr (Or.inl ⟨digits ++ [d], rfl, ?_, ?_⟩)))
    · simp
    · intro e he
      rcases List.mem_append.mp he with he | he
      · exact hdigits e he
      · rwa [List.mem_singleton.mp he]
  · intro hend d hd hplaceholder
    rcases isPlaceholder_iff.mp hplaceholder with
      hroot | ⟨other, hdollar, -, hother⟩ | ⟨name, hbraced, -⟩
    · simp at hroot
    · have hother' : digits ++ [d] = other := (List.cons.inj hdollar).2
      have hdigit := hother d (by simp [← hother'])
      rw [hend d hd] at hdigit
      exact nomatch hdigit
    · obtain ⟨first, rest, rfl⟩ := List.exists_cons_of_ne_nil hne
      have hfirst : first = '{' := by
        simp only [braced, List.cons_append, List.cons.injEq] at hbraced
        exact hbraced.2.1
      exact absurd (hdigits first List.mem_cons_self) (by rw [hfirst]; decide)

/-! ### Reading one placeholder -/

theorem placeholder?_of_digits {digits after : Text} (hne : digits ≠ [])
    (hdigits : ∀ d ∈ digits, Text.isDecimalDigit d = true)
    (hend : ∀ d, after.head? = some d → Text.isDecimalDigit d = false) :
    placeholder? (digits ++ after) = some (.group digits, after) := by
  have hnil : after.takeWhile Text.isDecimalDigit = [] := by
    cases after with
    | nil => rfl
    | cons d rest => exact List.takeWhile_cons_of_neg (by simp [hend d rfl])
  have hdrop : after.dropWhile Text.isDecimalDigit = after := by
    cases after with
    | nil => rfl
    | cons d rest => exact List.dropWhile_cons_of_neg (by simp [hend d rfl])
  have htake : (digits ++ after).takeWhile Text.isDecimalDigit = digits := by
    rw [List.takeWhile_append_of_pos hdigits, hnil, List.append_nil]
  simp [placeholder?, htake, hne, List.dropWhile_append_of_pos hdigits, hdrop]

theorem placeholder?_of_name {name : Text} (hclose : '}' ∉ name) (after : Text) :
    placeholder? ('{' :: (name ++ '}' :: after)) =
      (reference? name).map fun piece => (piece, after) := by
  have hopen : Text.isDecimalDigit '{' = false := by decide
  have hname : ∀ c ∈ name, (c != '}') = true := by
    intro c hc
    simp only [bne_iff_ne, ne_eq]
    rintro rfl
    exact hclose hc
  have htake : (name ++ '}' :: after).takeWhile (fun c => c != '}') = name := by
    rw [List.takeWhile_append_of_pos hname, List.takeWhile_cons_of_neg (by simp),
      List.append_nil]
  have hdrop : (name ++ '}' :: after).dropWhile (fun c => c != '}') = '}' :: after := by
    rw [List.dropWhile_append_of_pos hname, List.dropWhile_cons_of_neg (by simp)]
  simp [placeholder?, hopen, htake, hdrop]

/-- What is cut off behind a dollar sign is the longest placeholder there. -/
theorem placeholder?_sound {rest after : Text} {piece : Piece}
    (hplaceholder : placeholder? rest = some (piece, after)) :
    ∃ m, Reads m piece ∧ '$' :: rest = m ++ after ∧ Longest m after := by
  unfold placeholder? at hplaceholder
  split at hplaceholder
  case isTrue hnone =>
      split at hplaceholder
      case h_1 body =>
          split at hplaceholder
          case h_1 => exact nomatch hplaceholder
          case h_2 c behind hdrop =>
              obtain ⟨_, hname, hpair⟩ := Option.map_eq_some_iff.mp hplaceholder
              obtain ⟨rfl, rfl⟩ := Prod.mk.inj hpair
              have hc : c = '}' := by
                have hhead := List.head?_dropWhile_not (fun c => c != '}') body
                simpa [hdrop] using hhead
              have hclose : '}' ∉ body.takeWhile fun c => c != '}' := by
                intro hmem
                simpa using List.mem_takeWhile_imp hmem
              refine ⟨_, reads_braced hclose hname, ?_, longest_braced _ _⟩
              have hbody := List.takeWhile_append_dropWhile (p := fun c => c != '}') (l := body)
              rw [hdrop, hc] at hbody
              simp [braced, hbody]
      case h_2 => exact nomatch hplaceholder
  case isFalse hsome =>
      obtain ⟨rfl, rfl⟩ := Prod.mk.inj (Option.some.inj hplaceholder)
      have hne : rest.takeWhile Text.isDecimalDigit ≠ [] := by simpa using hsome
      have hdigits : ∀ d ∈ rest.takeWhile Text.isDecimalDigit, Text.isDecimalDigit d = true :=
        fun d hd => List.mem_takeWhile_imp hd
      refine ⟨_, .group hne hdigits, ?_, (longest_group_iff hne hdigits).mpr ?_⟩
      · simp [List.takeWhile_append_dropWhile]
      · intro d hd
        have hhead := List.head?_dropWhile_not Text.isDecimalDigit rest
        simpa [hd] using hhead

theorem reference?_of_reads {name : Text} {piece : Piece} (hreads : Reads (braced name) piece) :
    '}' ∉ name ∧ reference? name = some piece := by
  generalize hbraced : braced name = m at hreads
  cases hreads with
  | root => simp [braced] at hbraced
  | group hne hdigits =>
      simp only [braced, List.cons.injEq, true_and] at hbraced
      exact absurd (hdigits '{' (by simp [← hbraced])) (by decide)
  | @plain other hne hclose hplain =>
      obtain rfl := braced_inj.mp hbraced
      refine ⟨hclose, ?_⟩
      cases name with
      | nil => exact absurd rfl hne
      | cons c rest =>
          have hc : c ≠ '&' := by simpa using hplain
          simp [reference?, hc]
  | @encoded other hne hclose =>
      obtain rfl := braced_inj.mp hbraced
      obtain ⟨c, rest, rfl⟩ := List.exists_cons_of_ne_nil hne
      exact ⟨by simpa using hclose, rfl⟩
  | ampersand =>
      obtain rfl := braced_inj.mp hbraced
      exact ⟨by decide, rfl⟩

theorem placeholder?_of_braced {rest name after : Text} {piece : Piece}
    (hreads : Reads (braced name) piece) (hrest : '$' :: rest = braced name ++ after) :
    placeholder? rest = some (piece, after) := by
  obtain ⟨hclose, hname⟩ := reference?_of_reads hreads
  have hrest : rest = '{' :: (name ++ '}' :: after) := by simpa [braced] using hrest
  rw [hrest, placeholder?_of_name hclose, hname]
  rfl

/-- The longest placeholder behind a dollar sign is cut off. -/
theorem placeholder?_complete {rest m after : Text} {piece : Piece} (hreads : Reads m piece)
    (hrest : '$' :: rest = m ++ after) (hlongest : Longest m after) :
    placeholder? rest = some (piece, after) := by
  cases hreads with
  | root => simp at hrest
  | group hne hdigits =>
      have hrest : rest = _ ++ after := (List.cons.inj hrest).2
      rw [hrest, placeholder?_of_digits hne hdigits
        ((longest_group_iff hne hdigits).mp hlongest)]
  | plain hne hclose hplain => exact placeholder?_of_braced (.plain hne hclose hplain) hrest
  | encoded hne hclose => exact placeholder?_of_braced (.encoded hne hclose) hrest
  | ampersand => exact placeholder?_of_braced .ampersand hrest

/-- Where any placeholder stands behind a dollar sign, one is cut off. -/
theorem placeholder?_isSome {rest m after : Text} (hplaceholder : IsPlaceholder m)
    (hrest : '$' :: rest = m ++ after) : (placeholder? rest).isSome := by
  obtain ⟨piece, hreads⟩ := hplaceholder
  cases hreads with
  | root => simp at hrest
  | @group digits hne hdigits =>
      have htake : rest.takeWhile Text.isDecimalDigit ≠ [] := by
        obtain ⟨first, others, rfl⟩ := List.exists_cons_of_ne_nil hne
        have hrest : rest = first :: (others ++ after) := (List.cons.inj hrest).2
        rw [hrest, List.takeWhile_cons_of_pos (hdigits first List.mem_cons_self)]
        exact List.cons_ne_nil _ _
      simp [placeholder?, htake]
  | plain hne hclose hplain =>
      rw [placeholder?_of_braced (.plain hne hclose hplain) hrest]
      rfl
  | encoded hne hclose =>
      rw [placeholder?_of_braced (.encoded hne hclose) hrest]
      rfl
  | ampersand =>
      rw [placeholder?_of_braced .ampersand hrest]
      rfl

/-! ### Cutting at one place -/

/-- A placeholder that does not go on is a piece, and what follows is cut on its own. -/
theorem pieces_of_reads {m after : Text} {piece : Piece} (hreads : Reads m piece)
    (hlongest : Longest m after) : pieces (m ++ after) = piece :: pieces after := by
  obtain ⟨c, rest, hm⟩ := List.exists_cons_of_ne_nil (IsPlaceholder.ne_nil ⟨piece, hreads⟩)
  by_cases hroot : c = '~'
  · subst hroot
    cases hreads with
    | root => simp [pieces]
    | _ => simp [braced] at hm
  · have hdollar : c = '$' := by
      cases hreads with
      | root => exact absurd (List.cons.inj hm).1.symm hroot
      | _ => exact (List.cons.inj hm).1.symm
    subst hdollar
    have hplaceholder : placeholder? (rest ++ after) = some (piece, after) :=
      placeholder?_complete hreads (by rw [hm]; rfl) hlongest
    rw [hm, List.cons_append, pieces]
    simp only [hroot, if_false, if_true]
    split
    case h_1 piece' after' hsome =>
        obtain ⟨rfl, rfl⟩ := Prod.mk.inj (Option.some.inj (hsome.symm.trans hplaceholder))
        rfl
    case h_2 hnone => exact absurd (hnone.symm.trans hplaceholder) (by simp)

/-- A character at which no placeholder begins stands for itself. -/
theorem pieces_of_none {c : Char} {rest : Text}
    (hnone : ∀ m after, IsPlaceholder m → c :: rest ≠ m ++ after) :
    pieces (c :: rest) = .char c :: pieces rest := by
  have hroot : c ≠ '~' := by
    rintro rfl
    exact hnone ['~'] rest ⟨_, .root⟩ rfl
  by_cases hdollar : c = '$'
  · subst hdollar
    rw [pieces]
    simp only [hroot, if_false, if_true]
    split
    case h_1 piece after hsome =>
        obtain ⟨m, hreads, hrest, -⟩ := placeholder?_sound hsome
        exact absurd hrest (hnone m after ⟨piece, hreads⟩)
    case h_2 => rfl
  · rw [pieces]
    simp only [hroot, hdollar, if_false]

/-- At every place stands a longest placeholder, or none at all. -/
theorem longest_or_none (s : Text) :
    (∃ m piece after, Reads m piece ∧ s = m ++ after ∧ Longest m after) ∨
      ∀ m after, IsPlaceholder m → s ≠ m ++ after := by
  by_cases hsome : ∃ m after, IsPlaceholder m ∧ s = m ++ after
  · left
    obtain ⟨m, after, ⟨piece, hreads⟩, hs⟩ := hsome
    by_cases hroot : m = ['~']
    · exact ⟨_, _, after, .root, by rw [hs, hroot], longest_root after⟩
    · obtain ⟨rest, rfl⟩ : ∃ rest, s = '$' :: rest := by
        cases hreads with
        | root => exact absurd rfl hroot
        | _ => exact ⟨_, hs⟩
      obtain ⟨⟨piece', after'⟩, hcut⟩ :=
        Option.isSome_iff_exists.mp (placeholder?_isSome ⟨piece, hreads⟩ hs)
      obtain ⟨m', hreads', hs', hlongest⟩ := placeholder?_sound hcut
      exact ⟨m', piece', after', hreads', hs', hlongest⟩
  · right
    intro m after hplaceholder hs
    exact hsome ⟨m, after, hplaceholder, hs⟩

/-- Induction along the pieces of a text: over a longest placeholder, or over a character at which
none begins. -/
@[elab_as_elim]
theorem pieces_induction {motive : Text → Prop} (nil : motive [])
    (reads : ∀ m piece after, Reads m piece → Longest m after → motive after →
      motive (m ++ after))
    (char : ∀ c rest, (∀ m after, IsPlaceholder m → c :: rest ≠ m ++ after) → motive rest →
      motive (c :: rest)) (s : Text) : motive s := by
  induction hlength : s.length using Nat.strong_induction_on generalizing s with
  | h length ih =>
      rcases longest_or_none s with ⟨m, piece, after, hreads, rfl, hlongest⟩ | hnone
      · have hshorter : after.length < length := by
          have hm := List.length_pos_iff.mpr (IsPlaceholder.ne_nil ⟨piece, hreads⟩)
          simp only [List.length_append] at hlength
          omega
        exact reads m piece after hreads hlongest (ih after.length hshorter after rfl)
      · cases s with
        | nil => exact nil
        | cons c rest =>
            have hshorter : rest.length < length := by
              simp only [List.length_cons] at hlength
              omega
            exact char c rest hnone (ih rest.length hshorter rest rfl)

end Template

end Reroute
