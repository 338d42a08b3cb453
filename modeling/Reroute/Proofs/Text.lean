import Mathlib.Data.List.DropRight
import Reroute.Text.Basic

/-!
Facts about the cuts of texts: what a cut finds, and that nothing but the mark is lost.
-/
namespace Reroute.Text

/-! ### Beginnings, ends and marks -/

@[simp] theorem after?_eq_some_iff {start s rest : Text} :
    after? start s = some rest ↔ start ++ rest = s :=
  List.isPrefixOf?_eq_some_iff_append_eq

@[simp] theorem before?_eq_some_iff {finish s rest : Text} :
    before? finish s = some rest ↔ rest ++ finish = s := by
  constructor
  · intro hbefore
    obtain ⟨reversed, hreversed, rfl⟩ := Option.map_eq_some_iff.mp hbefore
    have happend := List.isPrefixOf?_eq_some_iff_append_eq.mp hreversed
    simpa using congrArg List.reverse happend
  · rintro rfl
    refine Option.map_eq_some_iff.mpr ⟨rest.reverse, ?_, List.reverse_reverse rest⟩
    exact List.isPrefixOf?_eq_some_iff_append_eq.mpr (by simp)

theorem after?_isSome_iff {start s : Text} : (after? start s).isSome ↔ start <+: s := by
  simp [Option.isSome_iff_exists, List.IsPrefix]

/-- A text is cut exactly where it holds the mark. -/
theorem cutAt_isSome_iff {mark s : Text} : (cutAt mark s).isSome ↔ mark <:+: s := by
  induction s with
  | nil => cases mark <;> simp [cutAt]
  | cons c rest ih =>
      rw [List.infix_cons_iff, ← ih, ← after?_isSome_iff]
      cases hafter : mark.isPrefixOf? (c :: rest) with
      | none => simp [cutAt, after?, hafter]
      | some after => simp [cutAt, after?, hafter]

theorem cut_append {mark : Char} {s : Text} (hmark : mark ∉ s) (t : Text) :
    cut mark (s ++ mark :: t) = some (s, t) := by
  induction s with
  | nil => simp [cut]
  | cons c rest ih =>
      have hc : c ≠ mark := fun hsame => hmark (by simp [hsame])
      have hrest : mark ∉ rest := fun hmem => hmark (List.mem_cons_of_mem c hmem)
      simp [cut, hc, ih hrest]

/-- A text is cut at its first mark. -/
theorem cut_eq_some {mark : Char} {s before behind : Text}
    (hcut : cut mark s = some (before, behind)) :
    s = before ++ mark :: behind ∧ mark ∉ before := by
  induction s generalizing before with
  | nil => exact nomatch hcut
  | cons c rest ih =>
      rw [cut] at hcut
      split at hcut
      case isTrue hc =>
          obtain ⟨rfl, rfl⟩ := Prod.mk.inj (Option.some.inj hcut)
          exact ⟨by rw [hc]; rfl, List.not_mem_nil⟩
      case isFalse hc =>
          obtain ⟨⟨inner, _⟩, hrest, hpair⟩ := Option.map_eq_some_iff.mp hcut
          obtain ⟨rfl, rfl⟩ := Prod.mk.inj hpair
          obtain ⟨rfl, hmark⟩ := ih hrest
          exact ⟨rfl, by simp [hmark, Ne.symm hc]⟩

theorem cut_eq_none {mark : Char} {s : Text} (hmark : mark ∉ s) : cut mark s = none := by
  rw [Option.eq_none_iff_forall_ne_some]
  rintro ⟨before, behind⟩ hcut
  obtain ⟨rfl, -⟩ := cut_eq_some hcut
  simp at hmark

/-! ### Bytes -/

@[simp] theorem byteLength_cons (c : Char) (rest : Text) :
    byteLength (c :: rest) = c.utf8Size + byteLength rest := rfl

theorem length_le_byteLength (s : Text) : s.length ≤ byteLength s := by
  induction s with
  | nil => exact Nat.le_refl 0
  | cons c rest ih =>
      have hsize : 0 < c.utf8Size := c.utf8Size_pos
      rw [byteLength_cons, List.length_cons]
      omega

/-- Bytes that are dropped beyond a text are dropped from what was put behind it. -/
theorem dropBytes?_byteLength_add (s t : Text) (count : Nat) :
    dropBytes? (byteLength s + count) (s ++ t) = dropBytes? count t := by
  induction s with
  | nil => rw [byteLength, List.foldr_nil, Nat.zero_add, List.nil_append]
  | cons c rest ih =>
      have hsize : 0 < c.utf8Size := c.utf8Size_pos
      obtain ⟨more, hmore⟩ : ∃ more, byteLength (c :: rest) + count = more + 1 :=
        ⟨c.utf8Size + byteLength rest + count - 1, by rw [byteLength_cons]; omega⟩
      have hrest : more + 1 - c.utf8Size = byteLength rest + count := by
        rw [← hmore, byteLength_cons]
        omega
      have hfits : c.utf8Size ≤ more + 1 := by
        rw [← hmore, byteLength_cons]
        omega
      rw [hmore, List.cons_append, dropBytes?, if_pos hfits, hrest, ih]

/-- Behind the bytes of a text stands what was put behind it. -/
theorem dropBytes?_append (s t : Text) : dropBytes? (byteLength s) (s ++ t) = some t := by
  have hmore := dropBytes?_byteLength_add s t 0
  rw [Nat.add_zero] at hmore
  rw [hmore]
  cases t <;> rfl

/-- A character of ASCII is one byte. -/
theorem getD_dropBytes?_of_ascii {s : Text} (hascii : ∀ c ∈ s, c.toNat < 0x80) (count : Nat) :
    (dropBytes? count s).getD [] = s.drop count := by
  induction s generalizing count with
  | nil => cases count <;> rfl
  | cons c rest ih =>
      cases count with
      | zero => rfl
      | succ count =>
          have hc : c.val ≤ 0x7F := UInt32.le_iff_toNat_le.mpr
            (Nat.le_of_lt_succ (hascii c List.mem_cons_self))
          have hsize : c.utf8Size = 1 := Char.utf8Size_eq_one_iff.mpr hc
          rw [dropBytes?, hsize, if_pos (Nat.le_add_left 1 count), Nat.add_sub_cancel,
            ih fun d hd => hascii d (List.mem_cons_of_mem c hd), List.drop_succ_cons]

/-! ### Trimming -/

theorem mem_of_mem_trim {c : Char} {s : Text} (hmem : c ∈ trim s) : c ∈ s := by
  have hstart : c ∈ trimStart s := (List.rdropWhile_prefix isBlank (trimStart s)).subset hmem
  exact (List.dropWhile_suffix isBlank).subset hstart

/-- A text that ends with no blank keeps its end when a character is put before it. -/
theorem trimEnd_cons {c : Char} {s : Text} (hblank : isBlank c = false)
    (htrim : trimEnd s = s) : trimEnd (c :: s) = c :: s := by
  change List.rdropWhile isBlank (c :: s) = c :: s
  rw [List.rdropWhile_eq_self_iff]
  intro hne
  cases s with
  | nil => simp [hblank]
  | cons d rest =>
      have hlast := List.rdropWhile_eq_self_iff.mp htrim (List.cons_ne_nil d rest)
      rwa [List.getLast_cons (List.cons_ne_nil d rest)]

theorem trimEnd_trim (s : Text) : trimEnd (trim s) = trim s :=
  List.rdropWhile_idempotent isBlank (trimStart s)

theorem trimEnd_concat {c : Char} (s : Text) (hblank : isBlank c = false) :
    trimEnd (s ++ [c]) = s ++ [c] :=
  List.rdropWhile_concat_neg isBlank s c (by simp [hblank])

theorem trimStart_trim (s : Text) : trimStart (trim s) = trim s := by
  cases htrim : trim s with
  | nil => rfl
  | cons c rest =>
      have hprefix : trim s <+: trimStart s := List.rdropWhile_prefix isBlank (trimStart s)
      rw [htrim] at hprefix
      obtain ⟨behind, hbehind⟩ := hprefix
      have hhead := List.head?_dropWhile_not isBlank s
      rw [show s.dropWhile isBlank = c :: rest ++ behind from hbehind.symm] at hhead
      exact List.dropWhile_cons_of_neg (by simpa using hhead)

/-- Two texts without blanks at their outer ends have none at the ends when a mark joins
them. -/
theorem trim_around {mark : Char} {s t : Text} (hblank : isBlank mark = false)
    (hstart : trimStart s = s) (hend : trimEnd t = t) :
    trim (s ++ mark :: t) = s ++ mark :: t := by
  have hbegin : trimStart (s ++ mark :: t) = s ++ mark :: t := by
    rw [trimStart, List.dropWhile_append, show s.dropWhile isBlank = s from hstart]
    cases s with
    | nil => exact List.dropWhile_cons_of_neg (by simp [hblank])
    | cons c rest => rfl
  rw [trim, hbegin]
  change List.rdropWhile isBlank (s ++ mark :: t) = s ++ mark :: t
  rw [List.rdropWhile_eq_self_iff]
  intro hne
  rw [List.getLast_append_of_right_ne_nil _ _ (List.cons_ne_nil mark t)]
  exact List.rdropWhile_eq_self_iff.mp (trimEnd_cons hblank hend) _

/-- A text with no blank at its start loses only blanks at its end. -/
theorem trim_cons {c : Char} {s : Text} (hblank : isBlank c = false)
    (htrim : trimEnd s = s) : trim (c :: s) = c :: s :=
  trim_around (s := []) hblank rfl htrim

theorem trim_blank_cons {c : Char} (hblank : isBlank c = true) (s : Text) :
    trim (c :: s) = trim s := by
  rw [trim, trimStart, List.dropWhile_cons_of_pos hblank]
  rfl

theorem trim_append_of_blank (s : Text) {right : Text} (hright : ∀ c ∈ right, isBlank c = true) :
    trim (s ++ right) = trim s := by
  have hend : ∀ t : Text, trimEnd (t ++ right) = trimEnd t := by
    intro t
    rw [trimEnd, List.reverse_append, List.dropWhile_append_of_pos (by simpa using hright)]
    rfl
  rw [trim, trim, trimStart, List.dropWhile_append]
  split
  case isTrue hblank =>
      have hs : trimStart s = [] := List.isEmpty_iff.mp hblank
      rw [hs, List.dropWhile_eq_nil_iff.mpr hright]
  case isFalse => exact hend _

/-- Blanks around a text are trimmed, whatever they are. -/
theorem trim_surround (s : Text) {left right : Text} (hleft : ∀ c ∈ left, isBlank c = true)
    (hright : ∀ c ∈ right, isBlank c = true) : trim (left ++ s ++ right) = trim s := by
  rw [trim_append_of_blank _ hright, trim, trimStart, List.dropWhile_append_of_pos hleft]
  rfl

theorem trim_of_blank {s : Text} (hblank : ∀ c ∈ s, isBlank c = true) : trim s = [] :=
  trim_append_of_blank [] hblank

/-! ### Pieces -/

/-- The characters of a piece are characters of the text, and none is the mark. -/
theorem mem_of_mem_splitOn {mark : Char} {piece s : Text} (hpiece : piece ∈ s.splitOn mark) :
    ∀ c ∈ piece, c ∈ s ∧ c ≠ mark := by
  induction s generalizing piece with
  | nil =>
      have hnil : piece = [] := by simpa using hpiece
      simp [hnil]
  | cons d rest ih =>
      obtain ⟨first, others, hrest⟩ := List.exists_cons_of_ne_nil
        (List.splitOn_ne_nil mark rest)
      rw [List.splitOn_cons_eq_if_modifyHead, hrest] at hpiece
      rw [hrest] at ih
      have hlater : ∀ later ∈ first :: others, ∀ c ∈ later, c ∈ d :: rest ∧ c ≠ mark :=
        fun later hlater c hc => (ih hlater c hc).imp_left (List.mem_cons_of_mem d)
      by_cases hd : d = mark
      · rw [if_pos (by simpa using hd)] at hpiece
        rcases List.mem_cons.mp hpiece with rfl | hpiece
        · simp
        · exact hlater piece hpiece
      · rw [if_neg (by simpa using hd), List.modifyHead_cons] at hpiece
        rcases List.mem_cons.mp hpiece with rfl | hpiece
        · intro c hc
          rcases List.mem_cons.mp hc with rfl | hc
          · exact ⟨List.mem_cons_self, hd⟩
          · exact hlater first List.mem_cons_self c hc
        · exact hlater piece (List.mem_cons_of_mem first hpiece)

theorem joinWith_singleton (separator s : Text) : joinWith separator [s] = s :=
  List.intercalate_singleton

theorem joinWith_cons_cons (separator first second : Text) (others : List Text) :
    joinWith separator (first :: second :: others) =
      first ++ separator ++ joinWith separator (second :: others) :=
  List.intercalate_cons_cons

/-- Joined texts are made of the characters of the parts and of the separator. -/
theorem mem_joinWith {c : Char} {separator : Text} {parts : List Text}
    (hmem : c ∈ joinWith separator parts) : c ∈ separator ∨ ∃ part ∈ parts, c ∈ part := by
  induction parts with
  | nil => exact absurd hmem List.not_mem_nil
  | cons first rest ih =>
      cases rest with
      | nil =>
          rw [joinWith_singleton] at hmem
          exact Or.inr ⟨first, List.mem_cons_self, hmem⟩
      | cons second others =>
          rw [joinWith_cons_cons] at hmem
          rcases List.mem_append.mp hmem with hmem | hmem
          · rcases List.mem_append.mp hmem with hmem | hmem
            · exact Or.inr ⟨first, List.mem_cons_self, hmem⟩
            · exact Or.inl hmem
          · rcases ih hmem with hseparator | ⟨part, hpart, hc⟩
            · exact Or.inl hseparator
            · exact Or.inr ⟨part, List.mem_cons_of_mem first hpart, hc⟩

theorem mem_joinWith_of_mem {c : Char} {part : Text} {parts : List Text} (hpart : part ∈ parts)
    (hc : c ∈ part) (separator : Text) : c ∈ joinWith separator parts := by
  induction parts with
  | nil => exact absurd hpart List.not_mem_nil
  | cons first rest ih =>
      cases rest with
      | nil =>
          rw [joinWith_singleton]
          rwa [List.mem_singleton.mp hpart] at hc
      | cons second others =>
          rw [joinWith_cons_cons]
          rcases List.mem_cons.mp hpart with rfl | hpart
          · exact List.mem_append_left _ (List.mem_append_left _ hc)
          · exact List.mem_append_right _ (ih hpart)

/-! ### Lines -/

/-- The lines of texts on both sides of a line feed. -/
theorem lines_append (s t : Text) : lines (s ++ '\n' :: t) = lines s ++ lines t :=
  List.splitOn_append_cons_self s t

theorem lineFeed_notMem_of_mem_lines {line s : Text} (hline : line ∈ lines s) :
    '\n' ∉ line :=
  fun hmem => (mem_of_mem_splitOn hline '\n' hmem).2 rfl

/-- The text of lines. -/
def unlines (parts : List Text) : Text :=
  joinWith ['\n'] parts

/-- Lines are read back from their text. -/
theorem lines_unlines {parts : List Text} (hne : parts ≠ [])
    (hfeed : ∀ line ∈ parts, '\n' ∉ line) : lines (unlines parts) = parts :=
  List.splitOn_intercalate '\n' hfeed hne

theorem unlines_lines (s : Text) : unlines (lines s) = s :=
  List.intercalate_splitOn '\n'

theorem unlines_concat_append (init : List Text) (last t : Text) :
    unlines (init ++ [last]) ++ t = unlines (init ++ [last ++ t]) := by
  induction init with
  | nil => simp [unlines, joinWith_singleton]
  | cons first rest ih =>
      have hjoin : ∀ s : Text, unlines (first :: (rest ++ [s])) =
          first ++ ['\n'] ++ unlines (rest ++ [s]) := by
        intro s
        cases rest <;> exact joinWith_cons_cons _ _ _ _
      rw [List.cons_append, List.cons_append, hjoin, hjoin, List.append_assoc, ih]

/-- A text behind another, on the same line. -/
theorem lines_append_of_notMem (s : Text) {t : Text} (hfeed : '\n' ∉ t) :
    ∃ init last, lines s = init ++ [last] ∧ lines (s ++ t) = init ++ [last ++ t] := by
  have hne : lines s ≠ [] := List.splitOn_ne_nil '\n' s
  refine ⟨(lines s).dropLast, (lines s).getLast hne,
    (List.dropLast_append_getLast hne).symm, ?_⟩
  have htext : s ++ t = unlines ((lines s).dropLast ++ [(lines s).getLast hne ++ t]) := by
    rw [← unlines_concat_append, List.dropLast_append_getLast hne, unlines_lines]
  rw [htext, lines_unlines (by simp)]
  intro line hline
  rcases List.mem_append.mp hline with hinit | hlast
  · exact lineFeed_notMem_of_mem_lines (List.dropLast_subset _ hinit)
  · rw [List.mem_singleton.mp hlast, List.mem_append, not_or]
    exact ⟨lineFeed_notMem_of_mem_lines (List.getLast_mem hne), hfeed⟩

/-! ### Named texts -/

theorem lookup_cons (entry : Text × Text) (rest : List (Text × Text)) (name : Text) :
    List.lookup name (entry :: rest) =
      if name = entry.1 then some entry.2 else List.lookup name rest := by
  obtain ⟨first, second⟩ := entry
  rw [List.lookup_cons]
  by_cases hname : name = first
  · simp [hname]
  · have hskipped : (name == first) = false := by simpa using hname
    rw [hskipped, if_neg hname]

/-- Nothing is found under a name that was taken away, and the rest under all others. -/
theorem lookup_without (entries : List (Text × Text)) (taken name : Text) :
    (entries.filter fun entry => entry.1 != taken).lookup name =
      if name = taken then none else entries.lookup name := by
  induction entries with
  | nil => exact (ite_self _).symm
  | cons entry rest ih =>
      by_cases htaken : entry.1 = taken
      · rw [List.filter_cons_of_neg (by simpa using htaken), ih, lookup_cons, htaken]
        split <;> rfl
      · rw [List.filter_cons_of_pos (by simpa using htaken), lookup_cons, lookup_cons, ih]
        by_cases hname : name = entry.1
        · rw [if_pos hname, if_pos hname, if_neg (hname ▸ htaken)]
        · rw [if_neg hname, if_neg hname]

end Reroute.Text
