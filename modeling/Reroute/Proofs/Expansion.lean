import Mathlib.Data.List.Infix
import Reroute.Proofs.Numeral
import Reroute.Proofs.Placeholder

/-!
Templates joined.  What a placeholder becomes depends on nothing around it but on whether it
goes on.  The main statement: the expansion of two texts joined is the two expansions joined,
where no placeholder is left open at the end of the first, and each placeholder stands for
its value, whatever that is.
-/
namespace Reroute

theorem Text.isDecimalDigit_of_isDigit {c : Char} (hdigit : c.isDigit = true) :
    isDecimalDigit c = true := by
  simp only [Char.isDigit, Bool.and_eq_true, decide_eq_true_eq, ge_iff_le,
    UInt32.le_iff_toNat_le] at hdigit
  have hrange : 0x30 ≤ c.toNat ∧ c.toNat ≤ 0x30 + 9 := hdigit
  simp [isDecimalDigit, decimalZeros, hrange]

namespace Template

/-! ### Cutting texts joined -/

/-- No placeholder lies across the seam of two texts. -/
def Seam (a b : Text) : Prop :=
  ∀ head tail, head <:+ a → tail <+: b → head ≠ [] → tail ≠ [] → ¬IsPlaceholder (head ++ tail)

theorem Seam.of_append {before a b : Text} (hseam : Seam (before ++ a) b) : Seam a b :=
  fun head tail hhead htail => hseam head tail (hhead.trans (List.suffix_append before a)) htail

/-- A placeholder at the beginning of texts joined stands in the first. -/
theorem Seam.split {a b m after : Text} (hseam : Seam a b) (hne : a ≠ [])
    (hplaceholder : IsPlaceholder m) (hjoined : a ++ b = m ++ after) :
    ∃ rest, a = m ++ rest ∧ after = rest ++ b := by
  rcases List.append_eq_append_iff.mp hjoined with ⟨tail, hm, hb⟩ | ⟨rest, ha, hafter⟩
  · by_cases htail : tail = []
    · subst htail
      exact ⟨[], by simpa using hm.symm, by simpa using hb.symm⟩
    · subst hm
      exact absurd hplaceholder
        (hseam a tail List.suffix_rfl ⟨after, hb.symm⟩ hne htail)
  · exact ⟨rest, ha, hafter⟩

/-- A placeholder that does not go on in the first text does not go on across the seam. -/
theorem Seam.longest {m after b : Text} (hseam : Seam (m ++ after) b)
    (hplaceholder : IsPlaceholder m) (hlongest : Longest m after) : Longest m (after ++ b) := by
  intro d hd
  cases after with
  | nil =>
      obtain ⟨rest, hb⟩ := List.head?_eq_some_iff.mp hd
      have hb : b = d :: rest := hb
      exact hseam m [d] (by simp) (by simp [hb]) hplaceholder.ne_nil (by simp)
  | cons c rest => exact hlongest d hd

/-- Texts joined are cut into the pieces of each, if no placeholder lies across their seam. -/
theorem pieces_append {a b : Text} (hseam : Seam a b) :
    pieces (a ++ b) = pieces a ++ pieces b := by
  induction a using pieces_induction with
  | nil => simp [pieces]
  | reads m piece after hreads hlongest ih =>
      have hlongest' := hseam.longest ⟨piece, hreads⟩ hlongest
      rw [List.append_assoc, pieces_of_reads hreads hlongest', pieces_of_reads hreads hlongest,
        ih hseam.of_append, List.cons_append]
  | char c rest hnone ih =>
      have hnone' : ∀ m after, IsPlaceholder m → c :: (rest ++ b) ≠ m ++ after := by
        intro m after hplaceholder hjoined
        obtain ⟨left, ha, -⟩ := hseam.split (List.cons_ne_nil c rest) hplaceholder hjoined
        exact hnone m left hplaceholder ha
      have hjoined : Seam ([c] ++ rest) b := hseam
      rw [List.cons_append, pieces_of_none hnone', pieces_of_none hnone, ih hjoined.of_append,
        List.cons_append]

/-- A text in which no placeholder stands is cut into its characters. -/
theorem pieces_of_infix_none {s : Text} (hnone : ∀ m, m <:+: s → ¬IsPlaceholder m) :
    pieces s = s.map .char := by
  induction s with
  | nil => simp [pieces]
  | cons c rest ih =>
      have hhere : ∀ m after, IsPlaceholder m → c :: rest ≠ m ++ after := by
        intro m after hplaceholder hs
        exact hnone m ⟨[], after, by simp [hs]⟩ hplaceholder
      rw [pieces_of_none hhere, ih fun m hm => hnone m (hm.trans (List.suffix_cons c rest).isInfix),
        List.map_cons]

/-! ### Where no placeholder is left open -/

/-- No placeholder lies across the seam of two texts where each number of the first is over or
cannot go on in the second, and each name of the first is over or has no brace to come. -/
theorem seam_of {a b : Text}
    (hnumber : ∀ before digits, a = before ++ '$' :: digits →
      (∃ d ∈ digits, Text.isDecimalDigit d = false) ∨
        ∀ c, b.head? = some c → Text.isDecimalDigit c = false ∧ c ≠ '{')
    (hbrace : ∀ before after, a = before ++ '$' :: '{' :: after → '}' ∈ after ∨ '}' ∉ b) :
    Seam a b := by
  rintro head tail ⟨before, rfl⟩ htail hhead hne hplaceholder
  obtain ⟨c, rest, rfl⟩ := List.exists_cons_of_ne_nil hhead
  obtain ⟨d, behind, rfl⟩ := List.exists_cons_of_ne_nil hne
  have hd : b.head? = some d := by
    obtain ⟨after, rfl⟩ := htail
    rfl
  rcases isPlaceholder_iff.mp hplaceholder with
    hroot | ⟨digits, hdollar, -, hdigits⟩ | ⟨name, hbraced, -, hclose⟩
  · simp at hroot
  · obtain ⟨rfl, hrest⟩ := List.cons.inj hdollar
    rcases hnumber before rest rfl with ⟨e, he, hdigit⟩ | hover
    · exact absurd (hdigits e (by simp [← hrest, he])) (by simp [hdigit])
    · exact absurd (hdigits d (by simp [← hrest])) (by simp [(hover d hd).1])
  · obtain ⟨rfl, hrest⟩ := List.cons.inj hbraced
    cases rest with
    | nil =>
        rcases hnumber before [] rfl with ⟨e, he, -⟩ | hover
        · exact nomatch he
        · exact (hover d hd).2 (List.cons.inj hrest).1
    | cons c rest =>
        obtain ⟨rfl, hname⟩ := List.cons.inj hrest
        have hname : rest ++ d :: behind = name ++ ['}'] := hname
        have hinner : rest ++ (d :: behind).dropLast = name := by
          rw [← List.dropLast_append_of_ne_nil hne, hname, List.dropLast_concat]
        have hlast : '}' ∈ d :: behind := by
          have hend := congrArg List.getLast? hname
          rw [List.getLast?_append_of_ne_nil _ hne, List.getLast?_concat] at hend
          exact List.mem_of_getLast? hend
        rcases hbrace before rest rfl with hwithin | hnone
        · exact hclose (by simp [← hinner, hwithin])
        · exact hnone (htail.subset hlast)

/-- A text at whose end no placeholder is open: no number, which might go on, and no name
whose brace is still to come. -/
structure Closed (a : Text) : Prop where
  number : ∀ before digits, a = before ++ '$' :: digits →
    ∃ d ∈ digits, Text.isDecimalDigit d = false
  brace : ∀ before after, a = before ++ '$' :: '{' :: after → '}' ∈ after

/-- Whatever is put behind a closed text leaves its placeholders alone. -/
theorem Closed.seam {a : Text} (hclosed : Closed a) (b : Text) : Seam a b :=
  seam_of (fun before digits ha => Or.inl (hclosed.number before digits ha))
    (fun before after ha => Or.inl (hclosed.brace before after ha))

/-- Whether the placeholder that a text begins with is open at its end. -/
def opens : Text → Bool
  | '$' :: rest =>
      rest.all Text.isDecimalDigit || rest.head? == some '{' && !rest.contains '}'
  | _ => false

theorem closed_iff_tails {a : Text} : Closed a ↔ ∀ t ∈ a.tails, opens t = false := by
  simp only [List.mem_tails]
  constructor
  · rintro hclosed t ⟨before, rfl⟩
    unfold opens
    split
    case h_1 rest =>
        obtain ⟨d, hd, hdigit⟩ := hclosed.number before rest rfl
        have hall : rest.all Text.isDecimalDigit = false :=
          List.all_eq_false.mpr ⟨d, hd, by simp [hdigit]⟩
        rw [hall, Bool.false_or, Bool.and_eq_false_imp]
        intro hhead
        obtain ⟨after, rfl⟩ := List.head?_eq_some_iff.mp (beq_iff_eq.mp hhead)
        simp [hclosed.brace before after rfl]
    case h_2 => rfl
  · intro hopens
    constructor
    · rintro before digits rfl
      have hdigits := hopens ('$' :: digits) (List.suffix_append before _)
      obtain ⟨d, hd, hdigit⟩ := List.all_eq_false.mp (Bool.or_eq_false_iff.mp hdigits).1
      exact ⟨d, hd, by simpa using hdigit⟩
    · rintro before after rfl
      have hbrace := hopens ('$' :: '{' :: after) (List.suffix_append before _)
      simp only [opens, Bool.or_eq_false_iff] at hbrace
      simpa using hbrace.2

instance (a : Text) : Decidable (Closed a) :=
  decidable_of_iff _ closed_iff_tails.symm

example : Closed ("~/$1".toList ++ braced "param:$1".toList) ∧ ¬Closed "/$1".toList ∧
    ¬Closed ("/$".toList ++ '{' :: "url".toList) := by decide

end Template

namespace Request

open Template

/-! ### Expanding -/

section Expand

variable (request : Request) (captures : Captures)

theorem expand_append {a b : Text} (hseam : Seam a b) :
    request.expand captures (a ++ b) = request.expand captures a ++ request.expand captures b := by
  simp [expand, pieces_append hseam]

/-- A text in which no placeholder stands is left as it is. -/
theorem expand_of_infix_none {s : Text} (hnone : ∀ m, m <:+: s → ¬IsPlaceholder m) :
    request.expand captures s = s := by
  simp [expand, pieces_of_infix_none hnone, List.flatMap_map, Piece.value]

/-- A placeholder is replaced by the value of its piece, and what stands behind it is read
without that value. -/
theorem expand_reads_append {m after : Text} {piece : Piece} (hreads : Reads m piece)
    (hlongest : Longest m after) :
    request.expand captures (m ++ after) =
      piece.value request captures ++ request.expand captures after := by
  simp [expand, pieces_of_reads hreads hlongest]

theorem expand_of_reads {m : Text} {piece : Piece} (hreads : Reads m piece) :
    request.expand captures m = piece.value request captures := by
  have hlongest : Longest m [] := nofun
  have hvalue := request.expand_reads_append captures hreads hlongest
  simpa [expand, pieces] using hvalue

/-- The text of a number's group: none where the number is too large, where there is no such
group, and where it took no part. -/
theorem expand_number {digits : Text} (hne : digits ≠ [])
    (hdigits : ∀ d ∈ digits, d.isDigit = true) :
    request.expand captures ('$' :: digits) =
      (if Numeral.value digits ≤ Numeral.maxWord64 then captures[Numeral.value digits]?.join
        else none).getD [] := by
  have hdecimal : ∀ d ∈ digits, Text.isDecimalDigit d = true :=
    fun d hd => Text.isDecimalDigit_of_isDigit (hdigits d hd)
  rw [expand_of_reads request captures (.group hne hdecimal), Piece.value, groupText,
    Numeral.digits?_of_forall hne hdigits]
  split_ifs <;> rfl

/-- Expansion goes along with joining, behind a text that leaves no placeholder open.  Plain
text is left as it is, `~` stands for the document root, a number for its group and a name in
braces for the value it refers to; and a placeholder between texts gives way to its value
alone, which is not read again. -/
theorem expand_compositional :
    (∀ a b, Closed a →
      request.expand captures (a ++ b) =
        request.expand captures a ++ request.expand captures b) ∧
    (∀ s, '~' ∉ s → '$' ∉ s → request.expand captures s = s) ∧
    request.expand captures ['~'] = (request.get? documentRootKey).getD [] ∧
    (∀ digits, digits ≠ [] → (∀ d ∈ digits, d.isDigit = true) →
      request.expand captures ('$' :: digits) =
        (if Numeral.value digits ≤ Numeral.maxWord64 then captures[Numeral.value digits]?.join
          else none).getD []) ∧
    (∀ name, name ≠ [] → '}' ∉ name →
      (name.head? ≠ some '&' →
        request.expand captures (braced name) = lookup request name) ∧
      request.expand captures (braced ('&' :: name)) =
        Percent.encodeComponent (lookup request name)) ∧
    ∀ a m b, Closed a → IsPlaceholder m → Longest m b →
      request.expand captures (a ++ (m ++ b)) =
        request.expand captures a ++
          (request.expand captures m ++ request.expand captures b) := by
  refine ⟨fun a b hclosed => request.expand_append captures (hclosed.seam b), ?_, ?_, ?_, ?_, ?_⟩
  · intro s hroot hdollar
    exact request.expand_of_infix_none captures
      fun m hm => not_isPlaceholder_of_infix hroot hdollar hm
  · exact request.expand_of_reads captures .root
  · intro digits hne hdigits
    exact request.expand_number captures hne hdigits
  · intro name hne hclose
    constructor
    · intro hplain
      exact request.expand_of_reads captures (.plain hne hclose hplain)
    · exact request.expand_of_reads captures (.encoded hne hclose)
  · rintro a m b hclosed ⟨piece, hreads⟩ hlongest
    rw [request.expand_append captures (hclosed.seam _),
      request.expand_reads_append captures hreads hlongest,
      request.expand_of_reads captures hreads]

end Expand

namespace ExpansionWitness

/-- A document root that looks like placeholders. -/
def request : Request where
  url := "http://a/b c".toList
  headers := Headers.empty
  store := [(documentRootKey, "~$1${url}".toList)]

def captures : Captures := [some "whole".toList, some "one".toList, none]

end ExpansionWitness

open ExpansionWitness in
/-- Every kind of placeholder, and the document root taken over as it is. -/
theorem expand_compositional_looking :
    request.expand captures ("${url}/".toList ++ "$1-".toList) =
        request.expand captures "${url}/".toList ++ request.expand captures "$1-".toList ∧
      request.expand captures "/b".toList = "/b".toList ∧
      request.expand captures "~".toList = "~$1${url}".toList ∧
      request.expand captures "$01".toList = "one".toList ∧
      request.expand captures "$2".toList = [] ∧
      request.expand captures "${url}".toList = "http://a/b c".toList ∧
      request.expand captures "${&url}".toList = "http%3A%2F%2Fa%2Fb%20c".toList ∧
      request.expand captures ("/".toList ++ ("~".toList ++ "$1".toList)) =
        request.expand captures "/".toList ++
          (request.expand captures "~".toList ++ request.expand captures "$1".toList) := by
  obtain ⟨hjoined, hplain, hroot, hnumber, hname, hbetween⟩ :=
    expand_compositional request captures
  refine ⟨hjoined _ _ (by decide), hplain _ (by decide) (by decide), hroot, ?_, ?_, ?_, ?_, ?_⟩
  · exact hnumber "01".toList (by decide) (by simp)
  · exact hnumber "2".toList (by decide) (by simp)
  · exact (hname "url".toList (by decide) (by decide)).1 (by decide)
  · exact (hname "url".toList (by decide) (by decide)).2
  · exact hbetween _ _ _ (by decide) ⟨_, .root⟩ (longest_root _)

end Request

end Reroute
