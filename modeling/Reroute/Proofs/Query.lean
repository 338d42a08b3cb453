import Reroute.Proofs.Percent
import Reroute.Proofs.Text
import Reroute.Proofs.Utf8
import Reroute.Request

/-!
Queries written and read back.  Every list of pairs of texts is spelled by the query that is
written for it, so an operation on a URL is the operation on its decoded pairs.  The main
statement says so of setting and removing a parameter, for every URL and every name and value.
-/
namespace Reroute

namespace Query

/-! ### Names and values -/

/-- Bytes that may stand for themselves in a query: ASCII, and none of its marks. -/
def Safe (keep : UInt8 → Bool) : Prop :=
  ∀ b, keep b = true → b.toNat < 0x80 ∧ b ∉ [0x25, 0x26, 0x2B, 0x3D]

/-- Letters and digits are safe, and so are other bytes of which each is. -/
theorem safe_of_others {others : List UInt8}
    (hothers : (others.all fun b => b.toNat < 0x80 ∧ b ∉ [0x25, 0x26, 0x2B, 0x3D]) = true) :
    Safe fun b => Percent.isAlphanumeric b || others.contains b := by
  intro b hkept
  rcases Bool.or_eq_true_iff.mp hkept with halpha | hother
  · constructor
    · simp only [Percent.isAlphanumeric, Bool.or_eq_true, Bool.and_eq_true, decide_eq_true_eq,
        UInt8.le_iff_toNat_le, UInt8.reduceToNat] at halpha
      omega
    · intro hmem
      simp only [List.mem_cons, List.not_mem_nil, or_false] at hmem
      rcases hmem with rfl | rfl | rfl | rfl <;> exact absurd halpha (by decide)
  · exact of_decide_eq_true
      (List.all_eq_true.mp hothers b (List.contains_iff_mem.mp hother))

theorem safe_isPlainByte : Safe isPlainByte :=
  safe_of_others (by decide)

section Written

variable {keep : UInt8 → Bool}

/-- The marks of a query are never kept. -/
theorem Safe.mark_notMem_encode (hsafe : Safe keep) {mark : Char} (hmark : mark ∈ ['&', '=', '+'])
    (bytes : List UInt8) : mark ∉ Percent.encode keep bytes := by
  intro hmem
  rcases Percent.mem_encode hmem with ⟨b, -, hkept, hchar⟩ | hpercent | ⟨n, hn, hdigit⟩
  · have hnumber : mark.toNat = b.toNat := by rw [hchar, Text.toNat_charOfByte]
    apply (hsafe b hkept).2
    simp only [List.mem_cons, List.not_mem_nil, or_false] at hmark
    rcases hmark with rfl | rfl | rfl <;>
      simp [← UInt8.toNat_inj, ← hnumber]
  · subst hpercent
    exact absurd hmark (by decide)
  · have hdigits : ∀ n < 16, Hex.upperDigit n ∉ ['&', '=', '+'] := by decide
    exact hdigits n hn (hdigit ▸ hmark)

/-- So there is no `+` that would be read as a space. -/
theorem Safe.map_encode (hsafe : Safe keep) (bytes : List UInt8) :
    (Percent.encode keep bytes).map (fun c => if c = '+' then ' ' else c) =
      Percent.encode keep bytes := by
  have hkept : ∀ c ∈ Percent.encode keep bytes, (if c = '+' then ' ' else c) = id c := by
    intro c hc
    exact if_neg fun hmark : c = '+' => hsafe.mark_notMem_encode (by decide) bytes (hmark ▸ hc)
  rw [List.map_congr_left hkept, List.map_id]

theorem Safe.decode_encode (hsafe : Safe keep) (s : Text) :
    Utf8.decodeLossy (Percent.decode (Utf8.encode (Percent.encode keep (Utf8.encode s)))) = s := by
  have hkeep : ∀ b, keep b = true → b.toNat < 0x80 ∧ b ≠ 0x25 := fun b hkept =>
    (hsafe b hkept).imp_right fun hmarks hpercent => hmarks (by simp [hpercent])
  rw [Percent.decode_encode hkeep, Utf8.decodeLossy_encode]

end Written

theorem mark_notMem_encodePart {mark : Char} (hmark : mark ∈ ['&', '=']) (s : Text) :
    mark ∉ encodePart s := by
  intro hmem
  obtain ⟨b, -, hspelled⟩ := List.mem_flatMap.mp hmem
  split at hspelled
  · rw [List.mem_singleton.mp hspelled] at hmark
    exact absurd hmark (by decide)
  · refine safe_isPlainByte.mark_notMem_encode ?_ [b] hspelled
    exact List.mem_append_left ['+'] hmark

/-- What is read of a written name or value before its percent signs: a space for each `+`. -/
theorem map_encodePart (s : Text) :
    (encodePart s).map (fun c => if c = '+' then ' ' else c) =
      Percent.encode (fun b => b == 0x20 || isPlainByte b) (Utf8.encode s) := by
  rw [encodePart, Percent.encode, List.map_flatMap]
  congr 1
  funext b
  by_cases hspace : b = 0x20
  · subst hspace
    rfl
  · rw [if_neg hspace, safe_isPlainByte.map_encode]
    simp [Percent.encode, hspace]

/-- A name or a value is read back as it was. -/
theorem decodePart_encodePart (s : Text) : decodePart (encodePart s) = s := by
  have hsafe : Safe fun b => b == 0x20 || isPlainByte b := by
    intro b hkept
    rcases Bool.or_eq_true_iff.mp hkept with hspace | hplain
    · rw [beq_iff_eq.mp hspace]
      decide
    · exact safe_isPlainByte b hplain
  rw [decodePart, map_encodePart, hsafe.decode_encode]

/-! ### Pairs -/

/-- Pairs are read back from names and values joined by the marks, if these can be read back and
hold no mark. -/
theorem decode_joinWith {write : Text → Text} (hread : ∀ s, decodePart (write s) = s)
    (hmarks : ∀ s, '&' ∉ write s ∧ '=' ∉ write s) (pairs : Pairs) :
    decode (Text.joinWith ['&']
      (pairs.map fun pair => write pair.1 ++ '=' :: write pair.2)) = pairs := by
  cases pairs with
  | nil => rfl
  | cons first rest =>
      let piece := fun pair : Text × Text => write pair.1 ++ '=' :: write pair.2
      have hmark : ∀ s ∈ (first :: rest).map piece, '&' ∉ s := by
        intro s hs
        obtain ⟨pair, -, rfl⟩ := List.mem_map.mp hs
        simp [piece, (hmarks pair.1).1, (hmarks pair.2).1]
      have hfilter : ((first :: rest).map piece).filter (fun s => !s.isEmpty) =
          (first :: rest).map piece := by
        rw [List.filter_eq_self]
        intro s hs
        obtain ⟨pair, -, rfl⟩ := List.mem_map.mp hs
        simp [piece]
      have hpiece : ∀ pair, decodePiece (piece pair) = pair := by
        intro pair
        have hcut : Text.cut '=' (piece pair) = some (write pair.1, write pair.2) :=
          Text.cut_append (hmarks pair.1).2 _
        simp [decodePiece, hcut, hread]
      rw [decode, Text.joinWith, List.splitOn_intercalate '&' hmark (by simp), hfilter,
        List.map_map]
      exact List.map_id'' hpiece _

/-- Every list of pairs is read back from the query written for it. -/
theorem decode_encode (pairs : Pairs) : decode (encode pairs) = pairs :=
  decode_joinWith decodePart_encodePart
    (fun s => ⟨mark_notMem_encodePart (by decide) s, mark_notMem_encodePart (by decide) s⟩) pairs

theorem encode_eq_nil_iff {pairs : Pairs} : encode pairs = [] ↔ pairs = [] := by
  constructor
  · intro hnil
    rw [← decode_encode pairs, hnil]
    rfl
  · rintro rfl
    rfl

/-! ### Setting and erasing -/

variable (name value : Text) (pairs : Pairs)

/-- A name that is set has one pair, in the place of its first or behind all others. -/
theorem set_eq :
    set name value pairs =
      pairs.takeWhile (fun pair => pair.1 != name) ++
        (name, value) ::
          (pairs.dropWhile fun pair => pair.1 != name).filter fun pair => pair.1 != name := by
  induction pairs with
  | nil => rfl
  | cons pair rest ih =>
      by_cases hname : pair.1 = name
      · simp [set, erase, hname]
      · simp [set, hname, ih]

theorem get?_set : get? name (set name value pairs) = some value := by
  induction pairs with
  | nil => simp [set, get?]
  | cons pair rest ih =>
      by_cases hname : pair.1 = name
      · simp [set, hname, get?]
      · have hother : (name == pair.1) = false := by simpa using Ne.symm hname
        rw [get?] at ih
        rw [set, if_neg hname, get?, List.lookup_cons, hother]
        exact ih

theorem get?_of_notMem {name : Text} {pairs : Pairs} (hname : name ∉ pairs.map Prod.fst) :
    get? name pairs = none := by
  rw [get?, List.lookup_eq_none_iff]
  intro pair hpair
  have hother : name ≠ pair.1 := by
    rintro rfl
    exact hname (List.mem_map_of_mem hpair)
  simpa using hother

/-- Setting a name leaves the pairs of all other names. -/
theorem erase_set : erase name (set name value pairs) = erase name pairs := by
  induction pairs with
  | nil => simp [set, erase]
  | cons pair rest ih =>
      by_cases hname : pair.1 = name
      · simp [set, erase, hname]
      · have hkept : erase name (pair :: set name value rest) =
            pair :: erase name (set name value rest) := by simp [erase, hname]
        rw [set, if_neg hname, hkept, ih]
        simp [erase, hname]

theorem filter_set :
    (set name value pairs).filter (fun pair => pair.1 == name) = [(name, value)] := by
  induction pairs with
  | nil => simp [set]
  | cons pair rest ih =>
      by_cases hname : pair.1 = name
      · simp [set, erase, hname]
      · simp [set, hname, ih]

theorem set_set : set name value (set name value pairs) = set name value pairs := by
  induction pairs with
  | nil => simp [set, erase]
  | cons pair rest ih =>
      by_cases hname : pair.1 = name
      · simp [set, erase, hname]
      · simp [set, hname, ih]

theorem erase_erase : erase name (erase name pairs) = erase name pairs := by
  simp [erase]

theorem name_notMem_erase : name ∉ (erase name pairs).map Prod.fst := by
  simp [erase]

end Query

namespace Url

/-! ### URLs -/

theorem mark_notMem_base (url : Text) : '?' ∉ base url := by
  intro hmem
  simpa using List.mem_takeWhile_imp hmem

/-- A text without `?` is passed over when the query is looked for. -/
theorem forall_ne_mark {before : Text} (hbefore : '?' ∉ before) :
    ∀ c ∈ before, (c != '?') = true := by
  intro c hc
  simpa using fun hmark : c = '?' => hbefore (hmark ▸ hc)

theorem base_of_notMem {url : Text} (hurl : '?' ∉ url) : base url = url :=
  List.takeWhile_eq_self_iff.mpr (forall_ne_mark hurl)

theorem query_of_notMem {url : Text} (hurl : '?' ∉ url) : query url = [] := by
  simp [query, List.dropWhile_eq_nil_iff.mpr (forall_ne_mark hurl)]

theorem base_append {before : Text} (hbefore : '?' ∉ before) (behind : Text) :
    base (before ++ '?' :: behind) = before := by
  simp [base, List.takeWhile_append_of_pos (forall_ne_mark hbefore)]

theorem query_append {before : Text} (hbefore : '?' ∉ before) (behind : Text) :
    query (before ++ '?' :: behind) = behind := by
  simp [query, List.dropWhile_append_of_pos (forall_ne_mark hbefore)]

theorem withPairs_nil (url : Text) : withPairs url [] = base url := rfl

theorem withPairs_of_ne_nil (url : Text) {ps : Pairs} (hps : ps ≠ []) :
    withPairs url ps = base url ++ '?' :: Query.encode ps := by
  have hwritten : (Query.encode ps).isEmpty = false := by
    simpa [Query.encode_eq_nil_iff] using hps
  simp [withPairs, hwritten]

/-- Writing a query leaves the text before it. -/
theorem base_withPairs (url : Text) (ps : Pairs) : base (withPairs url ps) = base url := by
  by_cases hps : ps = []
  · rw [hps, withPairs_nil, base_of_notMem (mark_notMem_base url)]
  · rw [withPairs_of_ne_nil url hps, base_append (mark_notMem_base url)]

/-- A URL holds the pairs that were written to it. -/
theorem pairs_withPairs (url : Text) (ps : Pairs) : pairs (withPairs url ps) = ps := by
  by_cases hps : ps = []
  · rw [hps, withPairs_nil, pairs, query_of_notMem (mark_notMem_base url)]
    rfl
  · rw [withPairs_of_ne_nil url hps, pairs, query_append (mark_notMem_base url),
      Query.decode_encode]

/-- Nothing of an earlier query is left by a later one. -/
theorem withPairs_withPairs (url : Text) (before ps : Pairs) :
    withPairs (withPairs url before) ps = withPairs url ps := by
  by_cases hps : ps = []
  · rw [hps, withPairs_nil, withPairs_nil, base_withPairs]
  · rw [withPairs_of_ne_nil _ hps, withPairs_of_ne_nil _ hps, base_withPairs]

theorem setParam_setParam (name value url : Text) :
    setParam name value (setParam name value url) = setParam name value url := by
  simp only [setParam, pairs_withPairs, withPairs_withPairs, Query.set_set]

theorem eraseParam_eraseParam (name url : Text) :
    eraseParam name (eraseParam name url) = eraseParam name url := by
  simp only [eraseParam, pairs_withPairs, withPairs_withPairs, Query.erase_erase]

end Url

namespace Request

open Url (pairs)

/-- A query parameter that is set has its new value and one pair, in the place of its first old
one or behind all pairs, and one that is removed has none.  The pairs of all other names, the
text before the query and the other fields of the request stay, and doing it again changes
nothing. -/
theorem setParam_removeParam (request : Request) (name value : Text) :
    let others := fun pair : Text × Text => pair.1 != name
    let before := fun c : Char => c != '?'
    let old := pairs request.url
    let changed := request.setParam name value
    let removed := request.removeParam name
    (changed.param? name = some value ∧
        pairs changed.url =
          old.takeWhile others ++ (name, value) :: (old.dropWhile others).filter others ∧
        (pairs changed.url).filter (fun pair => pair.1 == name) = [(name, value)] ∧
        (pairs changed.url).filter others = old.filter others ∧
        changed.url.takeWhile before = request.url.takeWhile before ∧
        { changed with url := request.url } = request ∧
        changed.setParam name value = changed) ∧
      removed.param? name = none ∧
        pairs removed.url = old.filter others ∧
        name ∉ (pairs removed.url).map Prod.fst ∧
        removed.url.takeWhile before = request.url.takeWhile before ∧
        { removed with url := request.url } = request ∧
        removed.removeParam name = removed := by
  intro others before old changed removed
  have hset : pairs changed.url = Query.set name value old := Url.pairs_withPairs _ _
  have herase : pairs removed.url = Query.erase name old := Url.pairs_withPairs _ _
  have hgone : name ∉ (pairs removed.url).map Prod.fst := by
    rw [herase]
    exact Query.name_notMem_erase name old
  refine ⟨⟨?value, ?place, ?one, ?kept, ?base, rfl, ?again⟩,
    ?none, herase, hgone, ?removedBase, rfl, ?removedAgain⟩
  case value =>
    rw [param?, hset]
    exact Query.get?_set name value old
  case place => rw [hset, Query.set_eq]
  case one => rw [hset, Query.filter_set]
  case kept =>
    rw [hset]
    exact Query.erase_set name value old
  case base => exact Url.base_withPairs _ _
  case again =>
    simp only [changed, setParam, Url.setParam_setParam]
  case none => exact Query.get?_of_notMem hgone
  case removedBase => exact Url.base_withPairs _ _
  case removedAgain =>
    simp only [removed, removeParam, Url.eraseParam_eraseParam]

end Request

end Reroute
