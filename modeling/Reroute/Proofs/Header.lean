import Reroute.Header
import Reroute.Proofs.Percent
import Reroute.Proofs.Utf8

/-!
Headers read and edited.  An edit decides on the values of its name and leaves those of all
other names, and a text of visible characters is read back from the value it becomes.
-/
namespace Reroute

namespace Headers

theorem values_erase (headers : Headers) (erased name : HeaderName) :
    (headers.erase erased).values name = if erased = name then [] else headers.values name := by
  unfold values erase
  rw [List.filter_filter]
  split
  case isTrue hsame =>
      subst hsame
      simp
  case isFalse hother =>
      congr 1
      refine List.filter_congr fun entry _ => ?_
      by_cases hentry : entry.1 = name
      · have hkept : entry.1 ≠ erased := fun h => hother (h.symm.trans hentry)
        simp [hentry, Ne.symm hother]
      · simp [hentry]

theorem values_insert (headers : Headers) (inserted name : HeaderName) (value : HeaderValue) :
    (headers.insert inserted value).values name =
      if inserted = name then [value] else headers.values name := by
  have happend : (headers.insert inserted value).values name =
      (headers.erase inserted).values name ++ if inserted = name then [value] else [] := by
    by_cases hsame : inserted = name <;> simp [insert, append, values, hsame]
  rw [happend, values_erase]
  split <;> simp

theorem erase_erase (headers : Headers) (name : HeaderName) :
    (headers.erase name).erase name = headers.erase name := by
  simp [erase, List.filter_filter]

/-- A value that is inserted is gone with the name. -/
theorem erase_insert (headers : Headers) (name : HeaderName) (value : HeaderValue) :
    (headers.insert name value).erase name = headers.erase name := by
  simp [insert, append, erase, List.filter_filter]

/-- Only names without values can be erased without a change. -/
theorem erase_eq_self_iff {headers : Headers} {name : HeaderName} :
    headers.erase name = headers ↔ headers.values name = [] := by
  constructor
  · intro herase
    rw [← herase, values_erase, if_pos rfl]
  · intro hvalues
    have hnone : headers.entries.filter (fun entry => entry.1 = name) = [] :=
      List.map_eq_nil_iff.mp hvalues
    rw [List.filter_eq_nil_iff] at hnone
    have hkept : headers.entries.filter (fun entry => !decide (entry.1 = name)) =
        headers.entries := by
      rw [List.filter_eq_self]
      intro entry hentry
      simpa using hnone entry hentry
    cases headers
    exact congrArg Headers.mk hkept

end Headers

namespace Header

/-- The characters of a value that reads as text. -/
def IsVisible (c : Char) : Prop :=
  0x20 ≤ c.toNat ∧ c.toNat ≤ 0x7E ∨ c.toNat = 0x09

theorem IsVisible.lt {c : Char} (hvisible : IsVisible c) : c.toNat < 0x80 := by
  unfold IsVisible at hvisible
  omega

theorem isVisibleByte_iff (b : UInt8) :
    isVisibleByte b = true ↔ 0x20 ≤ b.toNat ∧ b.toNat ≤ 0x7E ∨ b.toNat = 0x09 := by
  simp only [isVisibleByte, Bool.or_eq_true, Bool.and_eq_true, decide_eq_true_eq, beq_iff_eq,
    UInt8.le_iff_toNat_le, ← UInt8.toNat_inj, UInt8.reduceToNat]

theorem isValueByte_of_isVisibleByte {b : UInt8} (hvisible : isVisibleByte b = true) :
    isValueByte b = true := by
  rw [isVisibleByte_iff] at hvisible
  simp only [isValueByte, Bool.or_eq_true, Bool.and_eq_true, decide_eq_true_eq, beq_iff_eq,
    bne_iff_ne, ne_eq, UInt8.le_iff_toNat_le, ← UInt8.toNat_inj, UInt8.reduceToNat]
  omega

end Header

namespace HeaderValue

/-- The text of a value is its bytes. -/
theorem ofBytes_of_toText? {value : HeaderValue} {s : Text} (htext : value.toText? = some s) :
    Text.ofBytes value.bytes = s := by
  unfold toText? at htext
  split at htext
  · exact Option.some.inj htext
  · exact nomatch htext

theorem isVisible_of_toText? {value : HeaderValue} {s : Text} (htext : value.toText? = some s) :
    ∀ c ∈ s, Header.IsVisible c := by
  unfold toText? at htext
  split at htext
  case isTrue hall =>
      obtain rfl := Option.some.inj htext
      intro c hc
      obtain ⟨b, hb, rfl⟩ := List.mem_map.mp hc
      have hbyte := (Header.isVisibleByte_iff b).mp (List.all_eq_true.mp hall b hb)
      rwa [Header.IsVisible, Text.toNat_charOfByte]
  case isFalse => exact nomatch htext

/-- A text of visible characters becomes a value, and that reads as the text. -/
theorem exists_toText?_eq {s : Text} (hvisible : ∀ c ∈ s, Header.IsVisible c) :
    ∃ value, ofText? s = some value ∧ value.toText? = some s := by
  have hbytes : Utf8.encode s = Text.toBytes s :=
    Utf8.encode_of_ascii fun c hc => (hvisible c hc).lt
  have hnumber : ∀ c ∈ s, (UInt8.ofNat c.toNat).toNat = c.toNat := fun c hc =>
    Utf8.toNat_ofNat (Nat.lt_trans (hvisible c hc).lt (by decide))
  have hall : (Text.toBytes s).all Header.isVisibleByte = true := by
    rw [List.all_eq_true]
    intro b hb
    obtain ⟨c, hc, rfl⟩ := List.mem_map.mp hb
    rw [Header.isVisibleByte_iff, hnumber c hc]
    exact hvisible c hc
  have hlegal : (Text.toBytes s).all Header.isValueByte = true := by
    rw [List.all_eq_true] at hall ⊢
    exact fun b hb => Header.isValueByte_of_isVisibleByte (hall b hb)
  refine ⟨⟨Text.toBytes s, hlegal⟩, ?_, ?_⟩
  · rw [ofText?, hbytes]
    exact dif_pos hlegal
  · have hback : (Text.toBytes s).map (fun b => Char.ofNat b.toNat) = s := by
      rw [Text.toBytes, List.map_map]
      conv_rhs => rw [← List.map_id s]
      refine List.map_congr_left fun c hc => ?_
      change Char.ofNat (UInt8.ofNat c.toNat).toNat = c
      rw [hnumber c hc, Char.ofNat_toNat]
    rw [toText?, if_pos hall, hback]

end HeaderValue

end Reroute
