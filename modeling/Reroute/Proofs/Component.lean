import Reroute.Proofs.Expansion
import Reroute.Proofs.Query

/-!
URI components in a query.  A placeholder `${&name}` writes its value with percent signs for all
that is not plain, a space included, while a query that is written anew has `+` for a space and
keeps other bytes.  The main statement: a query is read alike from either, so pairs of names and
values that were written as components are read back, and no value leaves its place.
-/
namespace Reroute

namespace Percent

/-! ### What a component looks like -/

/-- The characters that stand for themselves in a component. -/
def isComponentChar (c : Char) : Bool :=
  c.isAlphanum || ['-', '_', '.', '!', '~', '*', '\'', '(', ')'].contains c

/-- The digits that a byte is spelled with. -/
def upperDigits : Text := "0123456789ABCDEF".toList

/-- Characters that stand for themselves, and bytes spelled with a percent sign and two
digits. -/
inductive IsComponent : Text → Prop
  | nil : IsComponent []
  | kept {c : Char} {rest : Text} (hc : isComponentChar c = true) (hrest : IsComponent rest) :
      IsComponent (c :: rest)
  | spelled {high low : Char} {rest : Text} (hhigh : high ∈ upperDigits)
      (hlow : low ∈ upperDigits) (hrest : IsComponent rest) :
      IsComponent ('%' :: high :: low :: rest)

theorem isComponentChar_of_byte {b : UInt8} (hb : isComponentByte b = true) :
    isComponentChar (Char.ofNat b.toNat) = true := by
  have hbyte : b.toNat < 256 := b.toNat_lt
  have hall : ∀ high < 16, ∀ low < 16, isComponentByte (UInt8.ofNat (16 * high + low)) = true →
      isComponentChar (Char.ofNat (16 * high + low)) = true := by decide
  have hparts := hall (b.toNat / 16) (by omega) (b.toNat % 16) (by omega)
  rw [Nat.div_add_mod, UInt8.ofNat_toNat] at hparts
  exact hparts hb

theorem upperDigit_mem_upperDigits : ∀ n < 16, Hex.upperDigit n ∈ upperDigits := by decide

theorem isComponent_encode (bytes : List UInt8) : IsComponent (encode isComponentByte bytes) := by
  induction bytes with
  | nil => exact .nil
  | cons b rest ih =>
      have hbyte : b.toNat < 256 := b.toNat_lt
      rw [encode, List.flatMap_cons]
      by_cases hkept : isComponentByte b = true
      · rw [if_pos hkept]
        exact .kept (isComponentChar_of_byte hkept) ih
      · rw [if_neg hkept]
        exact .spelled (upperDigit_mem_upperDigits _ (by omega))
          (upperDigit_mem_upperDigits _ (by omega)) ih

end Percent

namespace Query

/-! ### Reading components -/

theorem safe_isComponentByte : Safe Percent.isComponentByte :=
  safe_of_others (by decide)

/-- A component is read back as what it was written for. -/
theorem decodePart_encodeComponent (s : Text) : decodePart (Percent.encodeComponent s) = s := by
  rw [decodePart, Percent.encodeComponent, safe_isComponentByte.map_encode,
    safe_isComponentByte.decode_encode]

theorem mark_notMem_encodeComponent {mark : Char} (hmark : mark ∈ ['&', '=', '+']) (s : Text) :
    mark ∉ Percent.encodeComponent s :=
  safe_isComponentByte.mark_notMem_encode hmark (Utf8.encode s)

/-- Pairs with their names and values written as components. -/
def encodeComponents (pairs : Pairs) : Text :=
  Text.joinWith ['&'] (pairs.map fun pair =>
    Percent.encodeComponent pair.1 ++ '=' :: Percent.encodeComponent pair.2)

theorem decode_encodeComponents (pairs : Pairs) : decode (encodeComponents pairs) = pairs :=
  decode_joinWith decodePart_encodeComponent
    (fun s => ⟨mark_notMem_encodeComponent (by decide) s,
      mark_notMem_encodeComponent (by decide) s⟩) pairs

theorem get?_eq_find? (name : Text) (pairs : Pairs) :
    get? name pairs = (pairs.find? fun pair => pair.1 == name).map Prod.snd := by
  induction pairs with
  | nil => rfl
  | cons pair rest ih =>
      rw [get?, Text.lookup_cons]
      by_cases hname : pair.1 = name
      · rw [if_pos hname.symm, List.find?_cons_of_pos (by simpa using hname)]
        rfl
      · rw [if_neg (Ne.symm hname), List.find?_cons_of_neg (by simpa using hname)]
        exact ih

end Query

theorem Percent.encodeComponent_injective : Function.Injective encodeComponent :=
  Function.LeftInverse.injective Query.decodePart_encodeComponent

namespace Request

/-- What `${&name}` writes is read back from a query.  A URL whose query has pairs written as
components holds exactly these pairs, so a parameter has the value of the first pair of its name;
no two texts are written alike, and what is written has nothing in it but the characters of
components and spelled bytes. -/
theorem param?_encodeComponents (pairs : Pairs) {base : Text} (hbase : '?' ∉ base)
    {request : Request} (hurl : request.url = base ++ '?' :: Query.encodeComponents pairs) :
    Url.pairs request.url = pairs ∧
      (∀ name, request.param? name =
        (pairs.find? fun pair => pair.1 == name).map Prod.snd) ∧
      Function.Injective Percent.encodeComponent ∧
      (∀ s, Percent.IsComponent (Percent.encodeComponent s)) ∧
      ∀ (other : Request) captures name, name ≠ [] → '}' ∉ name →
        other.expand captures (Template.braced ('&' :: name)) =
          Percent.encodeComponent (Template.lookup other name) := by
  have hpairs : Url.pairs request.url = pairs := by
    rw [hurl, Url.pairs, Url.query_append hbase, Query.decode_encodeComponents]
  refine ⟨hpairs, fun name => ?_, Percent.encodeComponent_injective,
    fun s => Percent.isComponent_encode _, fun other captures name hne hclose => ?_⟩
  · rw [param?, hpairs, Query.get?_eq_find?]
  · exact other.expand_of_reads captures (.encoded hne hclose)

namespace ComponentWitness

/-- A name and a value full of marks, an empty pair, and the name once more. -/
def pairs : Pairs :=
  [("é &".toList, "a+b=c%20".toList), ([], []), ("é &".toList, "2".toList)]

def base : Text := "http://a.test/x".toList

def request : Request where
  url := base ++ '?' :: Query.encodeComponents pairs
  headers := Headers.empty

end ComponentWitness

open ComponentWitness in
/-- The marks are spelled, and the first value is found and written as it was. -/
theorem param?_encodeComponents_marks :
    '?' ∉ base ∧
      request.url = "http://a.test/x?%C3%A9%20%26=a%2Bb%3Dc%2520&=&%C3%A9%20%26=2".toList ∧
      Url.pairs request.url = pairs ∧
      request.param? "é &".toList = some "a+b=c%20".toList ∧
      Percent.IsComponent (Percent.encodeComponent "é".toList) ∧
      request.expand [] (Template.braced ('&' :: "param:é &".toList)) =
        Percent.encodeComponent (Template.lookup request "param:é &".toList) := by
  have hbase : '?' ∉ base := by decide
  have hurl : request.url = base ++ '?' :: Query.encodeComponents pairs := rfl
  obtain ⟨hpairs, hfirst, -, hlook, hexpand⟩ :=
    param?_encodeComponents pairs hbase hurl
  exact ⟨hbase, by decide, hpairs, hfirst _, hlook _, hexpand request [] _ (by decide)
    (by decide)⟩

end Request

end Reroute
