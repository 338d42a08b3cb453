import Reroute.NextHop
import Reroute.Proofs.Numeral
import Reroute.Proofs.Text

/-!
Targets by their grammar.  A target is read in one way at most: the user ends at the first colon
and the password at the first `@` behind it, and a port is made of digits, among which no `@` can
be.  The main statement: what is read is exactly what the grammar has, and a proxy that can be
named is read back as it is written.
-/
namespace Reroute.NextHop

/-- The parts of a target, with the port as it is written. -/
structure Reading where
  credentials : Option Credentials
  host : Text
  digits : Text

namespace Reading

/-- The target that has these parts. -/
def text (reading : Reading) : Text :=
  match reading.credentials with
  | some c => c.user ++ ':' :: (c.password ++ '@' :: (reading.host ++ ':' :: reading.digits))
  | none => reading.host ++ ':' :: reading.digits

/-- The proxy that these parts name. -/
def hop (reading : Reading) : NextHop :=
  ⟨reading.host, Numeral.value reading.digits, reading.credentials⟩

/-- The parts that the grammar allows. -/
structure Legal (reading : Reading) : Prop where
  user : ∀ c ∈ reading.credentials, ':' ∉ c.user
  password : ∀ c ∈ reading.credentials, '@' ∉ c.password
  host : ':' ∉ reading.host
  digits : reading.digits ≠ []
  decimal : ∀ d ∈ reading.digits, d.isDigit = true
  bound : Numeral.value reading.digits ≤ 65535

end Reading

/-- The proxies that a target can name. -/
structure Nameable (hop : NextHop) : Prop where
  user : ∀ c ∈ hop.credentials, ':' ∉ c.user
  password : ∀ c ∈ hop.credentials, '@' ∉ c.password
  host : ':' ∉ hop.host
  bound : hop.port ≤ 65535

/-! ### The two halves -/

theorem hostPort?_eq_some_iff {s host : Text} {port : Nat} :
    hostPort? s = some (host, port) ↔
      ∃ digits, s = host ++ ':' :: digits ∧ ':' ∉ host ∧
        Numeral.digits? Numeral.maxWord16 digits = some port := by
  constructor
  · intro hread
    obtain ⟨⟨before, digits⟩, hcut, hport⟩ := Option.bind_eq_some_iff.mp hread
    obtain ⟨value, hdigits, hpair⟩ := Option.bind_eq_some_iff.mp hport
    obtain ⟨rfl, rfl⟩ := Prod.mk.inj (Option.some.inj hpair)
    obtain ⟨hs, hhost⟩ := Text.cut_eq_some hcut
    exact ⟨digits, hs, hhost, hdigits⟩
  · rintro ⟨digits, rfl, hhost, hdigits⟩
    simp [hostPort?, Text.cut_append hhost, hdigits]

theorem credentials?_eq_some_iff {s after : Text} {c : Credentials} :
    credentials? s = some (c, after) ↔
      s = c.user ++ ':' :: (c.password ++ '@' :: after) ∧ ':' ∉ c.user ∧ '@' ∉ c.password := by
  constructor
  · intro hread
    obtain ⟨⟨user, rest⟩, hcut, hrest⟩ := Option.bind_eq_some_iff.mp hread
    obtain ⟨⟨password, behind⟩, hbehind, hpair⟩ := Option.bind_eq_some_iff.mp hrest
    obtain ⟨rfl, rfl⟩ := Prod.mk.inj (Option.some.inj hpair)
    obtain ⟨rfl, huser⟩ := Text.cut_eq_some hcut
    obtain ⟨rfl, hpassword⟩ := Text.cut_eq_some hbehind
    exact ⟨rfl, huser, hpassword⟩
  · rintro ⟨rfl, huser, hpassword⟩
    simp [credentials?, Text.cut_append huser, Text.cut_append hpassword]

/-- No credentials are read where `host:port` is. -/
theorem credentials?_of_digits {host digits : Text} (hhost : ':' ∉ host)
    (hdigits : ∀ d ∈ digits, d.isDigit = true) : credentials? (host ++ ':' :: digits) = none := by
  have hmark : '@' ∉ digits := fun hmem => absurd (hdigits '@' hmem) (by decide)
  simp [credentials?, Text.cut_append hhost, Text.cut_eq_none hmark]

/-! ### The whole -/

namespace Reading

variable {reading other : Reading}

theorem Legal.hostPort? (hlegal : reading.Legal) :
    hostPort? (reading.host ++ ':' :: reading.digits) =
      some (reading.host, Numeral.value reading.digits) :=
  hostPort?_eq_some_iff.mpr ⟨reading.digits, rfl, hlegal.host,
    Numeral.digits?_eq_some_iff.mpr ⟨hlegal.digits, hlegal.decimal, hlegal.bound, rfl⟩⟩

/-- Every target of the grammar is read. -/
theorem Legal.parse?_text (hlegal : reading.Legal) : parse? reading.text = some reading.hop := by
  obtain ⟨credentials, host, digits⟩ := reading
  cases credentials with
  | none =>
      have hplain := credentials?_of_digits hlegal.host hlegal.decimal
      have hread := hlegal.hostPort?
      rw [parse?, text, hplain]
      simp [hread, hop]
  | some c =>
      have hcredentials : credentials? (text ⟨some c, host, digits⟩) =
          some (c, host ++ ':' :: digits) :=
        credentials?_eq_some_iff.mpr ⟨rfl, hlegal.user c rfl, hlegal.password c rfl⟩
      have hread := hlegal.hostPort?
      rw [parse?, hcredentials]
      simp [hread, hop]

theorem exists_of_hostPort? {s host : Text} {port : Nat}
    (hread : NextHop.hostPort? s = some (host, port)) (credentials : Option Credentials)
    (huser : ∀ c ∈ credentials, ':' ∉ c.user) (hpassword : ∀ c ∈ credentials, '@' ∉ c.password) :
    ∃ reading : Reading, reading.Legal ∧ reading.credentials = credentials ∧
      s = reading.host ++ ':' :: reading.digits ∧ reading.hop = ⟨host, port, credentials⟩ := by
  obtain ⟨digits, rfl, hhost, hdigits⟩ := hostPort?_eq_some_iff.mp hread
  obtain ⟨hne, hdecimal, hbound, rfl⟩ := Numeral.digits?_eq_some_iff.mp hdigits
  exact ⟨⟨credentials, host, digits⟩, ⟨huser, hpassword, hhost, hne, hdecimal, hbound⟩, rfl, rfl,
    rfl⟩

/-- All that is read is a target of the grammar. -/
theorem exists_of_parse? {s : Text} {hop : NextHop} (hparse : parse? s = some hop) :
    ∃ reading : Reading, reading.Legal ∧ reading.text = s ∧ reading.hop = hop := by
  have hplain : ∀ host port, NextHop.hostPort? s = some (host, port) →
      ∃ reading : Reading, reading.Legal ∧ reading.text = s ∧
        reading.hop = ⟨host, port, none⟩ := by
    intro host port hread
    obtain ⟨reading, hlegal, hnone, rfl, hhop⟩ :=
      exists_of_hostPort? hread none (by simp) (by simp)
    exact ⟨reading, hlegal, by rw [text, hnone], hhop⟩
  unfold parse? at hparse
  split at hparse
  case h_1 c rest hcredentials =>
      obtain ⟨rfl, huser, hpassword⟩ := credentials?_eq_some_iff.mp hcredentials
      rcases Option.or_eq_some_iff.mp hparse with hvia | ⟨-, hdirect⟩
      · obtain ⟨⟨host, port⟩, hread, rfl⟩ := Option.map_eq_some_iff.mp hvia
        obtain ⟨reading, hlegal, hsome, hrest, hhop⟩ :=
          exists_of_hostPort? hread (some c) (by simpa using huser) (by simpa using hpassword)
        exact ⟨reading, hlegal, by rw [text, hsome, hrest], hhop⟩
      · obtain ⟨⟨host, port⟩, hread, rfl⟩ := Option.map_eq_some_iff.mp hdirect
        exact hplain host port hread
  case h_2 =>
      obtain ⟨⟨host, port⟩, hread, rfl⟩ := Option.map_eq_some_iff.mp hparse
      exact hplain host port hread

/-- Parts that make the same target are the same parts. -/
theorem Legal.eq_of_text_eq (hlegal : reading.Legal) (hother : other.Legal)
    (htext : reading.text = other.text) : reading = other := by
  have hhop : reading.hop = other.hop := by
    have hparse := hlegal.parse?_text
    rw [htext, hother.parse?_text] at hparse
    exact (Option.some.inj hparse).symm
  obtain ⟨credentials, host, digits⟩ := reading
  obtain ⟨credentials', host', digits'⟩ := other
  obtain ⟨rfl, -, rfl⟩ := NextHop.mk.inj hhop
  -- The same number may be written with more zeros, but not in the same target.
  have hdigits : digits = digits' := by
    cases credentials with
    | none => exact (List.cons.inj (List.append_cancel_left htext)).2
    | some c => simpa [text] using htext
  rw [hdigits]

end Reading

theorem Nameable.legal {hop : NextHop} (hnameable : hop.Nameable) :
    Reading.Legal ⟨hop.credentials, hop.host, Numeral.render hop.port⟩ where
  user := hnameable.user
  password := hnameable.password
  host := hnameable.host
  digits := Numeral.render_ne_nil hop.port
  decimal _ := Numeral.isDigit_of_mem_render
  bound := by
    rw [Numeral.value_render]
    exact hnameable.bound

theorem render_eq_text (hop : NextHop) :
    hop.render = Reading.text ⟨hop.credentials, hop.host, Numeral.render hop.port⟩ := by
  obtain ⟨host, port, credentials⟩ := hop
  cases credentials <;> simp [render, Reading.text]

/-- A proxy that is written is read back. -/
theorem Nameable.parse?_render {hop : NextHop} (hnameable : hop.Nameable) :
    parse? hop.render = some hop := by
  rw [render_eq_text, hnameable.legal.parse?_text, Reading.hop, Numeral.value_render]

/-- Reading takes exactly the targets of the grammar, with or without credentials, and gives the
proxy that they name.  No target has two readings, and every proxy that can be named is read back
from the target that is written for it. -/
theorem parse?_grammar :
    (∀ s hop, parse? s = some hop ↔
      ∃ reading : Reading, reading.Legal ∧ reading.text = s ∧ reading.hop = hop) ∧
    (∀ reading other : Reading, reading.Legal → other.Legal → reading.text = other.text →
      reading = other) ∧
    ∀ hop : NextHop, hop.Nameable → parse? hop.render = some hop := by
  refine ⟨fun s hop => ⟨Reading.exists_of_parse?, ?_⟩,
    fun reading other hlegal hother => hlegal.eq_of_text_eq hother,
    fun hop hnameable => hnameable.parse?_render⟩
  rintro ⟨reading, hlegal, rfl, rfl⟩
  exact hlegal.parse?_text

namespace GrammarWitness

/-- Marks wherever the grammar has them for characters, and a port with zeros before it. -/
def reading : Reading := ⟨some ⟨"a@b".toList, "p:q".toList⟩, "h@x".toList, "0080".toList⟩

def hop : NextHop := ⟨"h@x".toList, 80, some ⟨"a@b".toList, "p:q".toList⟩⟩

theorem legal_reading : reading.Legal where
  user := by
    rintro c hc
    obtain rfl := Option.some.inj hc
    decide
  password := by
    rintro c hc
    obtain rfl := Option.some.inj hc
    decide
  host := by decide
  digits := by decide
  decimal := List.all_eq_true.mp (by decide)
  bound := by decide

theorem nameable_hop : hop.Nameable :=
  ⟨legal_reading.user, legal_reading.password, legal_reading.host, by decide⟩

end GrammarWitness

open GrammarWitness in
/-- The marks do not mislead, and the zeros are lost when the proxy is written. -/
theorem parse?_grammar_marks :
    reading.Legal ∧ parse? "a@b:p:q@h@x:0080".toList = some hop ∧
      (∀ other : Reading, other.Legal → other.text = "a@b:p:q@h@x:0080".toList →
        other = reading) ∧
      hop.Nameable ∧ hop.render = "a@b:p:q@h@x:80".toList ∧ parse? hop.render = some hop := by
  obtain ⟨hread, hunique, hwritten⟩ := parse?_grammar
  exact ⟨legal_reading, (hread _ _).mpr ⟨reading, legal_reading, rfl, rfl⟩,
    fun other hother htext => hunique other reading hother legal_reading htext,
    nameable_hop, rfl, hwritten hop nameable_hop⟩

end Reroute.NextHop
