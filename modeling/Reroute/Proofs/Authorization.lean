import Reroute.Gateway
import Reroute.Proofs.Base64
import Reroute.Proofs.Header
import Reroute.Proofs.NextHop

/-!
Credentials as they are sent.  Base64 is made of visible characters, so the value for a proxy is
legal whatever the credentials hold.  The main statement: the value is read back as the user and
the password with a colon between them, and since a user of a target holds no colon, no other
credentials of a target are sent as the same value.
-/
namespace Reroute

theorem Utf8.encode_injective : Function.Injective encode := by
  intro s t hbytes
  have hread := congrArg decode? hbytes
  rw [decode?_encode, decode?_encode] at hread
  exact Option.some.inj hread

namespace Base64

theorem encode_injective : Function.Injective encode := by
  intro first second hletters
  have hread := congrArg decode hletters
  rw [decode_encode, decode_encode] at hread
  exact Except.ok.inj hread

theorem isVisible_letter : ∀ n < 64, Header.IsVisible (letter n) := by
  unfold Header.IsVisible
  decide

theorem isVisible_of_mem_encode {bytes : List UInt8} {c : Char} (hc : c ∈ encode bytes) :
    Header.IsVisible c := by
  obtain ⟨padding, hencode, hpadding⟩ := encode_eq bytes
  rw [hencode] at hc
  rcases List.mem_append.mp hc with hletter | hpad
  · obtain ⟨n, hn, rfl⟩ := List.mem_map.mp hletter
    exact isVisible_letter n (sextets_lt bytes n hn)
  · rw [hpadding c hpad]
    exact Or.inl (by decide)

end Base64

namespace Credentials

variable {first second : Credentials}

theorem isVisible_authorization (credentials : Credentials) :
    ∀ c ∈ credentials.authorization, Header.IsVisible c := by
  intro c hc
  rcases List.mem_append.mp hc with hscheme | hletters
  · have hall : "Basic ".toList.all (fun d => 0x20 ≤ d.toNat && d.toNat ≤ 0x7E) = true := by
      decide
    exact Or.inl (by simpa using List.all_eq_true.mp hall c hscheme)
  · exact Base64.isVisible_of_mem_encode hletters

/-- The first colon ends the user, so both parts are found again. -/
theorem eq_of_authorization_eq (hfirst : ':' ∉ first.user) (hsecond : ':' ∉ second.user)
    (hvalue : first.authorization = second.authorization) : first = second := by
  have hletters := List.append_cancel_left hvalue
  have hparts : first.user ++ ':' :: first.password = second.user ++ ':' :: second.password :=
    Utf8.encode_injective (Base64.encode_injective hletters)
  have hcut : some (first.user, first.password) = some (second.user, second.password) := by
    rw [← Text.cut_append hfirst, ← Text.cut_append hsecond, hparts]
  obtain ⟨huser, hpassword⟩ := Prod.mk.inj (Option.some.inj hcut)
  cases first
  cases second
  exact congrArg₂ Credentials.mk huser hpassword

/-- Without that guarantee of a target the pair is lost. -/
example : authorization ⟨"a:b".toList, "c".toList⟩ = authorization ⟨"a".toList, "b:c".toList⟩ :=
  rfl

end Credentials

/-- A request for a proxy with credentials leaves with their value, if its URL is a target. -/
theorem Incoming.leaveAs_of_credentials {request : Request} {uri : Uri} {hop : NextHop}
    {credentials : Credentials} {value : HeaderValue} (huri : Uri.parse request.url = .ok uri)
    (hhop : request.nextHop = some hop) (hcredentials : hop.credentials = some credentials)
    (hvalue : HeaderValue.ofText? credentials.authorization = some value)
    (incoming : Incoming) :
    ∃ outgoing, incoming.leaveAs request = .ok outgoing ∧ outgoing.nextHop = some hop ∧
      outgoing.headers.values .proxyAuthorization = [value] := by
  refine ⟨⟨incoming.method, uri, ((request.headers.erase .host).erase .proxyConnection).insert
    .proxyAuthorization value, incoming.body, some hop⟩, ?_, rfl, ?_⟩
  · simp [leaveAs, huri, hhop, hcredentials, hvalue, Except.mapError, bind, Except.bind, pure,
      Except.pure]
  · rw [Headers.values_insert, if_pos rfl]

namespace NextHop

theorem user_of_parse? {target : Text} {hop : NextHop} {credentials : Credentials}
    (hparse : parse? target = some hop) (hcredentials : hop.credentials = some credentials) :
    ':' ∉ credentials.user := by
  obtain ⟨reading, hlegal, -, rfl⟩ := Reading.exists_of_parse? hparse
  exact hlegal.user credentials hcredentials

/-- The credentials of a target are sent as a legal header value: a scheme, and letters that are
read back as the user and the password with a colon between them.  A request for the proxy leaves
with that value.  Credentials of targets that are sent alike are the same. -/
theorem parse?_authorization :
    (∀ target hop credentials, parse? target = some hop →
      hop.credentials = some credentials →
        ∃ letters value, credentials.authorization = "Basic ".toList ++ letters ∧
          Base64.decode letters =
            .ok (Utf8.encode (credentials.user ++ ':' :: credentials.password)) ∧
          (HeaderValue.ofText? letters).isSome ∧
          HeaderValue.ofText? credentials.authorization = some value ∧
          value.toText? = some credentials.authorization ∧
          ∀ (incoming : Incoming) (request : Request) (uri : Uri),
            Uri.parse request.url = .ok uri → request.nextHop = some hop →
              ∃ outgoing, incoming.leaveAs request = .ok outgoing ∧
                outgoing.nextHop = some hop ∧
                outgoing.headers.values .proxyAuthorization = [value]) ∧
    ∀ target target' hop hop' credentials credentials', parse? target = some hop →
      parse? target' = some hop' → hop.credentials = some credentials →
        hop'.credentials = some credentials' →
          credentials.authorization = credentials'.authorization →
            credentials = credentials' := by
  constructor
  · intro target hop credentials hparse hcredentials
    obtain ⟨value, hvalue, htext⟩ :=
      HeaderValue.exists_toText?_eq credentials.isVisible_authorization
    have hvisible : ∀ c ∈ Base64.encode (Utf8.encode
        (credentials.user ++ ':' :: credentials.password)), Header.IsVisible c :=
      fun c hc => Base64.isVisible_of_mem_encode hc
    obtain ⟨letters, hletters, -⟩ := HeaderValue.exists_toText?_eq hvisible
    refine ⟨_, value, rfl, Base64.decode_encode _, Option.isSome_of_eq_some hletters, hvalue,
      htext, ?_⟩
    intro incoming request uri huri hhop
    exact incoming.leaveAs_of_credentials huri hhop hcredentials hvalue
  · intro target target' hop hop' credentials credentials' hparse hparse' hcredentials
      hcredentials' hvalue
    exact Credentials.eq_of_authorization_eq (user_of_parse? hparse hcredentials)
      (user_of_parse? hparse' hcredentials') hvalue

namespace AuthorizationWitness

def login : Credentials := ⟨"é".toList, "p:q".toList⟩

def hop : NextHop := ⟨"proxy.test".toList, 80, some login⟩

def other : NextHop := ⟨"other.test".toList, 8080, some ⟨"é".toList, "p:q".toList⟩⟩

def uri : Uri := ⟨some .http, "a.test".toList, "/".toList⟩

def incoming : Incoming := ⟨"GET".toList, uri, Headers.empty, []⟩

def request : Request :=
  { url := "http://a.test/".toList, headers := Headers.empty, nextHop := some hop }

theorem parse?_hop : parse? "é:p:q@proxy.test:0080".toList = some hop := by decide

theorem parse?_other : parse? "é:p:q@other.test:8080".toList = some other := by decide

end AuthorizationWitness

open AuthorizationWitness in
/-- A user beyond ASCII and a password with a colon, in the targets of two proxies. -/
theorem parse?_authorization_colon :
    parse? "é:p:q@proxy.test:0080".toList = some hop ∧
      parse? "é:p:q@other.test:8080".toList = some other ∧
      login.authorization = "Basic w6k6cDpx".toList ∧
      (∃ letters value, login.authorization = "Basic ".toList ++ letters ∧
        Base64.decode letters = .ok (Utf8.encode "é:p:q".toList) ∧
        ∃ outgoing, incoming.leaveAs request = .ok outgoing ∧
          outgoing.headers.values .proxyAuthorization = [value]) ∧
      login = ⟨"é".toList, "p:q".toList⟩ := by
  obtain ⟨hsent, hinjective⟩ := parse?_authorization
  obtain ⟨letters, value, hscheme, hread, -, -, -, hleaves⟩ := hsent _ hop login parse?_hop rfl
  obtain ⟨outgoing, hleave, -, hvalue⟩ := hleaves incoming request uri (by decide) rfl
  exact ⟨parse?_hop, parse?_other, rfl, ⟨letters, value, hscheme, hread, outgoing, hleave, hvalue⟩,
    hinjective _ _ hop other login _ parse?_hop parse?_other rfl rfl rfl⟩

end NextHop

end Reroute
