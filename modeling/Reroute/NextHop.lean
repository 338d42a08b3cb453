import Reroute.Text.Numeral

/-!
Next hops: proxies that requests are sent on to.  A target reads `host:port` or
`user:password@host:port`: user and host hold no colon, the password holds no `@`, and the
port is a number of 16 bits in ASCII digits.  `render` writes a target back.
-/
namespace Reroute

/-- What a proxy asks of those who use it. -/
structure Credentials where
  user : Text
  password : Text
deriving Repr, DecidableEq

/-- A proxy that requests are forwarded through. -/
structure NextHop where
  host : Text
  port : Nat
  credentials : Option Credentials
deriving Repr, DecidableEq

namespace NextHop

/-- Read `host:port`. -/
def hostPort? (s : Text) : Option (Text × Nat) := do
  let (host, digits) ← Text.cut ':' s
  let port ← Numeral.digits? Numeral.maxWord16 digits
  pure (host, port)

/-- Read `user:password@` and return what stands behind it.  The user ends at the first
colon, the password at the first `@` behind that. -/
def credentials? (s : Text) : Option (Credentials × Text) := do
  let (user, rest) ← Text.cut ':' s
  let (password, after) ← Text.cut '@' rest
  pure (⟨user, password⟩, after)

/-- Read a target, with credentials where `host:port` follows them. -/
def parse? (s : Text) : Option NextHop :=
  let plain : Option NextHop := (hostPort? s).map fun (host, port) => ⟨host, port, none⟩
  match credentials? s with
  | some (credentials, rest) =>
      ((hostPort? rest).map fun (host, port) => ⟨host, port, some credentials⟩).or plain
  | none => plain

/-- Write a target. -/
def render (hop : NextHop) : Text :=
  (match hop.credentials with
    | some c => c.user ++ ':' :: (c.password ++ ['@'])
    | none => []) ++ hop.host ++ ':' :: Numeral.render hop.port

end NextHop

end Reroute
