import Reroute.Header
import Reroute.NextHop
import Reroute.Text.Base64
import Reroute.Uri

/-!
Connections to origins and to the proxies on the way there: what is sent on them, the credentials
that a proxy asks for, and the clients that are kept for the proxies.
-/
namespace Reroute

/-- A request as it leaves the proxy, directly or through another one. -/
structure Outgoing where
  method : Text
  target : Uri
  headers : Headers
  body : List UInt8
  nextHop : Option NextHop

/-- The value of the header that carries credentials to a proxy. -/
def Credentials.authorization (credentials : Credentials) : Text :=
  "Basic ".toList ++
    Base64.encode (Utf8.encode (credentials.user ++ ':' :: credentials.password))

/-- The clients that are kept, one for each proxy. -/
structure ClientPool where
  hops : List NextHop

namespace ClientPool

/-- No client yet. -/
def empty : ClientPool := ⟨[]⟩

/-- Use the client of a proxy, and keep it. -/
def use (pool : ClientPool) (hop : NextHop) : ClientPool :=
  if pool.hops.contains hop then pool else ⟨pool.hops ++ [hop]⟩

/-- The number of clients. -/
def size (pool : ClientPool) : Nat := pool.hops.length

end ClientPool

end Reroute
