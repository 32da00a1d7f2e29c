import NuxAuth.Core.Tunnel
import NuxAuth.Lib.StdText

/-!
# The environment of the gateway

`Config::from_env` refuses to start on an environment that would leave a route
unprotected: without an admin token of a certain length, or with the routers of
both roles on one port.  What it accepts keeps these two facts.

The variables of the node itself, its database and its time-outs are checked
here where `from_env` checks them and not kept, because nothing below reads
them.
-/

namespace NuxAuth.Gateway

open NuxAuth.Core
open NuxAuth.Lib.Bincode NuxAuth.Lib.StdText

/-- `MIN_TOKEN_LEN`, in bytes. -/
def minTokenLen : Nat := 16

/-- The configuration of a gateway; one that is not accepted cannot be built. -/
structure Config where
  adminAddr : SocketAddr
  guardPort : UInt16
  clientPort : UInt16
  dashboardBaseUrl : String
  adminToken : String
  dashboardToken : Option String
  portsDiffer : guardPort ≠ clientPort
  tokenLength : minTokenLen ≤ (utf8Bytes adminToken).length

/-- `std::env::var`: nothing where the variable is unset or no Unicode. -/
abbrev Environment := String → Option String

/-- The parsers of other crates, with the texts of their errors. -/
structure EnvParsers where
  socketAddr : String → Except String SocketAddr
  multiaddr : String → Except String Unit

/-- The variable or its default. -/
def envOr (env : Environment) (key default : String) : String :=
  (env key).getD default

/-- The error of a parser, behind the name of the variable. -/
def invalidValue {Value : Type} (key : String) :
    Except String Value → Except String Value
  | .ok value => .ok value
  | .error detail => .error (key ++ " invalide: " ++ detail)

/-- A variable without a default. -/
def requiredVar (env : Environment) (key : String) : Except String String :=
  match env key with
  | some value => .ok value
  | none => .error (key ++ " doit être défini")

/-- A token, with the proof that it is long enough. -/
def requiredToken (env : Environment) (key : String) :
    Except String {token : String // minTokenLen ≤ (utf8Bytes token).length} :=
  match requiredVar env key with
  | .error message => .error message
  | .ok value =>
      if long : minTokenLen ≤ (utf8Bytes value).length then
        .ok ⟨value, long⟩
      else
        .error (key ++ " doit faire au moins " ++ toString minTokenLen ++
          " caractères")

/-- `Config::from_env`; the first error is reported. -/
def Config.fromEnv (parsers : EnvParsers) (env : Environment) :
    Except String Config := do
  let adminAddr ← invalidValue "NUX_GW_ADMIN_ADDR"
    (parsers.socketAddr (envOr env "NUX_GW_ADMIN_ADDR" "0.0.0.0:8088"))
  invalidValue "NUX_GW_LISTEN"
    (parsers.multiaddr (envOr env "NUX_GW_LISTEN" "/ip4/0.0.0.0/tcp/4589"))
  let guardPort ← invalidValue "NUX_GW_GUARD_PORT"
    (parseU16 (envOr env "NUX_GW_GUARD_PORT" "8089"))
  let clientPort ← invalidValue "NUX_GW_CLIENT_PORT"
    (parseU16 (envOr env "NUX_GW_CLIENT_PORT" "8090"))
  if same : guardPort = clientPort then
    .error "NUX_GW_GUARD_PORT et NUX_GW_CLIENT_PORT doivent différer"
  else
    let _ ← requiredVar env "DATABASE_URL"
    let apiUrl ← requiredVar env "NUX_GW_API_URL"
    let adminToken ← requiredToken env "NUX_GW_ADMIN_TOKEN"
    let dashboardToken :=
      (env "NUX_GW_DASHBOARD_TOKEN").filter fun value =>
        !(trim value).isEmpty
    return {
      adminAddr := adminAddr
      guardPort := guardPort
      clientPort := clientPort
      dashboardBaseUrl := trimEndMatches '/' apiUrl
      adminToken := adminToken.val
      dashboardToken := dashboardToken
      portsDiffer := same
      tokenLength := adminToken.property }

end NuxAuth.Gateway
