import WireSql.Config
import WireSql.Session
import WireSql.Wire.Packet

/-!
# `WireSql.Login`: greeting a client and letting it in

`greeting` is what the server says first. `authenticate` decides the client's answer: a session
that is let in has the capabilities that the client asks for and the server offers; one that is
turned away is left as it was, so that the client may try again.
-/

namespace WireSql

/-- The greeting of a session. -/
def Session.greeting (s : Session) (config : ServerConfig) : Wire.Greeting where
  serverVersion := config.serverVersion
  connectionId := s.connectionId
  challenge := s.challenge
  capabilities := config.capabilities
  charset := config.charset
  statusFlags := Wire.autocommit
  authPlugin := config.authPlugin.name

namespace Login

/-- The error of a scheme that cannot be verified. -/
def unsupportedPlugin (user plugin : String) : Error :=
  .login .unsupportedPlugin user
    s!"Authentication plugin '{plugin}' reported error: unsupported plugin"

/-- The error of a response that does not prove the password. -/
def accessDenied (user : String) (response : Bytes) : Error :=
  let answer := if response.isEmpty then "NO" else "YES"
  .login .rejected user s!"Access denied for user '{user}' (using password: {answer})"

/-- The name of the scheme that a client answers with; the first scheme where it names none. -/
def pluginName (r : Wire.HandshakeResponse) : String :=
  r.authPlugin.getD AuthPlugin.nativePassword.name

/-- Decide an answer with all its fields. -/
def authenticateFull (config : ServerConfig) (s : Session) (r : Wire.HandshakeResponse) :
    Except Error Session :=
  match AuthPlugin.ofName? (pluginName r) with
  | none => .error (unsupportedPlugin r.username (pluginName r))
  | some plugin =>
    if plugin.verify config.password s.challenge.bytes r.authResponse then
      .ok (s.login (r.capabilities &&& config.capabilities) (some r.username) r.database)
    else .error (accessDenied r.username r.authResponse)

/-- Decide a client's answer to the greeting. -/
def authenticate (config : ServerConfig) (s : Session) :
    Wire.ClientHandshake → Except Error Session
  | .short => .ok (s.login 0 none none)
  | .full r => authenticateFull config s r

end Login

end WireSql
