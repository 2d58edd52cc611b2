import Remoting.Config
import Remoting.Target

/-!
# Connection settings

What a strategy factory is told about the connection to make: the target and what the configuration
says about reaching it.
-/

namespace Remoting

/-- The settings of one connection attempt. -/
structure ConnectionSettings where
  target : Target
  connectionTimeout : Duration
  bindAddress : Option String
  options : Options
  deriving DecidableEq

namespace ConnectionSettings

/-- A host as it stands in a URI: one that contains a colon is put into brackets unless it already
starts with one. -/
def hostText (host : String) : List Char :=
  let text := host.toList
  if text.contains ':' && text.head? != some '[' then '[' :: text ++ [']'] else text

/-- The text of a URI behind its scheme and slashes. -/
def authorityText (host : String) (port : UInt16) : List Char :=
  hostText host ++ ':' :: Nat.toDigits 10 port.toNat

/-- The target that a configuration names. -/
def targetOf (config : Config) : Except Error Target :=
  let scheme := config.protocol.scheme
  let authority := authorityText config.host config.port
  match Target.parse scheme.toList authority with
  | .ok target => .ok target
  | .error fault =>
    .error (.configuration ("Invalid target " ++ scheme ++ "://" ++ String.ofList authority ++
      ": " ++ fault.message))

/-- The connection settings of a configuration. -/
def ofConfig (config : Config) : Except Error ConnectionSettings := do
  return {
    target := ← targetOf config
    connectionTimeout := config.connectionTimeout
    bindAddress := config.bindAddress
    options := config.saslOptions }

/-- The URI of the target. -/
def uri (settings : ConnectionSettings) : String :=
  String.ofList settings.target.render

/-- The wording of connection settings over an endpoint of a given name. -/
def describe (settings : ConnectionSettings) (endpoint : String) : String :=
  "ProtocolConnectionConfiguration \x7b uri: " ++ Text.quote settings.uri ++
    ", endpoint: " ++ Text.quote endpoint ++
    ", connection_timeout: " ++ settings.connectionTimeout.describe ++
    ", client_bind_address: " ++
    (match settings.bindAddress with
    | some address => "Some(" ++ Text.quote address ++ ")"
    | none => "None") ++ " \x7d"

end ConnectionSettings

end Remoting
