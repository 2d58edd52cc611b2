import Remoting.Protocol
import Remoting.Options

/-!
# Settings

The part of a client's configuration that a document can hold. Every setting but the options may be
absent. `Settings.Field` lists the fields in the order in which a document lists them.
-/

namespace Remoting

/-- The settings of a client. Time limits are in milliseconds. -/
structure Settings where
  protocol : Option Protocol
  host : Option String
  port : Option UInt16
  connectionTimeout : Option UInt64
  completionTimeout : Option UInt64
  bindAddress : Option String
  endpointName : Option String
  username : Option String
  password : Option String
  saslOptions : Options
  deriving DecidableEq

namespace Settings

/-- The settings that leave everything open. -/
def empty : Settings where
  protocol := none
  host := none
  port := none
  connectionTimeout := none
  completionTimeout := none
  bindAddress := none
  endpointName := none
  username := none
  password := none
  saslOptions := .empty

instance : Inhabited Settings := ⟨empty⟩

/-- The fields of the settings. -/
inductive Field where
  | protocol
  | host
  | port
  | connectionTimeout
  | completionTimeout
  | bindAddress
  | endpointName
  | username
  | password
  | saslOptions
  deriving DecidableEq

namespace Field

/-- All fields in order. -/
def all : List Field :=
  [.protocol, .host, .port, .connectionTimeout, .completionTimeout, .bindAddress, .endpointName,
   .username, .password, .saslOptions]

/-- The key of a field in a document. -/
def name : Field → String
  | .protocol => "protocol"
  | .host => "host"
  | .port => "port"
  | .connectionTimeout => "connection-timeout-ms"
  | .completionTimeout => "completion-timeout-ms"
  | .bindAddress => "client-bind-address"
  | .endpointName => "endpoint-name"
  | .username => "username"
  | .password => "password"
  | .saslOptions => "sasl-options"

/-- The field of a given key. -/
def ofName? (text : String) : Option Field :=
  all.find? (·.name == text)

/-- Every field is found by its key. -/
@[simp] theorem ofName?_name (field : Field) : ofName? field.name = some field := by
  cases field <;> decide

end Field

end Settings

end Remoting
