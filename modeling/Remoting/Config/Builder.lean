import Remoting.Config
import Remoting.Text.Blank
import Remoting.Settings.Document

/-!
# Building configurations

A `Builder` collects settings, of which the last one for each slot counts, and `Builder.build`
checks the result. Settings from a document start a builder too.
-/

namespace Remoting

/-- A configuration in the making. A port that was not set follows the protocol. At most one of the
two runtimes is set: the one that was chosen last. -/
structure Builder where
  protocol : Protocol
  host : String
  port : Option UInt16
  connectionTimeout : Duration
  completionTimeout : Duration
  bindAddress : Option String
  endpointName : String
  credentials : Option Credentials
  saslOptions : Options
  security : Option String
  /-- The runtime of somebody else on which asynchronous requests run. -/
  externalRuntime : Option String
  /-- The number of threads of a runtime of its own on which asynchronous requests run. -/
  dedicatedThreads : Option Nat
  leakReporter : LeakReporter
  deriving DecidableEq

namespace Builder

/-- The builder with everything at its default. -/
def default : Builder where
  protocol := .default
  host := "localhost"
  port := none
  connectionTimeout := ⟨5, 0⟩
  completionTimeout := .ofMillis 1000
  bindAddress := none
  endpointName := "management-client"
  credentials := none
  saslOptions := .empty
  security := none
  externalRuntime := none
  dedicatedThreads := none
  leakReporter := .log

instance : Inhabited Builder := ⟨Builder.default⟩

/-- One change to a builder. -/
inductive Call where
  | protocol (value : Protocol)
  | host (value : String)
  | port (value : UInt16)
  | connectionTimeout (value : Duration)
  | completionTimeout (value : Duration)
  | bindAddress (value : String)
  | endpointName (value : String)
  /-- Authenticate through a handler that gives out the credentials. -/
  | callbackHandler (value : Credentials)
  /-- Authenticate with fixed credentials. -/
  | credentials (value : Credentials)
  | saslOption (key value : String)
  | security (value : String)
  | externalExecutor (runtime : String := "external")
  | dedicatedExecutor (threads : Nat)
  | leakReporter (value : LeakReporter)
  deriving DecidableEq

/-- The builder after one change. -/
def apply (builder : Builder) : Call → Builder
  | .protocol value => { builder with protocol := value }
  | .host value => { builder with host := value }
  | .port value => { builder with port := some value }
  | .connectionTimeout value => { builder with connectionTimeout := value }
  | .completionTimeout value => { builder with completionTimeout := value }
  | .bindAddress value => { builder with bindAddress := some value }
  | .endpointName value => { builder with endpointName := value }
  | .callbackHandler value | .credentials value => { builder with credentials := some value }
  | .saslOption key value => { builder with saslOptions := builder.saslOptions.insert key value }
  | .security value => { builder with security := some value }
  | .externalExecutor runtime =>
    { builder with externalRuntime := some runtime, dedicatedThreads := none }
  | .dedicatedExecutor threads =>
    { builder with dedicatedThreads := some threads, externalRuntime := none }
  | .leakReporter value => { builder with leakReporter := value }

/-- The builder after several changes in order. -/
def applyAll (builder : Builder) (calls : List Call) : Builder :=
  calls.foldl apply builder

/-- Where the asynchronous requests of a builder's configuration run. A runtime of its own has at
least one thread. -/
def executor (builder : Builder) : Executor :=
  match builder.externalRuntime, builder.dedicatedThreads with
  | some runtime, _ => .external runtime
  | none, some threads => .dedicated (max threads 1)
  | none, none => .caller

/-- The configuration that a builder describes. A blank host, an empty time limit for completion and
an empty endpoint name are refused, in this order. -/
def build (builder : Builder) : Except Error Config :=
  if Text.isBlank builder.host then .error (.configuration "Host must not be empty")
  else if builder.completionTimeout.isZero then
    .error (.configuration "Completion timeout must be positive")
  else if builder.endpointName = "" then
    .error (.configuration "Endpoint name must not be empty")
  else
    .ok {
      protocol := builder.protocol
      host := builder.host
      port := builder.port.getD builder.protocol.defaultPort
      connectionTimeout := builder.connectionTimeout
      completionTimeout := builder.completionTimeout
      bindAddress := builder.bindAddress
      endpointName := builder.endpointName
      credentials := builder.credentials
      saslOptions := builder.saslOptions
      security := builder.security
      executor := builder.executor
      leakReporter := builder.leakReporter }

end Builder

namespace Settings

/-- The changes of a builder that settings other than credentials stand for. -/
def calls (settings : Settings) : List Builder.Call :=
  (settings.protocol.map Builder.Call.protocol).toList ++
    (settings.host.map Builder.Call.host).toList ++
    (settings.port.map Builder.Call.port).toList ++
    (settings.connectionTimeout.map fun ms =>
      Builder.Call.connectionTimeout (.ofMillis ms.toNat)).toList ++
    (settings.completionTimeout.map fun ms =>
      Builder.Call.completionTimeout (.ofMillis ms.toNat)).toList ++
    (settings.bindAddress.map Builder.Call.bindAddress).toList ++
    (settings.endpointName.map Builder.Call.endpointName).toList ++
    settings.saslOptions.entries.map fun entry => Builder.Call.saslOption entry.1 entry.2

/-- The builder that settings start. A user name and a password are only accepted together. -/
def toBuilder (settings : Settings) : Except Error Builder :=
  let builder := Builder.default.applyAll settings.calls
  match settings.username, settings.password with
  | some username, some password => .ok (builder.apply (.credentials ⟨username, password⟩))
  | none, none => .ok builder
  | some _, none => .error (.configuration "Username given without a password")
  | none, some _ => .error (.configuration "Password given without a username")

end Settings

namespace Config

/-- The default configuration of a host and a port. -/
def ofHostPort (host : String) (port : UInt16) : Except Error Config :=
  (Builder.default.applyAll [.host host, .port port]).build

/-- The configuration that a JSON document holds. -/
def ofJson (text : String) : Except Error Config := do
  let settings ← Settings.read text
  let builder ← settings.toBuilder
  builder.build

/-- What a file of a given name turns out to hold. -/
inductive FileContent where
  /-- There is no such file, or it cannot be read. -/
  | unreadable (error : Io.Error)
  | bytes (content : ByteArray)

/-- The configuration that a file holds as a JSON document. -/
def ofFile (name : String) (content : FileContent) : Except Error Config :=
  let unreadable (e : Io.Error) : Error :=
    .configuration ("Cannot read " ++ name ++ ": " ++ e.message)
  match content with
  | .unreadable e => .error (unreadable e)
  | .bytes content =>
    match String.fromUTF8? content with
    | some text => ofJson text
    | none =>
      .error (unreadable (.custom .invalidData "stream did not contain valid UTF-8" []))

end Config

end Remoting
