import Remoting.Protocol
import Remoting.Options
import Remoting.Duration
import Remoting.Text.Quoted

/-!
# Client configuration

A `Config` says where and how a client connects. What a configuration holds beyond plain values (its
cleanup actions) is in `Remoting.Config.Release`.
-/

namespace Remoting

/-- Fixed credentials. -/
structure Credentials where
  username : String
  password : String
  deriving DecidableEq, Inhabited

/-- The wording of credentials. The password is not shown. -/
def Credentials.describe (credentials : Credentials) : String :=
  "StaticCredentials(Credentials \x7b username: " ++ Text.quote credentials.username ++
    ", password: \"<redacted>\" \x7d)"

/-- Where asynchronous requests run. -/
inductive Executor where
  /-- On the runtime of the caller. -/
  | caller
  /-- On a runtime of a given name that belongs to somebody else. -/
  | external (name : String)
  /-- On a runtime of the configuration's own with a number of threads, shut down on release. -/
  | dedicated (threads : Nat)
  deriving DecidableEq, Inhabited

/-- What happens to reports about clients that are dropped while open. -/
inductive LeakReporter where
  /-- Reports are logged as errors. -/
  | log
  /-- Reports are collected. -/
  | collect
  /-- Reports are collected, and collecting ends in a panic. -/
  | panicking (message : String)
  deriving DecidableEq, Inhabited

/-- The configuration of a client. -/
structure Config where
  protocol : Protocol
  host : String
  port : UInt16
  connectionTimeout : Duration
  /-- How long a close waits for cancelled operations to drain. -/
  completionTimeout : Duration
  bindAddress : Option String
  endpointName : String
  credentials : Option Credentials
  saslOptions : Options
  /-- The name of the security protocol of the transport. -/
  security : Option String
  executor : Executor
  leakReporter : LeakReporter
  deriving DecidableEq, Inhabited

namespace Config

/-- The wording of a configuration; `released` tells whether its resources are released. -/
def describe (config : Config) (released : Bool) : String :=
  "ClientConfig \x7b protocol: " ++ config.protocol.label ++
    ", host: " ++ Text.quote config.host ++
    ", port: " ++ toString config.port.toNat ++
    ", connection_timeout: " ++ config.connectionTimeout.describe ++
    ", completion_timeout: " ++ config.completionTimeout.describe ++
    ", endpoint_name: " ++ Text.quote config.endpointName ++
    ", released: " ++ (if released then "true" else "false") ++ ", .. \x7d"

/-- The name of the thread on which an asynchronous request runs, unless it runs on the caller's
runtime. -/
def executorThread? (config : Config) : Option String :=
  match config.executor with
  | .caller => none
  | .external name => some name
  | .dedicated _ => some (config.endpointName ++ "-executor")

/-- The name of the thread on which an asynchronous request runs after the release of the
configuration, if it still runs. -/
def executorThreadAfterRelease? (config : Config) : Option String :=
  match config.executor with
  | .external name => some name
  | _ => none

end Config

end Remoting
