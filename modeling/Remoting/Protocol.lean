import Remoting.Error

/-!
# Management protocols

The protocols that a client can speak, with the URI scheme, the default port and the security of
each. `Protocol.ofName` reads a scheme back.
-/

namespace Remoting

/-- A management protocol. -/
inductive Protocol where
  /-- Native remoting. -/
  | remote
  /-- Remoting upgraded from HTTP, under its legacy name. -/
  | httpRemoting
  /-- Remoting upgraded from HTTPS, under its legacy name. -/
  | httpsRemoting
  /-- Remoting upgraded from HTTP. -/
  | remoteHttp
  /-- Remoting upgraded from HTTPS. -/
  | remoteHttps
  deriving DecidableEq

namespace Protocol

/-- The protocol of a client that names none. -/
def default : Protocol := .remoteHttp

instance : Inhabited Protocol := ⟨Protocol.default⟩

/-- All protocols, in the order in which messages list them. -/
def all : List Protocol :=
  [.remote, .httpRemoting, .httpsRemoting, .remoteHttp, .remoteHttps]

/-- The URI scheme of a protocol. -/
def scheme : Protocol → String
  | .remote => "remote"
  | .httpRemoting => "http-remoting"
  | .httpsRemoting => "https-remoting"
  | .remoteHttp => "remote+http"
  | .remoteHttps => "remote+https"

/-- The name of a protocol in diagnostics. -/
def label : Protocol → String
  | .remote => "Remote"
  | .httpRemoting => "HttpRemoting"
  | .httpsRemoting => "HttpsRemoting"
  | .remoteHttp => "RemoteHttp"
  | .remoteHttps => "RemoteHttps"

/-- The port of a client that names none. -/
def defaultPort : Protocol → UInt16
  | .remote => 9999
  | .httpRemoting | .remoteHttp => 9990
  | .httpsRemoting | .remoteHttps => 9993

/-- Whether a protocol runs over TLS. -/
def isSecure : Protocol → Bool
  | .httpsRemoting | .remoteHttps => true
  | _ => false

/-- The protocol of a given scheme. -/
def ofScheme? (text : String) : Option Protocol :=
  all.find? (·.scheme == text)

/-- The protocol of a given scheme, or the error that names the unknown one. -/
def ofName (text : String) : Except Error Protocol :=
  match ofScheme? text with
  | some protocol => .ok protocol
  | none => .error (.configuration ("Unknown protocol: " ++ text))

/-- Every protocol is read back from its scheme. -/
@[simp] theorem ofScheme?_scheme (protocol : Protocol) :
    ofScheme? protocol.scheme = some protocol := by
  cases protocol <;> decide

end Protocol

end Remoting
