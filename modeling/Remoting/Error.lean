import Remoting.Io.Error
import Remoting.Json.Fault

/-!
# Errors of the management client

`Error` lists the ways in which the client, its configuration and its collaborators can fail.
`Error.message` is the wording, `Error.sources` the chain of causes, and `Error.clone` the copy that
is handed out when several callers have to see one failure. A copy keeps what callers decide on:
`kind`, `message`, `ioKind?`, `isClosed` and `isInterrupted`; only a JSON error becomes a
configuration error.
-/

namespace Remoting

/-- The content of a panic: a text, or something that is not a text. -/
inductive Panic where
  | text (message : String)
  | other
  deriving DecidableEq, Inhabited

/-- The text of a panic, with a fixed word for content that is not a text. -/
def Panic.message : Panic → String
  | .text message => message
  | .other => "unknown panic"

/-- The ways in which an operation can fail. -/
inductive Error where
  /-- The object `what` was used after it had been closed. -/
  | closed (what : String)
  /-- The strategy factory failed with an error of foreign origin: its text and its causes. -/
  | channelCreation (text : String) (causes : List String)
  /-- Input or output failed, or a wait for closure was interrupted. -/
  | io (error : Io.Error)
  /-- The collaborator does not implement the requested operation. -/
  | unsupportedOperation (text : String)
  /-- An operation in flight was cancelled. -/
  | cancelled (text : String)
  /-- The channel of an operation closed underneath it. -/
  | channelClosed (text : String)
  /-- The transport failed. -/
  | transport (text : String)
  /-- A time limit passed. -/
  | timeout (text : String)
  /-- The configuration is invalid or unreadable. -/
  | configuration (text : String)
  /-- A configuration document is not valid JSON or has the wrong shape, or a collaborator failed
  over JSON of its own. -/
  | json (error : Json.Failure)
  /-- Anything else. -/
  | other (text : String)
  deriving DecidableEq, Inhabited

namespace Error

/-- The category of an error. -/
inductive Kind where
  | closed
  | channelCreation
  | io
  | unsupportedOperation
  | cancelled
  | channelClosed
  | transport
  | timeout
  | configuration
  | json
  | other
  deriving DecidableEq, Inhabited

/-- The name of a category. -/
def Kind.name : Kind → String
  | .closed => "Closed"
  | .channelCreation => "ChannelCreation"
  | .io => "Io"
  | .unsupportedOperation => "UnsupportedOperation"
  | .cancelled => "Cancelled"
  | .channelClosed => "ChannelClosed"
  | .transport => "Transport"
  | .timeout => "Timeout"
  | .configuration => "Configuration"
  | .json => "Json"
  | .other => "Other"

/-- The category that an error belongs to. -/
def kind : Error → Kind
  | .closed _ => .closed
  | .channelCreation _ _ => .channelCreation
  | .io _ => .io
  | .unsupportedOperation _ => .unsupportedOperation
  | .cancelled _ => .cancelled
  | .channelClosed _ => .channelClosed
  | .transport _ => .transport
  | .timeout _ => .timeout
  | .configuration _ => .configuration
  | .json _ => .json
  | .other _ => .other

/-- The wording of an error. -/
def message : Error → String
  | .closed what => what ++ " is closed"
  | .channelCreation text _ => "Failed to create management channel: " ++ text
  | .io error => "I/O error: " ++ error.message
  | .unsupportedOperation text => "Unsupported operation: " ++ text
  | .cancelled text => "Operation cancelled: " ++ text
  | .channelClosed text => "Channel closed: " ++ text
  | .transport text => "Transport error: " ++ text
  | .timeout text => "Timeout: " ++ text
  | .configuration text => "Configuration error: " ++ text
  | .json error => "JSON error: " ++ error.message
  | .other text => text

/-- The texts of what an error was caused by, nearest first. -/
def sources : Error → List String
  | .channelCreation text causes => text :: causes
  | .io error => error.message :: error.causes
  | .json error => error.message :: error.causes
  | _ => []

/-- The kind of the I/O failure that an error reports, if it reports one. -/
def ioKind? : Error → Option Io.Kind
  | .io error => some error.kind
  | _ => none

/-- Whether an error reports the use of a closed object. -/
def isClosed : Error → Bool
  | .closed _ => true
  | _ => false

/-- Whether an error reports an interrupted wait. -/
def isInterrupted (e : Error) : Bool :=
  e.ioKind? == some .interrupted

/-- The I/O error of an interrupted wait. -/
def interrupted (text : String) : Error :=
  .io (.custom .interrupted text [])

/-- The error that a caught panic becomes. -/
def ofPanic (panic : Panic) : Error :=
  .other ("panicked: " ++ panic.message)

/-- A copy of an error. Causes that cannot be copied are reduced to their text, and a JSON error
becomes a configuration error with its wording. -/
def clone : Error → Error
  | .channelCreation text _ => .channelCreation text []
  | .io error => .io error.flatten
  | .json error => .configuration ("JSON error: " ++ error.message)
  | e => e

/-- Every error that was not a JSON error keeps its category when it is copied. -/
theorem kind_clone (e : Error) (h : e.kind ≠ .json) : e.clone.kind = e.kind := by
  cases e <;> first | rfl | exact absurd rfl h

/-- The wording of an error that was not a JSON error is kept when it is copied. -/
theorem message_clone (e : Error) (h : e.kind ≠ .json) : e.clone.message = e.message := by
  cases e <;> first | rfl | exact absurd rfl h

/-- Copying keeps the kind of an I/O failure. -/
@[simp] theorem ioKind?_clone (e : Error) : e.clone.ioKind? = e.ioKind? := by
  cases e <;> rfl

/-- A copy of a copy is the copy itself. -/
@[simp] theorem clone_clone (e : Error) : e.clone.clone = e.clone := by
  cases e <;> rfl

end Error

end Remoting
