import Remoting.Settings
import Remoting.Json.Read

/-!
# Settings as JSON documents

`Settings.write` writes all fields in order, `null` for an absent one. `Settings.read` accepts an
object with any of the fields, or an array of the fields in order whose tail may be missing. Unknown
keys of an object are passed over; a known key must not be given twice.
-/

namespace Remoting.Settings

open Json (Reader Stop Cursor)

/-- The value of an optional field. -/
def writeOption (write : α → List Char) : Option α → List Char
  | none => "null".toList
  | some value => write value

/-- The digits of a natural number. -/
def writeNat (n : Nat) : List Char :=
  Nat.toDigits 10 n

/-- One member of an object of texts. -/
def writeEntry (entry : String × String) : List Char :=
  Json.writeText entry.1 ++ ':' :: Json.writeText entry.2

/-- The written form of options. -/
def writeOptions (options : Options) : List Char :=
  '\x7b' :: [','].intercalate (options.entries.map writeEntry) ++ ['\x7d']

/-- The written form of the value of a field. -/
def writeField (settings : Settings) : Field → List Char
  | .protocol => writeOption (fun p => Json.writeText p.scheme) settings.protocol
  | .host => writeOption Json.writeText settings.host
  | .port => writeOption (fun n => writeNat n.toNat) settings.port
  | .connectionTimeout => writeOption (fun n => writeNat n.toNat) settings.connectionTimeout
  | .completionTimeout => writeOption (fun n => writeNat n.toNat) settings.completionTimeout
  | .bindAddress => writeOption Json.writeText settings.bindAddress
  | .endpointName => writeOption Json.writeText settings.endpointName
  | .username => writeOption Json.writeText settings.username
  | .password => writeOption Json.writeText settings.password
  | .saslOptions => writeOptions settings.saslOptions

/-- The written form of one member of the document. -/
def writeMember (settings : Settings) (field : Field) : List Char :=
  Json.writeText field.name ++ ':' :: settings.writeField field

/-- The document that holds the settings, without blanks. -/
def write (settings : Settings) : String :=
  String.ofList <|
    '\x7b' :: [','].intercalate (Field.all.map settings.writeMember) ++ ['\x7d']

/-- Reads the name of a protocol. -/
def readProtocol : Reader Protocol := fun c => do
  let (name, c) ← Json.readName (Protocol.all.map Protocol.scheme) c
  return ((Protocol.ofScheme? name).getD .default, c)

/-- Reads a member of the options behind its key. -/
def readEntry (key : String) (options : Options) : Reader Options := fun c => do
  let c ← c.colon
  let (value, c) ← Json.readString "a string" c
  return (options.insert key value, c)

/-- Reads options. -/
def readOptions : Reader Options := fun c =>
  let c := c.skipBlank
  match c.rest with
  | '\x7b' :: _ => Json.readObject readEntry .empty c.next
  | _ => .error (Json.wrongKind "a map" c)

/-- Reads a text or its absence. -/
def readText? : Reader (Option String) :=
  Json.readOption (Json.readString "a string")

/-- Reads a number of milliseconds or its absence. -/
def readMillis? : Reader (Option UInt64) := fun c => do
  let (n, c) ← Json.readOption (Json.readNat (Nat.pow 2 64 - 1) "u64") c
  return (n.map UInt64.ofNat, c)

/-- Reads the value of a field into the settings. -/
def readField (field : Field) (settings : Settings) : Reader Settings := fun c => do
  match field with
  | .protocol =>
    let (value, c) ← Json.readOption readProtocol c
    return ({ settings with protocol := value }, c)
  | .host =>
    let (value, c) ← readText? c
    return ({ settings with host := value }, c)
  | .port =>
    let (n, c) ← Json.readOption (Json.readNat (Nat.pow 2 16 - 1) "u16") c
    return ({ settings with port := n.map UInt16.ofNat }, c)
  | .connectionTimeout =>
    let (value, c) ← readMillis? c
    return ({ settings with connectionTimeout := value }, c)
  | .completionTimeout =>
    let (value, c) ← readMillis? c
    return ({ settings with completionTimeout := value }, c)
  | .bindAddress =>
    let (value, c) ← readText? c
    return ({ settings with bindAddress := value }, c)
  | .endpointName =>
    let (value, c) ← readText? c
    return ({ settings with endpointName := value }, c)
  | .username =>
    let (value, c) ← readText? c
    return ({ settings with username := value }, c)
  | .password =>
    let (value, c) ← readText? c
    return ({ settings with password := value }, c)
  | .saslOptions =>
    let (value, c) ← readOptions c
    return ({ settings with saslOptions := value }, c)

/-- Reads a member of a document behind its key. The state is the settings so far with the fields
that were given. -/
def readMember (key : String) (state : Settings × List Field) : Reader (Settings × List Field) :=
  fun c => do
    let (settings, given) := state
    match Field.ofName? key with
    | none =>
      let c ← Json.skipValue (← c.colon)
      return ((settings, given), c)
    | some field =>
      if given.contains field then .error (Json.giveUpObject c (.duplicateField field.name))
      else
        let (settings, c) ← readField field settings (← c.colon)
        return ((settings, field :: given), c)

/-- Reads the value that holds settings. -/
def readValue : Reader Settings := fun c => do
  let c := c.skipBlank
  match c.rest with
  | '\x7b' :: _ =>
    let ((settings, _), c) ← Json.readObject readMember (empty, []) c.next
    return (settings, c)
  | '[' :: _ => Json.readElements (Field.all.map readField) true empty c.next
  | _ => .error (Json.wrongKind "struct ClientSettings" c)

/-- The settings that a document holds. -/
def read (text : String) : Except Error Settings :=
  match Json.readDocument readValue text with
  | .ok settings => .ok settings
  | .error e => .error (.json (.refused e))

end Remoting.Settings
