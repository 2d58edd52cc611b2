import Remoting.Text.Quoted

/-!
# What can be wrong with a JSON document

A document is refused because its text is malformed or because a well-formed value stands where
another kind of value is expected. A `Fault` is the cause, `Fault.message` its wording, and a
`ReadError` adds the place. A `Failure` is such a refusal or any other failure over JSON, of which
nothing but the text and the causes is known.
-/

namespace Remoting.Json

/-- A value that stands where another kind of value is expected. -/
inductive Found where
  | null
  | boolean (value : Bool)
  | integer (value : Int)
  | real (text : String)
  | string (text : String)
  | array
  | object
  deriving DecidableEq, Inhabited

/-- How a value is named in a message. -/
def Found.describe : Found → String
  | .null => "null"
  | .boolean value => "boolean `" ++ (if value then "true" else "false") ++ "`"
  | .integer value => "integer `" ++ toString value ++ "`"
  | .real text => "floating point `" ++ text ++ "`"
  | .string text => "string " ++ Text.quote text
  | .array => "sequence"
  | .object => "map"

/-- Why a document is refused. -/
inductive Fault where
  | eofInArray
  | eofInObject
  | eofInString
  | eofInValue
  | expectedColon
  | expectedArrayCommaOrEnd
  | expectedObjectCommaOrEnd
  | expectedWord
  | expectedValue
  | invalidEscape
  | invalidNumber
  | numberOutOfRange
  | controlCharacter
  | keyNotString
  | loneSurrogate
  | unfinishedSurrogatePair
  | trailingComma
  | trailingCharacters
  /-- A value of another kind than the expected one. -/
  | invalidType (found : Found) (expected : String)
  /-- A value of the expected kind that is out of range. -/
  | invalidValue (found : Found) (expected : String)
  /-- A name that is none of the known ones. -/
  | unknownVariant (name : String) (known : List String)
  /-- A field that is given twice. -/
  | duplicateField (name : String)
  deriving DecidableEq, Inhabited

namespace Fault

/-- A name between backquotes. -/
def quoteName (name : String) : String :=
  "`" ++ name ++ "`"

/-- The wording of a fault. -/
def message : Fault → String
  | .eofInArray => "EOF while parsing a list"
  | .eofInObject => "EOF while parsing an object"
  | .eofInString => "EOF while parsing a string"
  | .eofInValue => "EOF while parsing a value"
  | .expectedColon => "expected `:`"
  | .expectedArrayCommaOrEnd => "expected `,` or `]`"
  | .expectedObjectCommaOrEnd => "expected `,` or `\x7d`"
  | .expectedWord => "expected ident"
  | .expectedValue => "expected value"
  | .invalidEscape => "invalid escape"
  | .invalidNumber => "invalid number"
  | .numberOutOfRange => "number out of range"
  | .controlCharacter => "control character (\\u0000-\\u001F) found while parsing a string"
  | .keyNotString => "key must be a string"
  | .loneSurrogate => "lone leading surrogate in hex escape"
  | .unfinishedSurrogatePair => "unexpected end of hex escape"
  | .trailingComma => "trailing comma"
  | .trailingCharacters => "trailing characters"
  | .invalidType found expected =>
    "invalid type: " ++ found.describe ++ ", expected " ++ expected
  | .invalidValue found expected =>
    "invalid value: " ++ found.describe ++ ", expected " ++ expected
  | .unknownVariant name known =>
    "unknown variant " ++ quoteName name ++ ", expected one of " ++
      String.intercalate ", " (known.map quoteName)
  | .duplicateField name => "duplicate field " ++ quoteName name

end Fault

/-- A place in a text: lines count from one, columns count bytes and are zero at a line's start. -/
structure Position where
  line : Nat
  column : Nat
  deriving DecidableEq, Inhabited

namespace Position

/-- The place reached after `bytes` more bytes of a text, starting from `place`. -/
def advance (place : Position) : List Char → Nat → Position
  | [], _ => place
  | c :: rest, bytes =>
    if bytes = 0 then place
    else if c = '\n' then advance ⟨place.line + 1, 0⟩ rest (bytes - 1)
    else advance ⟨place.line, place.column + min bytes c.utf8Size⟩ rest (bytes - c.utf8Size)

/-- The place that lies `bytes` bytes after the start of a text. -/
def ofOffset (text : List Char) (bytes : Nat) : Position :=
  advance ⟨1, 0⟩ text bytes

end Position

/-- A refused document: the cause and the place. -/
structure ReadError where
  fault : Fault
  position : Position
  deriving DecidableEq, Inhabited

/-- The wording of a refused document. -/
def ReadError.message (e : ReadError) : String :=
  e.fault.message ++ " at line " ++ toString e.position.line ++
    " column " ++ toString e.position.column

/-- A failure to read or write JSON. -/
inductive Failure where
  /-- A document was refused. -/
  | refused (error : ReadError)
  /-- A collaborator failed over JSON of its own: the text and the causes of its failure. -/
  | foreign (text : String) (causes : List String)
  deriving DecidableEq, Inhabited

namespace Failure

/-- The wording of a failure. -/
def message : Failure → String
  | .refused error => error.message
  | .foreign text _ => text

/-- The texts of what a failure was caused by, nearest first. -/
def causes : Failure → List String
  | .refused _ => []
  | .foreign _ causes => causes

end Failure

end Remoting.Json
