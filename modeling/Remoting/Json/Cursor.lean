import Remoting.Json.Fault

/-!
# Reading a JSON document from left to right

A `Cursor` is what is left of a document together with the number of bytes already read. A reader
takes a cursor and either stops with a fault at a byte offset or goes on with the cursor behind what
it has read.
-/

namespace Remoting.Json

/-- What is left of a document, and how many bytes lie before it. -/
structure Cursor where
  rest : List Char
  offset : Nat
  deriving DecidableEq, Inhabited

/-- A fault with the byte offset at which reading stopped. -/
structure Stop where
  fault : Fault
  offset : Nat
  deriving DecidableEq, Inhabited

/-- A reader of values of one type. -/
abbrev Reader (α : Type) := Cursor → Except Stop (α × Cursor)

/-- Whether a character may stand between the tokens of a document. -/
def isBlank (c : Char) : Bool :=
  c == ' ' || c == '\n' || c == '\t' || c == '\r'

/-- The value of a decimal digit. -/
def digitValue (c : Char) : Nat :=
  c.toNat - '0'.toNat

namespace Cursor

/-- The cursor at the start of a document. -/
def ofText (text : String) : Cursor :=
  ⟨text.toList, 0⟩

/-- The stop at a cursor. -/
def stop (c : Cursor) (fault : Fault) : Stop :=
  ⟨fault, c.offset⟩

/-- The stop behind the next byte; at the end of the document the stop at the end. -/
def stopNext (c : Cursor) (fault : Fault) : Stop :=
  ⟨fault, if c.rest.isEmpty then c.offset else c.offset + 1⟩

/-- The cursor behind the next character. -/
def next (c : Cursor) : Cursor :=
  match c.rest with
  | [] => c
  | ch :: rest => ⟨rest, c.offset + ch.utf8Size⟩

/-- The cursor behind the blanks that come next. -/
def skipBlank (c : Cursor) : Cursor :=
  ⟨c.rest.dropWhile isBlank, c.offset + (c.rest.takeWhile isBlank).length⟩

/-- The cursor behind the decimal digits that come next. -/
def skipDigits (c : Cursor) : Cursor :=
  ⟨c.rest.dropWhile Char.isDigit, c.offset + (c.rest.takeWhile Char.isDigit).length⟩

/-- Reads the rest of a fixed word whose first letter has been read. -/
def word : List Char → Cursor → Except Stop Cursor
  | [], c => .ok c
  | expected :: letters, c =>
    match c.rest with
    | [] => .error (c.stop .eofInValue)
    | found :: _ =>
      if found = expected then word letters c.next
      else .error ⟨.expectedWord, c.offset + 1⟩

/-- Reads the colon behind a key. -/
def colon (c : Cursor) : Except Stop Cursor :=
  let c := c.skipBlank
  match c.rest with
  | [] => .error (c.stopNext .eofInObject)
  | ':' :: _ => .ok c.next
  | _ => .error (c.stopNext .expectedColon)

/-- Accepts the end of the document. -/
def finish (c : Cursor) : Except Stop Unit :=
  let c := c.skipBlank
  if c.rest.isEmpty then .ok () else .error (c.stopNext .trailingCharacters)

end Cursor

/-- Runs a reader on a whole document. -/
def readDocument (read : Reader α) (text : String) : Except ReadError α :=
  let located (s : Stop) : ReadError := ⟨s.fault, Position.ofOffset text.toList s.offset⟩
  match read (Cursor.ofText text) with
  | .error s => .error (located s)
  | .ok (value, c) =>
    match c.finish with
    | .error s => .error (located s)
    | .ok () => .ok value

end Remoting.Json
