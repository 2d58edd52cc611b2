import Remoting.Json.Cursor

/-!
# Text in JSON documents

`writeText` puts a text between quotes, `readText` reads it back and `skipText` passes over it. A
reader accepts every escape of the format; where a text is only passed over, the halves of a
surrogate pair need not belong together.
-/

namespace Remoting.Json

/-- Whether a character is a hexadecimal digit. -/
def isHexDigit (c : Char) : Bool :=
  c.isDigit || ('a' ≤ c && c ≤ 'f') || ('A' ≤ c && c ≤ 'F')

/-- The value of a hexadecimal digit. -/
def hexValue (c : Char) : Nat :=
  if c.isDigit then digitValue c
  else if 'a' ≤ c then c.toNat - 'a'.toNat + 10
  else c.toNat - 'A'.toNat + 10

/-- The number of bytes of some characters. -/
def byteCount (cs : List Char) : Nat :=
  cs.foldr (fun c size => c.utf8Size + size) 0

/-- Reads four hexadecimal digits. -/
def readHex : Reader Nat := fun c =>
  let digits := c.rest.take 4
  if digits.length = 4 ∧ digits.all isHexDigit then
    .ok (digits.foldl (fun n d => n * 16 + hexValue d) 0, ⟨c.rest.drop 4, c.offset + 4⟩)
  else if 4 ≤ byteCount digits then .error ⟨.invalidEscape, c.offset + 4⟩
  else .error ⟨.eofInString, c.offset + byteCount digits⟩

/-- The character that a one-letter escape stands for. -/
def shortEscape? : Char → Option Char
  | '"' => some '"'
  | '\\' => some '\\'
  | '/' => some '/'
  | 'b' => some '\x08'
  | 'f' => some '\x0c'
  | 'n' => some '\n'
  | 'r' => some '\r'
  | 't' => some '\t'
  | _ => none

/-- Reads one given character of the second half of a surrogate pair. -/
def readPairMark (expected : Char) (c : Cursor) : Except Stop Cursor :=
  match c.rest with
  | [] => .error (c.stop .eofInString)
  | found :: _ =>
    if found = expected then .ok c.next
    else .error ⟨.unfinishedSurrogatePair, c.offset + 1⟩

/-- Reads the character of an escape by code unit, behind its letter. -/
def readUnitEscape : Reader Char := fun c => do
  let (high, c) ← readHex c
  if 0xdc00 ≤ high ∧ high ≤ 0xdfff then .error (c.stop .loneSurrogate)
  else if high < 0xd800 ∨ 0xdbff < high then .ok (Char.ofNat high, c)
  else
    let c ← readPairMark '\\' c
    let c ← readPairMark 'u' c
    let (low, c) ← readHex c
    if low < 0xdc00 ∨ 0xdfff < low then .error (c.stop .loneSurrogate)
    else .ok (Char.ofNat ((high - 0xd800) * 0x400 + (low - 0xdc00) + 0x10000), c)

/-- Reads the character of an escape, behind its backslash. -/
def readEscape : Reader Char := fun c =>
  match c.rest with
  | [] => .error (c.stop .eofInString)
  | 'u' :: _ => readUnitEscape c.next
  | letter :: _ =>
    match shortEscape? letter with
    | some ch => .ok (ch, c.next)
    | none => .error ⟨.invalidEscape, c.offset + 1⟩

/-- Reads one character of a text, or its closing quote. -/
def readTextChar : Reader (Option Char) := fun c =>
  match c.rest with
  | [] => .error (c.stop .eofInString)
  | '"' :: _ => .ok (none, c.next)
  | '\\' :: _ => do
    let (ch, c) ← readEscape c.next
    .ok (some ch, c)
  | ch :: _ =>
    if ch.toNat < 0x20 then .error ⟨.controlCharacter, c.offset + 1⟩
    else .ok (some ch, c.next)

/-- Reads the characters of a text up to its closing quote. Each step reads a character, so as many
steps as there are characters suffice. -/
def readTextChars : Nat → Reader (List Char)
  | 0, c => .error (c.stop .eofInString)
  | steps + 1, c => do
    match ← readTextChar c with
    | (none, c) => .ok ([], c)
    | (some ch, c) =>
      let (chars, c) ← readTextChars steps c
      .ok (ch :: chars, c)

/-- Reads a text behind its opening quote. -/
def readText : Reader String := fun c => do
  let (chars, c) ← readTextChars (c.rest.length + 1) c
  .ok (String.ofList chars, c)

/-- Passes over one character of a text; tells whether it was the closing quote. -/
def skipTextChar : Reader Bool := fun c =>
  match c.rest with
  | [] => .error (c.stop .eofInString)
  | '"' :: _ => .ok (true, c.next)
  | '\\' :: _ =>
    let c := c.next
    match c.rest with
    | [] => .error (c.stop .eofInString)
    | 'u' :: _ => do
      let (_, c) ← readHex c.next
      .ok (false, c)
    | letter :: _ =>
      if (shortEscape? letter).isSome then .ok (false, c.next)
      else .error ⟨.invalidEscape, c.offset + 1⟩
  | ch :: _ =>
    if ch.toNat < 0x20 then .error (c.stop .controlCharacter) else .ok (false, c.next)

/-- Passes over the characters of a text up to its closing quote. -/
def skipTextChars : Nat → Cursor → Except Stop Cursor
  | 0, c => .error (c.stop .eofInString)
  | steps + 1, c => do
    match ← skipTextChar c with
    | (true, c) => .ok c
    | (false, c) => skipTextChars steps c

/-- Passes over a text behind its opening quote. -/
def skipText (c : Cursor) : Except Stop Cursor :=
  skipTextChars (c.rest.length + 1) c

/-- The written form of one character of a text. -/
def writeTextChar (c : Char) : List Char :=
  if c = '"' then ['\\', '"']
  else if c = '\\' then ['\\', '\\']
  else if c = '\x08' then ['\\', 'b']
  else if c = '\x0c' then ['\\', 'f']
  else if c = '\n' then ['\\', 'n']
  else if c = '\r' then ['\\', 'r']
  else if c = '\t' then ['\\', 't']
  else if c.toNat < 0x20 then
    ['\\', 'u', '0', '0', Nat.digitChar (c.toNat / 16), Nat.digitChar (c.toNat % 16)]
  else [c]

/-- The written form of a text, between quotes. -/
def writeText (text : String) : List Char :=
  '"' :: text.toList.flatMap writeTextChar ++ ['"']

end Remoting.Json
