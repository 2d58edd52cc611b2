/-!
# Percent encoding

A character that a part of a URI cannot hold is written as the hexadecimal form of each byte of its
UTF-8 encoding. Controls and characters outside ASCII are always written so; each part of a URI adds
characters of its own.
-/

namespace Remoting.Percent

/-- Whether every part of a URI encodes a character. -/
def isControl (c : Char) : Bool :=
  c.toNat < 0x20 || 0x7f ≤ c.toNat

/-- The characters that a fragment encodes besides controls. -/
def fragment : List Char := [' ', '"', '<', '>', '\x60']

/-- The characters that a query encodes besides controls. -/
def query : List Char := [' ', '"', '#', '<', '>']

/-- The characters that a path encodes besides controls. -/
def path : List Char := fragment ++ ['#', '?', '\x7b', '\x7d']

/-- The characters that user names and passwords encode besides controls. -/
def userInfo : List Char :=
  path ++ ['/', ':', ';', '=', '@', '[', '\\', ']', '^', '|']

/-- The upper-case hexadecimal digit of a number below 16. -/
def hexDigit (n : Nat) : Char :=
  (Nat.digitChar n).toUpper

/-- The encoded form of one byte. -/
def encodeByte (b : UInt8) : List Char :=
  ['%', hexDigit (b.toNat / 16), hexDigit (b.toNat % 16)]

/-- The encoded form of one character, given the characters to encode besides controls. -/
def encodeChar (reserved : List Char) (c : Char) : List Char :=
  if isControl c || reserved.contains c then
    (String.ofList [c]).toUTF8.toList.flatMap encodeByte
  else [c]

/-- The encoded form of a text. -/
def encode (reserved : List Char) (text : List Char) : List Char :=
  text.flatMap (encodeChar reserved)

end Remoting.Percent
