/-!
# IPv6 addresses

An address has eight pieces of sixteen bits. `Ipv6.parse?` accepts one `::` for a run of zero pieces
and a dotted form of the last two pieces. `Ipv6.render` writes the first longest run of at least two
zero pieces as `::`.
-/

namespace Remoting.Ipv6

/-- The value of a hexadecimal digit. -/
def hexValue? (c : Char) : Option Nat :=
  if c.isDigit then some (c.toNat - '0'.toNat)
  else if 'a' ≤ c ∧ c ≤ 'f' then some (c.toNat - 'a'.toNat + 10)
  else if 'A' ≤ c ∧ c ≤ 'F' then some (c.toNat - 'A'.toNat + 10)
  else none

/-- Reads at most the given number of hexadecimal digits. -/
def takeHex : Nat → Nat → List Char → Nat × List Char
  | 0, value, text => (value, text)
  | _ + 1, value, [] => (value, [])
  | digits + 1, value, c :: text =>
    match hexValue? c with
    | some digit => takeHex digits (value * 16 + digit) text
    | none => (value, c :: text)

/-- The parts of a text between its dots. -/
def splitDots : List Char → List (List Char)
  | [] => [[]]
  | '.' :: text => [] :: splitDots text
  | c :: text =>
    match splitDots text with
    | [] => [[c]]
    | part :: parts => (c :: part) :: parts

/-- The number of at most 255 that decimal digits without leading zeros stand for. -/
def octet? (digits : List Char) : Option Nat :=
  let value := digits.foldl (fun n d => n * 10 + (d.toNat - '0'.toNat)) 0
  if digits.all Char.isDigit ∧ digits ≠ [] ∧ digits.length ≤ 3 ∧ value ≤ 255 ∧
      (digits.head? = some '0' → digits.length = 1) then some value
  else none

/-- The two pieces that a dotted address stands for. -/
def dotted? (text : List Char) : Option (List Nat) :=
  match (splitDots text).mapM octet? with
  | some [a, b, c, d] => some [a * 256 + b, c * 256 + d]
  | _ => none

/-- Pieces in reading order. Where the text has `::`, one zero piece stands for the run and `mark`
is the number of pieces up to it. -/
structure Draft where
  pieces : List Nat
  mark : Option Nat

/-- Reads pieces as long as there is room for another one. -/
def readPieces : Nat → Draft → List Char → Option Draft
  | _, draft, [] => some draft
  | 0, _, _ :: _ => none
  | room + 1, draft, ':' :: text =>
    if draft.mark.isSome then none
    else readPieces room ⟨draft.pieces ++ [0], some (draft.pieces.length + 1)⟩ text
  | room + 1, draft, text =>
    let (value, rest) := takeHex 4 0 text
    match rest with
    | [] => some ⟨draft.pieces ++ [value], draft.mark⟩
    | [':'] => none
    | ':' :: more => readPieces room ⟨draft.pieces ++ [value], draft.mark⟩ more
    | '.' :: _ =>
      if rest.length = text.length ∨ 6 < draft.pieces.length then none
      else (dotted? text).map fun tail => ⟨draft.pieces ++ tail, draft.mark⟩
    | _ => none

/-- The eight pieces of an address, its run of zeros filled in. -/
def Draft.complete? (draft : Draft) : Option (List Nat) :=
  match draft.mark with
  | some mark =>
    some (draft.pieces.take mark ++ List.replicate (8 - draft.pieces.length) 0 ++
      draft.pieces.drop mark)
  | none => if draft.pieces.length = 8 then some draft.pieces else none

/-- The eight pieces of an address in textual form. -/
def parse? (text : List Char) : Option (List Nat) :=
  match text with
  | [] | [_] => none
  | ':' :: ':' :: rest => (readPieces 7 ⟨[0], some 1⟩ rest).bind Draft.complete?
  | ':' :: _ => none
  | _ => (readPieces 8 ⟨[], none⟩ text).bind Draft.complete?

/-- The number of zero pieces at the start of a list. -/
def leadingZeros (pieces : List Nat) : Nat :=
  (pieces.takeWhile (· == 0)).length

/-- Where the first longest run of zero pieces starts, and how long it is. -/
def longestRun : List Nat → Nat × Nat
  | [] => (0, 0)
  | piece :: rest =>
    let (start, length) := longestRun rest
    if length ≤ leadingZeros (piece :: rest) then (0, leadingZeros (piece :: rest))
    else (start + 1, length)

/-- Pieces in hexadecimal form with colons between them. -/
def renderPieces (pieces : List Nat) : List Char :=
  [':'].intercalate (pieces.map (Nat.toDigits 16))

/-- The normal textual form of an address. -/
def render (pieces : List Nat) : List Char :=
  let (start, length) := longestRun pieces
  if length < 2 then renderPieces pieces
  else renderPieces (pieces.take start) ++ [':', ':'] ++ renderPieces (pieces.drop (start + length))

end Remoting.Ipv6
