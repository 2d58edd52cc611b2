import Remoting.Json.Cursor
import Remoting.Decimal.Shortest

/-!
# Numbers in JSON documents

A number is a word-sized natural number, a negative word-sized integer, or else a real number. Reals
are read from the digits that fit into a word and a power of ten.
-/

namespace Remoting.Json

/-- A number of a document. -/
inductive Number where
  | natural (value : Nat)
  | negative (value : Int)
  | real (value : Float)

/-- The largest natural number of a document that is not read as a real number. -/
def maxNatural : Nat := Nat.pow 2 64 - 1

/-- The largest exponent of ten that is read exactly. -/
def maxExponent : Nat := Nat.pow 2 31 - 1

/-- Real numbers are written with an exponent part from `1e16` on and below `1e-4`. -/
def realLayout : Decimal.Layout := ⟨-4, 15, 2⟩

/-- A number in the role of a value of the wrong kind. -/
def Number.found : Number → Found
  | .natural value => .integer value
  | .negative value => .integer value
  | .real value => .real (Decimal.render realLayout value)

/-- Extends a number by digits as long as it fits into a word; the digits that do not fit remain. -/
def extend : Nat → List Char → Nat × List Char
  | value, [] => (value, [])
  | value, d :: digits =>
    let value' := value * 10 + digitValue d
    if maxNatural < value' then (value, d :: digits) else extend value' digits

/-- The real number `value * 10 ^ exponent` for an exponent below zero. Large exponents are divided
off in parts; five parts bring every word down to zero. -/
def divideTen : Nat → Float → Nat → Float
  | 0, value, _ => value
  | parts + 1, value, exponent =>
    if exponent ≤ 308 then value / Float.ofScientific 1 false exponent
    else if value == 0.0 then value
    else divideTen parts (value / 1e308) (exponent - 308)

/-- The real number with the given sign, leading digits and exponent of ten, unless it is too
large. -/
def realOfParts? (positive : Bool) (digits : Nat) (exponent : Int) : Option Float :=
  let value := digits.toUInt64.toFloat
  let signed (v : Float) : Float := if positive then v else -v
  if exponent < 0 then some (signed (divideTen 5 value exponent.natAbs))
  else if exponent ≤ 308 then
    let scaled := value * Float.ofScientific 1 false exponent.natAbs
    if scaled.isInf then none else some (signed scaled)
  else if digits = 0 then some (signed value)
  else none

/-- The real number made of its parts, or the fault that it is too large. -/
def finishReal (positive : Bool) (digits : Nat) (exponent : Int) : Reader Number := fun c =>
  match realOfParts? positive digits exponent with
  | some value => .ok (.real value, c)
  | none => .error (c.stop .numberOutOfRange)

/-- Reads the digits of an exponent as long as they are small enough. -/
def readExponentDigits : Nat → List Char → Nat × List Char
  | value, [] => (value, [])
  | value, d :: digits =>
    let value' := value * 10 + digitValue d
    if maxExponent < value' then (value, d :: digits) else readExponentDigits value' digits

/-- Reads an exponent part from its letter on. -/
def readExponent (positive : Bool) (digits : Nat) (exponent : Int) : Reader Number := fun c =>
  let c := c.next
  let (up, c) := match c.rest with
    | '+' :: _ => (true, c.next)
    | '-' :: _ => (false, c.next)
    | _ => (true, c)
  match c.rest with
  | [] => .error (c.stop .eofInValue)
  | first :: _ =>
    if first.isDigit then
      let all := c.rest.takeWhile Char.isDigit
      match readExponentDigits 0 all with
      | (size, []) =>
        finishReal positive digits (if up then exponent + size else exponent - size) c.skipDigits
      | (_, excess) =>
        if digits ≠ 0 ∧ up then
          .error ⟨.numberOutOfRange, c.offset + (all.length - excess.length) + 1⟩
        else .ok (.real (if positive then 0.0 else -0.0), c.skipDigits)
    else .error ⟨.invalidNumber, c.offset + 1⟩

/-- Reads an exponent part if one follows, and makes the real number. -/
def readExponent? (positive : Bool) (digits : Nat) (exponent : Int) : Reader Number := fun c =>
  match c.rest with
  | 'e' :: _ | 'E' :: _ => readExponent positive digits exponent c
  | _ => finishReal positive digits exponent c

/-- Reads the digits behind the decimal point from the point on. -/
def readFraction (positive : Bool) (digits : Nat) (exponent : Int) : Reader Number := fun c =>
  let c := c.next
  let all := c.rest.takeWhile Char.isDigit
  if all.isEmpty then
    .error (c.stopNext (if c.rest.isEmpty then .eofInValue else .invalidNumber))
  else
    let (digits, excess) := extend digits all
    readExponent? positive digits (exponent - (all.length - excess.length : Nat)) c.skipDigits

/-- Reads what follows the digits before the decimal point. -/
def readAfterInteger (positive : Bool) (digits : Nat) (excess : Nat) : Reader Number := fun c =>
  match c.rest with
  | '.' :: _ => readFraction positive digits excess c
  | 'e' :: _ | 'E' :: _ => readExponent positive digits excess c
  | _ =>
    if 0 < excess then finishReal positive digits excess c
    else if positive then .ok (.natural digits, c)
    else if digits = 0 ∨ Nat.pow 2 63 < digits then .ok (.real (-digits.toUInt64.toFloat), c)
    else .ok (.negative (-digits), c)

/-- Reads a number behind its sign. -/
def readNumber (positive : Bool) : Reader Number := fun c =>
  match c.rest with
  | [] => .error (c.stop .eofInValue)
  | '0' :: _ =>
    let c := c.next
    match c.rest with
    | d :: _ =>
      if d.isDigit then .error (c.stopNext .invalidNumber) else readAfterInteger positive 0 0 c
    | [] => readAfterInteger positive 0 0 c
  | d :: _ =>
    if d.isDigit then
      let (digits, excess) := extend 0 (c.rest.takeWhile Char.isDigit)
      readAfterInteger positive digits excess.length c.skipDigits
    else .error ⟨.invalidNumber, c.offset + 1⟩

/-- Passes over an exponent part from its letter on. -/
def skipExponent (c : Cursor) : Except Stop Cursor :=
  let c := c.next
  let c := match c.rest with
    | '+' :: _ | '-' :: _ => c.next
    | _ => c
  match c.rest with
  | [] => .error (c.stop .invalidNumber)
  | d :: _ =>
    if d.isDigit then .ok c.skipDigits else .error ⟨.invalidNumber, c.offset + 1⟩

/-- Passes over an exponent part if one follows. -/
def skipExponent? (c : Cursor) : Except Stop Cursor :=
  match c.rest with
  | 'e' :: _ | 'E' :: _ => skipExponent c
  | _ => .ok c

/-- Passes over what follows the digits before the decimal point. -/
def skipAfterInteger (c : Cursor) : Except Stop Cursor :=
  match c.rest with
  | '.' :: _ =>
    let c := c.next
    match c.rest with
    | [] => .error (c.stopNext .invalidNumber)
    | d :: _ =>
      if d.isDigit then skipExponent? c.skipDigits else .error (c.stopNext .invalidNumber)
  | _ => skipExponent? c

/-- Passes over a number behind its sign. -/
def skipNumber (c : Cursor) : Except Stop Cursor :=
  match c.rest with
  | [] => .error (c.stop .invalidNumber)
  | '0' :: _ =>
    let c := c.next
    match c.rest with
    | d :: _ => if d.isDigit then .error (c.stopNext .invalidNumber) else skipAfterInteger c
    | [] => skipAfterInteger c
  | d :: _ =>
    if d.isDigit then skipAfterInteger c.skipDigits else .error ⟨.invalidNumber, c.offset + 1⟩

end Remoting.Json
