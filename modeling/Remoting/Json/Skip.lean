import Remoting.Json.Text
import Remoting.Json.Number

/-!
# Passing over a value

A value that nobody asks for must be well formed all the same. It is passed over without nested
calls: the arrays and objects that are still open form a stack.
-/

namespace Remoting.Json

/-- A value that holds other values. -/
inductive Enclosure where
  | array
  | object
  deriving DecidableEq

namespace Enclosure

/-- The character that ends an enclosure. -/
def closer : Enclosure → Char
  | .array => ']'
  | .object => '\x7d'

/-- The fault of a document that ends inside an enclosure. -/
def eof : Enclosure → Fault
  | .array => .eofInArray
  | .object => .eofInObject

/-- The fault of an enclosure whose next element is not set off by a comma. -/
def expectedComma : Enclosure → Fault
  | .array => .expectedArrayCommaOrEnd
  | .object => .expectedObjectCommaOrEnd

end Enclosure

/-- What comes next while a value is passed over. -/
inductive SkipPhase where
  /-- A value. -/
  | value
  /-- What follows the start of an enclosure, or, if `element`, an element of it. -/
  | rest (element : Bool)

/-- Passes over the key of an object's element; an array's element has none. -/
def skipKey : Enclosure → Cursor → Except Stop Cursor
  | .array, c => .ok c
  | .object, c => do
    let c := c.skipBlank
    match c.rest with
    | [] => .error (c.stopNext .eofInObject)
    | '"' :: _ => (← skipText c.next).colon
    | _ => .error (c.stopNext .keyNotString)

/-- Passes over the start of a value. For an enclosure this is only its opening bracket. -/
def skipStart : Reader (Option Enclosure) := fun c => do
  let c := c.skipBlank
  match c.rest with
  | [] => .error (c.stopNext .eofInValue)
  | 'n' :: _ => return (none, ← c.next.word ['u', 'l', 'l'])
  | 't' :: _ => return (none, ← c.next.word ['r', 'u', 'e'])
  | 'f' :: _ => return (none, ← c.next.word ['a', 'l', 's', 'e'])
  | '-' :: _ => return (none, ← skipNumber c.next)
  | '"' :: _ => return (none, ← skipText c.next)
  | '[' :: _ => return (some .array, c.next)
  | '\x7b' :: _ => return (some .object, c.next)
  | d :: _ =>
    if d.isDigit then return (none, ← skipNumber c) else .error (c.stopNext .expectedValue)

/-- Passes over what is left of a value inside the given open enclosures, innermost first. -/
def skipSteps : Nat → List Enclosure → SkipPhase → Cursor → Except Stop Cursor
  | 0, _, _, c => .error (c.stopNext .eofInValue)
  | steps + 1, stack, .value, c => do
    match ← skipStart c with
    | (some enclosure, c) => skipSteps steps (enclosure :: stack) (.rest false) c
    | (none, c) => skipSteps steps stack (.rest true) c
  | _ + 1, [], .rest _, c => .ok c
  | steps + 1, enclosure :: outer, .rest element, c => do
    let c := c.skipBlank
    match c.rest with
    | [] => .error (c.stopNext enclosure.eof)
    | ch :: _ =>
      if ch = enclosure.closer then skipSteps steps outer (.rest true) c.next
      else if ch = ',' && element then
        let c ← skipKey enclosure c.next
        skipSteps steps (enclosure :: outer) .value c
      else if element then .error (c.stopNext enclosure.expectedComma)
      else
        let c ← skipKey enclosure c
        skipSteps steps (enclosure :: outer) .value c

/-- Passes over a value. Two steps for each character and two more suffice. -/
def skipValue (c : Cursor) : Except Stop Cursor :=
  skipSteps (2 * c.rest.length + 2) [] .value c

end Remoting.Json
