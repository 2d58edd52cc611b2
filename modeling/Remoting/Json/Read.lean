import Remoting.Json.Skip

/-!
# Readers for the kinds of values

Each reader expects one kind of value and refuses every other with a message that names both. Arrays
and objects are read element by element, so that the first fault of a document is the one reported.
-/

namespace Remoting.Json

/-- The stop at a value of the wrong kind. A scalar is read first and may itself be at fault. -/
def wrongKind (expected : String) (c : Cursor) : Stop :=
  let refuse (found : Found) (c : Cursor) : Stop := c.stop (.invalidType found expected)
  let word (letters : List Char) (found : Found) : Stop :=
    match c.next.word letters with
    | .ok c => refuse found c
    | .error s => s
  let number (positive : Bool) (c : Cursor) : Stop :=
    match readNumber positive c with
    | .ok (n, c) => refuse n.found c
    | .error s => s
  match c.rest with
  | 'n' :: _ => word ['u', 'l', 'l'] .null
  | 't' :: _ => word ['r', 'u', 'e'] (.boolean true)
  | 'f' :: _ => word ['a', 'l', 's', 'e'] (.boolean false)
  | '-' :: _ => number false c.next
  | '"' :: _ =>
    match readText c.next with
    | .ok (s, c) => refuse (.string s) c
    | .error s => s
  | '[' :: _ => refuse .array c
  | '\x7b' :: _ => refuse .object c
  | d :: _ => if d.isDigit then number true c else c.stopNext .expectedValue
  | [] => c.stopNext .eofInValue

/-- Reads a text. -/
def readString (expected : String) : Reader String := fun c =>
  let c := c.skipBlank
  match c.rest with
  | '"' :: _ => readText c.next
  | _ => .error (wrongKind expected c)

/-- Reads a natural number up to a greatest one. -/
def readNat (greatest : Nat) (expected : String) : Reader Nat := fun c => do
  let c := c.skipBlank
  let accept (n : Number) (c : Cursor) : Except Stop (Nat × Cursor) :=
    match n with
    | .natural value =>
      if value ≤ greatest then .ok (value, c)
      else .error (c.stop (.invalidValue n.found expected))
    | .negative _ => .error (c.stop (.invalidValue n.found expected))
    | .real _ => .error (c.stop (.invalidType n.found expected))
  match c.rest with
  | '-' :: _ =>
    let (n, c) ← readNumber false c.next
    accept n c
  | d :: _ =>
    if d.isDigit then
      let (n, c) ← readNumber true c
      accept n c
    else .error (wrongKind expected c)
  | [] => .error (wrongKind expected c)

/-- Reads `null`. -/
def readNull (expected : String) : Reader Unit := fun c => do
  let c := c.skipBlank
  match c.rest with
  | 'n' :: _ => return ((), ← c.next.word ['u', 'l', 'l'])
  | _ => .error (wrongKind expected c)

/-- Reads `null` as absence and everything else by the given reader. -/
def readOption (read : Reader α) : Reader (Option α) := fun c => do
  let c := c.skipBlank
  match c.rest with
  | 'n' :: _ => return (none, ← c.next.word ['u', 'l', 'l'])
  | _ =>
    let (value, c) ← read c
    return (some value, c)

/-- Reads one of some names: as a text, or as an object whose only key is the name and whose value
is `null`. -/
def readName (known : List String) : Reader String := fun c => do
  let accept (c : Cursor) : Except Stop (String × Cursor) := do
    let (name, c) ← readString "variant identifier" c
    if known.contains name then .ok (name, c) else .error (c.stop (.unknownVariant name known))
  let c := c.skipBlank
  match c.rest with
  | '"' :: _ => accept c
  | '\x7b' :: _ =>
    let (name, c) ← accept c.next
    let c ← c.colon
    let ((), c) ← readNull "unit" c
    let c := c.skipBlank
    match c.rest with
    | '\x7d' :: _ => .ok (name, c.next)
    | [] => .error (c.stop .eofInObject)
    | _ => .error (c.stop .expectedValue)
  | [] => .error (c.stopNext .eofInValue)
  | _ => .error (c.stopNext .expectedValue)

/-- Looks for another element of an array. The closing bracket is not read. -/
def moreElements (first : Bool) : Reader Bool := fun c =>
  let c := c.skipBlank
  match c.rest with
  | [] => .error (c.stopNext .eofInArray)
  | ']' :: _ => .ok (false, c)
  | ',' :: _ =>
    if first then .ok (true, c)
    else
      let c := c.next.skipBlank
      match c.rest with
      | [] => .error (c.stopNext .eofInValue)
      | ']' :: _ => .error (c.stopNext .trailingComma)
      | _ => .ok (true, c)
  | _ => if first then .ok (true, c) else .error (c.stopNext .expectedArrayCommaOrEnd)

/-- Reads the closing bracket of an array. -/
def endArray (c : Cursor) : Except Stop Cursor :=
  let c := c.skipBlank
  match c.rest with
  | [] => .error (c.stopNext .eofInArray)
  | ']' :: _ => .ok c.next
  | ',' :: _ =>
    let c := c.next.skipBlank
    match c.rest with
    | ']' :: _ => .error (c.stopNext .trailingComma)
    | _ => .error (c.stopNext .trailingCharacters)
  | _ => .error (c.stopNext .trailingCharacters)

/-- Reads the elements of an array one after the other, at most one for each given step, and its
closing bracket. The steps that find no element are left out. -/
def readElements (steps : List (σ → Reader σ)) (first : Bool) (state : σ) : Reader σ := fun c => do
  match steps with
  | [] => return (state, ← endArray c)
  | step :: rest =>
    match ← moreElements first c with
    | (false, c) => return (state, ← endArray c)
    | (true, c) =>
      let (state, c) ← step state c
      readElements rest false state c

/-- Reads the next key of an object, or finds its closing bracket, which is not read. -/
def nextKey (first : Bool) : Reader (Option String) := fun c => do
  let c := c.skipBlank
  let key (c : Cursor) : Except Stop (Option String × Cursor) :=
    match c.rest with
    | [] => .error (c.stopNext .eofInValue)
    | '"' :: _ => do
      let (name, c) ← readText c.next
      .ok (some name, c)
    | '\x7d' :: _ => .error (c.stopNext .trailingComma)
    | _ => .error (c.stopNext .keyNotString)
  match c.rest with
  | [] => .error (c.stopNext .eofInObject)
  | '\x7d' :: _ => .ok (none, c)
  | ',' :: _ => if first then key c else key c.next.skipBlank
  | _ => if first then key c else .error (c.stopNext .expectedObjectCommaOrEnd)

/-- Reads the members of an object and its closing bracket. The reader of a member starts behind its
key. Each member takes up characters, so as many steps as there are characters suffice. -/
def readMembers (member : String → σ → Reader σ) : Nat → Bool → σ → Reader σ
  | 0, _, _, c => .error (c.stopNext .eofInObject)
  | steps + 1, first, state, c => do
    match ← nextKey first c with
    | (none, c) => return (state, c.next)
    | (some name, c) =>
      let (state, c) ← member name state c
      readMembers member steps false state c

/-- Reads an object behind its opening bracket. -/
def readObject (member : String → σ → Reader σ) (state : σ) : Reader σ := fun c =>
  readMembers member (c.rest.length + 1) true state c

/-- The place where an object that is given up turns out to end or not to end. -/
def giveUpObject (c : Cursor) (fault : Fault) : Stop :=
  let c := c.skipBlank
  match c.rest with
  | '\x7d' :: _ => c.next.stop fault
  | _ => c.stop fault

end Remoting.Json
