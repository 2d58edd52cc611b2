import Remoting.Target.Percent
import Remoting.Target.Ipv6

/-!
# Connection targets

The URI that a client connects to, for schemes that have no special rules. `Target.parse` follows
the URL standard: the authority ends at the first `/`, `?` or `#`, its last `@` ends the user
information, a host in brackets is an IPv6 address and every other host is opaque. `Target.render`
writes a target back.
-/

namespace Remoting

/-- Why a text is not a connection target. -/
inductive TargetFault where
  | invalidIpv6
  | invalidDomainCharacter
  | emptyHost
  | invalidPort
  deriving DecidableEq

/-- The wording of a fault. -/
def TargetFault.message : TargetFault → String
  | .invalidIpv6 => "invalid IPv6 address"
  | .invalidDomainCharacter => "invalid domain character"
  | .emptyHost => "empty host"
  | .invalidPort => "invalid port number"

/-- A connection target, its parts in the encoded form that a URI holds. -/
structure Target where
  scheme : List Char
  username : List Char
  password : Option (List Char)
  /-- An empty host is no host. -/
  host : List Char
  port : Option Nat
  path : List Char
  query : Option (List Char)
  fragment : Option (List Char)
  deriving DecidableEq, Inhabited

namespace Target

/-- The user information before the host. -/
def renderUserInfo (target : Target) : List Char :=
  match target.password with
  | none => if target.username.isEmpty then [] else target.username ++ ['@']
  | some password => target.username ++ ':' :: password ++ ['@']

/-- The URI of a target. -/
def render (target : Target) : List Char :=
  target.scheme ++ "://".toList ++ target.renderUserInfo ++ target.host ++
    (match target.port with
    | some port => ':' :: Nat.toDigits 10 port
    | none => []) ++
    target.path ++
    (match target.query with
    | some query => '?' :: query
    | none => []) ++
    (match target.fragment with
    | some fragment => '#' :: fragment
    | none => [])

/-- Whether a character is dropped wherever it stands. -/
def isIgnored (c : Char) : Bool :=
  c == '\t' || c == '\n' || c == '\r'

/-- Whether a character ends the authority. -/
def endsAuthority (c : Char) : Bool :=
  c == '/' || c == '?' || c == '#'

/-- The characters that an opaque host must not contain. -/
def forbiddenInHost : List Char :=
  ['\x00', '\t', '\n', '\r', ' ', '#', '/', ':', '<', '>', '?', '@', '[', '\\', ']', '^', '|']

/-- Splits a text at its last `@`. -/
def splitAtSign (text : List Char) : Option (List Char × List Char) :=
  let behind := (text.reverse.takeWhile (· ≠ '@')).reverse
  if text.contains '@' then some (text.take (text.length - behind.length - 1), behind) else none

/-- The user name and the password of user information. An empty password is none. -/
def userInfo (text : List Char) : List Char × Option (List Char) :=
  let name := text.takeWhile (· ≠ ':')
  let password := (text.drop name.length).tail
  (Percent.encode Percent.userInfo name,
    if password.isEmpty then none else some (Percent.encode Percent.userInfo password))

/-- Splits a text at its first colon that is not between brackets. The colon starts the rest. -/
def splitHost : Bool → List Char → List Char × List Char
  | _, [] => ([], [])
  | inside, c :: text =>
    if c = ':' && !inside then ([], c :: text)
    else
      let (host, rest) := splitHost (c == '[' || (inside && c != ']')) text
      (c :: host, rest)

/-- The encoded form of a host. -/
def encodeHost (host : List Char) : Except TargetFault (List Char) :=
  if host.head? = some '[' then
    if host.getLast? = some ']' then
      match Ipv6.parse? (host.drop 1).dropLast with
      | some pieces => .ok ('[' :: Ipv6.render pieces ++ [']'])
      | none => .error .invalidIpv6
    else .error .invalidIpv6
  else if host.any forbiddenInHost.contains then .error .invalidDomainCharacter
  else .ok (Percent.encode [] host)

/-- Reads the digits of a port behind its colon. The port ends at the end of the authority or at a
backslash. -/
def readPort (text : List Char) : Except TargetFault (Option Nat × List Char) :=
  let digits := text.takeWhile Char.isDigit
  let rest := text.dropWhile Char.isDigit
  let value := digits.foldl (fun n d => n * 10 + (d.toNat - '0'.toNat)) 0
  if 65535 < value then .error .invalidPort
  else
    match rest with
    | [] => .ok (if digits.isEmpty then none else some value, [])
    | c :: _ =>
      if endsAuthority c || c == '\\' then .ok (if digits.isEmpty then none else some value, rest)
      else .error .invalidPort

/-- Whether a segment stands for the current level of a path. -/
def isSingleDot (segment : List Char) : Bool :=
  [".", "%2e"].contains (String.ofList (segment.map Char.toLower))

/-- Whether a segment stands for the level above in a path. -/
def isDoubleDot (segment : List Char) : Bool :=
  ["..", "%2e%2e", "%2e.", ".%2e"].contains (String.ofList (segment.map Char.toLower))

/-- Whether a path item is the name of a drive. -/
def isDrive (item : List Char) : Bool :=
  match item with
  | [letter, mark] => letter.isAlpha && (mark == ':' || mark == '|')
  | _ => false

/-- Adds a segment to a path that ends with a slash; `closed` tells whether a slash follows the
segment. The items of the path are in reverse order. -/
def addSegment (items : List (List Char)) (segment : List Char) (closed : Bool) :
    List (List Char) × List Char :=
  if isDoubleDot segment then
    match items with
    | item :: outer => (if isDrive item then items else outer, [])
    | [] => ([], [])
  else if isSingleDot segment then (items, [])
  else if closed then (segment :: items, [])
  else (items, segment)

/-- Walks through the segments of a path. Yields the items that are followed by a slash, in reverse
order, and what stands behind the last slash. -/
def walkPath : List (List Char) → List (List Char) → List (List Char) × List Char
  | items, [] => (items, [])
  | items, [last] => addSegment items last false
  | items, segment :: rest => walkPath (addSegment items segment true).1 rest

/-- The parts of a text between its slashes. -/
def splitSlashes : List Char → List (List Char)
  | [] => [[]]
  | '/' :: text => [] :: splitSlashes text
  | c :: text =>
    match splitSlashes text with
    | [] => [[c]]
    | part :: parts => (c :: part) :: parts

/-- The normal form of a path without its leading slash. -/
def normalPath (text : List Char) : List Char :=
  let segments := (splitSlashes text).map (Percent.encode Percent.path)
  let (items, last) := walkPath [] segments
  '/' :: (items.reverse.flatMap fun item => item ++ ['/']) ++ last

/-- The path at the start of a text. -/
def readPath (text : List Char) : List Char :=
  match text.takeWhile fun c => c ≠ '?' && c ≠ '#' with
  | [] => []
  | '/' :: path => normalPath path
  | path => normalPath path

/-- The query and the fragment at the end of a text. -/
def readTail (text : List Char) : Option (List Char) × Option (List Char) :=
  let tail := text.dropWhile fun c => c ≠ '?' && c ≠ '#'
  let fragment := tail.dropWhile (· ≠ '#')
  let query :=
    match tail with
    | '?' :: query => some (Percent.encode Percent.query (query.takeWhile (· ≠ '#')))
    | _ => none
  (query,
    match fragment with
    | '#' :: fragment => some (Percent.encode Percent.fragment fragment)
    | _ => none)

/-- The target of a scheme and the text behind its two slashes. -/
def parse (scheme text : List Char) : Except TargetFault Target := do
  let text := text.filter (!isIgnored ·)
  let authority := text.takeWhile (!endsAuthority ·)
  let rest := text.drop authority.length
  let (info, hostPort) := (splitAtSign authority).getD ([], authority)
  if authority = ['@'] ∧ rest ≠ [] then throw .emptyHost
  let (username, password) := userInfo info
  let (host, portText) := splitHost false hostPort
  let host ← encodeHost host
  if host = [] ∧ portText ≠ [] then throw .emptyHost
  let (port, pathText) ←
    match portText with
    | ':' :: digits => readPort (digits ++ rest)
    | _ => pure (none, rest)
  if host = [] ∧ (username ≠ [] ∨ password.isSome) then throw .emptyHost
  let (query, fragment) := readTail pathText
  return ⟨scheme, username, password, host, port, readPath pathText, query, fragment⟩

end Target

end Remoting
