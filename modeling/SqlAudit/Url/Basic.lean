import SqlAudit.Number.Numeral
import SqlAudit.Text.Blank
import SqlAudit.Url.Ip
import SqlAudit.Url.Label
import SqlAudit.Url.Percent
import SqlAudit.Value.Literal

/-!
# Web addresses

An address of the form `scheme://user@host:port/path?query#fragment`, of which every part may be
missing. `Url.read` takes it apart and brings each part into its normal form; `Url.text` puts the
parts together again.
-/

namespace SqlAudit

/-- A web address in its normal form. -/
structure Url where
  scheme : List Char
  user : List Char
  host : List Char
  port : Option Int
  path : List Char
  query : Option (List Char)
  fragment : Option (List Char)
deriving DecidableEq, Repr

/-- Why something is no web address. -/
inductive UrlError where
  /-- It is a value of another type, with this literal. -/
  | notText (typeName literal : String)
  | tooLong
  /-- It has a control character, for the first time at this place. -/
  | control (c : Char) (place : Nat)
  | badIpv4 (host : String)
  | badIpv6 (host : String)
  | badName (host : String)
  | badPort (port : String)
  | doubleSlash
  | leadingColon
  /-- A part of it cannot be encoded. -/
  | unencodable (e : Text.Unencodable)
deriving DecidableEq, Repr

/-- An error in words. -/
def UrlError.message : UrlError → String
  | .notText typeName literal =>
    "Invalid type for url.  Expected str or httpx.URL, got <class '" ++ typeName ++ "'>: " ++ literal
  | .tooLong => "URL too long"
  | .control c place => "Invalid non-printable ASCII character in URL, " ++
      (Scalar.text (String.singleton c)).literal ++ s!" at position {place}."
  | .badIpv4 host => "Invalid IPv4 address: " ++ (Scalar.text host).literal
  | .badIpv6 host => "Invalid IPv6 address: " ++ (Scalar.text host).literal
  | .badName host => "Invalid IDNA hostname: " ++ (Scalar.text host).literal
  | .badPort port => "Invalid port: " ++ (Scalar.text port).literal
  | .doubleSlash => "Relative URLs cannot have a path starting with '//'"
  | .leadingColon => "Relative URLs cannot have a path starting with ':'"
  | .unencodable e => e.message

namespace Url

/-! ## Taking apart -/

/-- The parts of an address as they are written. -/
structure Parts where
  scheme : List Char
  authority : List Char
  path : List Char
  query : Option (List Char)
  fragment : Option (List Char)

/-- Whether a text is a scheme; it may be empty. -/
def isScheme : List Char → Bool
  | [] => true
  | c :: cs => c.isAlpha && cs.all fun c => c.isAlphanum || c == '+' || c == '.' || c == '-'

/-- The text before a character, and the text after it if it is there. -/
def splitOnce (mark : Char) (s : List Char) : List Char × Option (List Char) :=
  match s.dropWhile (· != mark) with
  | _ :: rest => (s.takeWhile (· != mark), some rest)
  | [] => (s, none)

/-- Takes an address apart. -/
def Parts.of (s : List Char) : Parts :=
  let (s, fragment) := splitOnce '#' s
  let (s, query) := splitOnce '?' s
  let (scheme, rest) := match splitOnce ':' s with
    | (scheme, some rest) => if isScheme scheme then (scheme, rest) else ([], s)
    | (_, none) => ([], s)
  match rest with
  | '/' :: '/' :: rest =>
    ⟨scheme, rest.takeWhile (· != '/'), rest.dropWhile (· != '/'), query, fragment⟩
  | path => ⟨scheme, [], path, query, fragment⟩

/-- The text up to the last occurrence of a character, if there is one, and the text after it. -/
def splitLast (mark : Char) (s : List Char) : Option (List Char) × List Char :=
  let after := (s.reverse.takeWhile (· != mark)).reverse
  if after.length == s.length then (none, s)
  else (some (s.take (s.length - after.length - 1)), after)

/-- The host and the port of an authority without its user. A host in brackets may have colons. -/
def splitHost (s : List Char) : List Char × List Char :=
  let bracket := match splitLast ']' s with
    | (some inner, rest) => if s.head? == some '[' then some (inner ++ [']'], rest) else none
    | (none, _) => none
  let (host, rest) := bracket.getD (s.takeWhile (· != ':'), s.dropWhile (· != ':'))
  (host, if rest.head? == some ':' then rest.tail else rest)

/-! ## Normal forms -/

/-- A host in its normal form. -/
def normalHost (host : List Char) : Except UrlError (List Char) :=
  let name := String.ofList host
  if isFourNumbers host then if isIpv4 host then .ok host else .error (.badIpv4 name)
  else if host.head? == some '[' && host.getLast? == some ']' && 2 ≤ host.length then
    let inner := host.tail.dropLast
    if isIpv6 inner then .ok inner else .error (.badIpv6 name)
  else if host.all fun c => c.toNat < 128 then
    .ok (percentEncode isHostSafe (host.map Char.toLower))
  else match basicName? (Text.lowerCase host) with
    | some basic => .ok basic
    | none => .error (.badName name)

/-- The ports that need not be written. -/
def defaultPorts : List (String × Int) :=
  [("ftp", 21), ("http", 80), ("https", 443), ("ws", 80), ("wss", 443)]

/-- A port in its normal form; none if it is empty or the one of the scheme. -/
def normalPort (scheme port : List Char) : Except UrlError (Option Int) :=
  if port.isEmpty then .ok none
  else match Numeral.readInt (Text.trim port) with
    | .ok n => .ok (if defaultPorts.lookup (String.ofList scheme) == some n then none else some n)
    | .error _ => .error (.badPort (String.ofList port))

/-- One step through the segments of a path, from those so far in reverse: a point stays, and two
points go back. -/
def segmentStep (done : List (List Char)) (segment : List Char) : List (List Char) :=
  if segment == ['.'] then done
  else if segment == ['.', '.'] then if done == [[]] then done else done.tail
  else segment :: done

/-- Segments with slashes between them. -/
def slashed : List (List Char) → List Char
  | [] => []
  | [s] => s
  | s :: ss => s ++ '/' :: slashed ss

/-- A path without segments of points. -/
def normalPath (path : List Char) : List Char :=
  slashed ((splitAt (· == '/') path).foldl segmentStep []).reverse

/-! ## Reading and writing -/

/-- The greatest length of an address. -/
def lengthLimit : Nat := 65536

/-- A control character. -/
def isControl (c : Char) : Bool :=
  c.toNat < 0x20 || c.toNat == 0x7f

/-- Checks an address before it is taken apart. -/
def check (s : List Char) : Except UrlError Unit :=
  if lengthLimit < s.length then .error .tooLong
  else match s.find? isControl with
    | some c => .error (.control c (s.takeWhile fun c => !isControl c).length)
    | none => .ok ()

/-- A part with its reserved characters encoded, one by one. -/
def encodePart (isSafe : Char → Bool) (s : List Char) : Except UrlError (List Char) :=
  match s.findSome? Text.half? with
  | some unit => .error (.unencodable ⟨0, [unit]⟩)
  | none => .ok (percentEncode isSafe s)

/-- Checks a path without a scheme and a host before it. -/
def checkLonePath (path : List Char) : Except UrlError Unit :=
  if path.take 2 == ['/', '/'] then .error .doubleSlash
  else if path.head? == some ':' then .error .leadingColon
  else .ok ()

/-- Reads an address. -/
def read (s : List Char) : Except UrlError Url := do
  check s
  let parts := Parts.of s
  let (user, rest) := splitLast '@' parts.authority
  let (hostText, portText) := splitHost rest
  let user ← encodePart isUserSafe (user.getD [])
  let host ← normalHost hostText
  let port ← normalPort parts.scheme portText
  let hasAuthority := !user.isEmpty || !host.isEmpty || port.isSome
  let isAnchored := !parts.scheme.isEmpty || hasAuthority
  if !isAnchored then checkLonePath parts.path
  let path ← encodePart isPathSafe (if isAnchored then normalPath parts.path else parts.path)
  let query ← parts.query.mapM (encodePart isQuerySafe)
  let fragment ← parts.fragment.mapM (encodePart isFragmentSafe)
  return ⟨parts.scheme.map Char.toLower, user, host, port, path, query, fragment⟩

/-- The part of an address with the host. -/
def authority (u : Url) : List Char :=
  (if u.user.isEmpty then [] else u.user ++ ['@']) ++
    (if u.host.contains ':' then '[' :: u.host ++ [']'] else u.host) ++
    match u.port with
    | some n => ':' :: (toString n).toList
    | none => []

/-- An address as a text. -/
def text (u : Url) : String :=
  String.ofList ((if u.scheme.isEmpty then [] else u.scheme ++ [':']) ++
    (if u.authority.isEmpty then [] else '/' :: '/' :: u.authority) ++ u.path ++
    (match u.query with
      | some q => '?' :: q
      | none => []) ++
    match u.fragment with
    | some f => '#' :: f
    | none => [])

/-- Whether an address tells both a scheme and a host. -/
def isAbsolute (u : Url) : Bool :=
  !u.scheme.isEmpty && !u.host.isEmpty

/-- The path and the query of an address, seen from the root of no host in particular. -/
def fromRoot (u : Url) : Url :=
  ⟨[], [], [], none, '/' :: u.path.dropWhile (· == '/'), u.query, none⟩

/-- The address that a value stands for. -/
def ofValue : Value → Except UrlError Url
  | .text s => (read s.toList).map fun u => if u.isAbsolute then u else u.fromRoot
  | v => .error (.notText v.typeName v.literal)

end Url

end SqlAudit
