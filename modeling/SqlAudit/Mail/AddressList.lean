import SqlAudit.Mail.Mailbox
import SqlAudit.Text.Search
import SqlAudit.Value.Literal

/-!
# Headers of addresses

The value of a header of addresses in its normal form: mailboxes and groups of mailboxes with commas
between them. `Mail.header` reads what is given as lenient as it can; what is no address becomes an
empty one.
-/

namespace SqlAudit.Mail

/-- An entry of a list of addresses. -/
inductive Address where
  | mailbox (m : Mailbox)
  | group (name : List Part) (members : List Mailbox)
  /-- A group with something behind it. -/
  | spoiledGroup (name : List Part)

/-! ## Reading -/

/-- What is found where no mailbox is: nothing before a separator, or something that is none; and
the text after it. -/
def readOther (ends : List Char) (s : List Char) : Option Mailbox × List Char :=
  let rest := (readFiller s).2
  if rest.head?.all ends.contains then (none, rest)
  else (some .invalid, afterInvalid ends rest.length rest)

/-- A mailbox or what is found in its place. -/
def readMember (s : List Char) : Except Miss (Option Mailbox × List Char) :=
  match readMailbox s with
  | .ok (m, rest) => .ok (some m, afterInvalid [',', ';'] rest.length rest)
  | .error .other => .ok (readOther [',', ';'] s)
  | .error e => .error e

/-- Reads the members of a group, up to a semicolon. -/
def readMembers : (fuel : Nat) → List Char → Except Miss (List Mailbox × List Char)
  | 0, s => .ok ([], s)
  | _, [] => .ok ([], [])
  | fuel + 1, c :: cs =>
    if c == ';' then .ok ([], c :: cs)
    else do
      let (m, rest) ← readMember (c :: cs)
      let (ms, rest) ← readMembers fuel (if rest.head? == some ',' then rest.tail else rest)
      return (m.toList ++ ms, rest)

/-- Reads a group: a name, a colon, members, and a semicolon, which may be missing at the end. -/
def readGroup (s : List Char) : Except Miss (Address × List Char) :=
  let name := readPhrase s
  match name.2 with
  | ':' :: ';' :: cs => .ok (.group name.1 [], cs)
  | ':' :: cs => do
    let cs := (readFiller cs).2
    let (members, rest) ← readMembers cs.length cs
    return (.group name.1 members, (readFiller rest.tail).2)
  | _ => .error .other

/-- An entry with something behind it that belongs to no other entry. -/
def Address.spoil : Address → Address
  | .group name _ => .spoiledGroup name
  | a => a

/-- Reads an entry, with what belongs to no other entry behind it. -/
def readAddress (s : List Char) : Except Miss (Option Address × List Char) :=
  let entry : Except Miss (Address × List Char) := match readGroup s with
    | .error .other => (readMailbox s).map fun r => (.mailbox r.1, r.2)
    | r => r
  match entry with
  | .ok (a, rest) =>
    if rest.head?.all (· == ',') then .ok (some a, rest)
    else .ok (some a.spoil, afterInvalid [','] rest.length rest)
  | .error .other =>
    let r := readOther [','] s
    .ok (r.1.map .mailbox, r.2)
  | .error e => .error e

/-- Reads entries with commas between them. -/
def readAddressesFrom : (fuel : Nat) → List Char → Except Miss (List Address)
  | 0, _ => .ok []
  | _, [] => .ok []
  | fuel + 1, s => do
    let (a, rest) ← readAddress s
    let as ← readAddressesFrom fuel rest.tail
    return a.toList ++ as

/-- Reads a list of addresses. -/
def readAddresses (s : List Char) : Except HeaderError (List Address) :=
  match readAddressesFrom s.length s with
  | .ok as => .ok as
  | .error (.fatal e) => .error e
  | .error .other => .ok []

/-! ## Writing -/

/-- A name, in quotes if it has characters with a meaning of their own. -/
def shownName (name : List Char) : List Char :=
  if name.any specials.contains then inQuotes name else name

/-- An address, of which both parts may be empty. -/
def shownSpec (localPart domain : List Char) : List Char :=
  let localPart :=
    if localPart.any fun c => endsAtom c && c != '.' then inQuotes localPart else localPart
  if !domain.isEmpty then localPart ++ '@' :: domain
  else if localPart.isEmpty then ['<', '>']
  else localPart

/-- A mailbox in its normal form. -/
def shownMailbox (name localPart domain : List Char) : Except HeaderError (List Char) :=
  if (name ++ localPart ++ domain).any fun c => c == '\r' || c == '\n' then .error .lineBreak
  else if name.isEmpty then .ok (shownSpec localPart domain)
  else
    let spec := shownSpec localPart domain
    .ok (shownName name ++ ' ' :: '<' :: (if spec == ['<', '>'] then [] else spec) ++ ['>'])

/-- The two parts of an address. -/
def AddrSpec.values (spec : AddrSpec) : Except HeaderError (List Char × List Char) :=
  spec.localPart.value.map fun l => (l, (spec.domain.map Domain.text).getD [])

/-- A mailbox in its normal form. -/
def Mailbox.shown : Mailbox → Except HeaderError (List Char)
  | .bare spec => do
    let (localPart, domain) ← spec.values
    shownMailbox [] localPart domain
  | .angle name spec => do
    let name ← match name with
      | some ps => nameText ps
      | none => .ok []
    let (localPart, domain) ← match spec with
      | some spec => spec.values
      | none => .ok ([], [])
    shownMailbox name localPart domain
  | .invalid => shownMailbox [] [] []

/-- Texts with a comma and a space between them. -/
def commaJoined : List (List Char) → List Char
  | [] => []
  | [s] => s
  | s :: ss => s ++ ',' :: ' ' :: commaJoined ss

/-- An entry in its normal form. -/
def Address.shown : Address → Except HeaderError (List Char)
  | .mailbox m => m.shown
  | .spoiledGroup name => (nameText name).bind fun _ => .error .afterGroup
  | .group name members => do
    let name ← nameText name
    let members ← members.mapM Mailbox.shown
    let list := commaJoined members
    return shownName name ++ ':' :: (if list.isEmpty then [] else ' ' :: list) ++ [';']

/-- A header as it can be encoded. -/
def encodable (s : List Char) : Except HeaderError (List Char) :=
  (Text.mendUtf8 s).mapError .unencodable

/-- The header of addresses that are given as a text. -/
def headerOfText (s : List Char) : Except HeaderError (List Char) := do
  if Text.hasSeveralLines s then throw .severalLines
  let addresses ← readAddresses s
  let shown ← addresses.mapM Address.shown
  encodable (commaJoined shown)

/-- The header of addresses. Other values than texts are shown as they are, if that can be read. -/
def header (v : Value) : Except HeaderError String :=
  match v with
  | .text s => (headerOfText s.toList).map String.ofList
  | v =>
    let items := match v with
      | .scalar s => [s.display]
      | .list vs => vs.map Value.display
      | .object es => es.map fun e => e.1.display
    let shown := commaSeparated items
    (readAddresses shown.toList).bind fun _ => (encodable shown.toList).map String.ofList

end SqlAudit.Mail
