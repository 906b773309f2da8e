import SqlAudit.Text.Hex

/-!
# Numeric addresses of hosts

The two notations for numeric addresses: four decimal numbers with points between them, and eight
hexadecimal numbers with colons between them, of which a run of zeros may be left out.
-/

namespace SqlAudit.Url

/-- The parts of a text between separators. -/
def splitAt (isSeparator : Char → Bool) : List Char → List (List Char)
  | [] => [[]]
  | c :: cs =>
    if isSeparator c then [] :: splitAt isSeparator cs
    else match splitAt isSeparator cs with
      | p :: ps => (c :: p) :: ps
      | [] => [[c]]

/-- Whether a text is meant as an address of four numbers: digits, with any three characters
somewhere between them. What is no digit has to be one of the three, and the others are taken from
inside the runs of digits. -/
def isFourNumbers (s : List Char) : Bool :=
  let runs := splitAt (fun c => !c.isDigit) s
  runs.length ≤ 4 && runs.all (fun r => !r.isEmpty) &&
    4 - runs.length ≤ runs.foldl (fun n r => n + (r.length - 1) / 2) 0

/-- Whether a text is a decimal number up to 255, without needless zeros. -/
def isOctet (s : List Char) : Bool :=
  !s.isEmpty && s.all Char.isDigit && s.length ≤ 3 && (s == ['0'] || s.head? != some '0') &&
    s.foldl (fun n c => 10 * n + (c.toNat - 48)) 0 ≤ 255

/-- Whether a text is an address of four numbers. -/
def isIpv4 (s : List Char) : Bool :=
  let octets := splitAt (· == '.') s
  octets.length == 4 && octets.all isOctet

/-- Whether a text is a hexadecimal number of at most four digits. -/
def isHextet (s : List Char) : Bool :=
  !s.isEmpty && s.length ≤ 4 && s.all Text.isHexDigit

/-- Whether parts between colons are an address of eight numbers, one gap left out. A gap at an end
takes up two parts. -/
def areHextets (parts : List (List Char)) : Bool :=
  let inner := parts.tail.dropLast
  let high := parts.takeWhile (fun p => !p.isEmpty)
  let low := (parts.reverse.takeWhile fun p => !p.isEmpty).reverse
  match inner.count [] with
  | 0 => parts.length == 8 && parts.all isHextet
  | 1 =>
    let startsOpen := parts.head? == some []
    let endsOpen := parts.getLast? == some []
    let shown := high.length + low.length
    let gaps := 1 + (if startsOpen then 1 else 0) + (if endsOpen then 1 else 0)
    shown + gaps == parts.length && shown ≤ 7 && high.all isHextet && low.all isHextet
  | _ => false

/-- Whether a text is an address of eight numbers, of which the last two may be written as four, and
which may be followed by a percent sign and the name of a zone. -/
def isIpv6 (s : List Char) : Bool :=
  let address := s.takeWhile (· != '%')
  let zone := s.drop address.length
  let parts := splitAt (· == ':') address
  let last := parts.getLast?.getD []
  let parts' := if last.contains '.' then parts.dropLast ++ [['0'], ['0']] else parts
  !s.contains '/' && (zone.isEmpty || (zone.length ≠ 1 && !zone.tail.contains '%')) &&
    3 ≤ parts.length && (!last.contains '.' || isIpv4 last) && parts'.length ≤ 9 && areHextets parts'

end SqlAudit.Url
