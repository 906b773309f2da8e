import SqlAudit.Mail.Charset
import SqlAudit.Text.Hex

/-!
# Encoded words

Headers are made of basic Latin characters. Other texts are written in encoded words,
`=?charset?encoding?text?=`, where the encoding `q` writes bytes in hexadecimal digits and the
encoding `b` writes three bytes in four characters.
-/

namespace SqlAudit.Mail

/-! ## Bytes in hexadecimal digits -/

/-- The bytes that a text in the encoding `q` stands for: an underscore is a space, and two digits
after an equals sign are a byte. -/
def decodeQ : List Char → List Nat
  | [] => []
  | '=' :: a :: b :: cs =>
    match Text.hexValue? a, Text.hexValue? b with
    | some hi, some lo => (16 * hi + lo) :: decodeQ cs
    | _, _ => 61 :: decodeQ (a :: b :: cs)
  | '_' :: cs => 32 :: decodeQ cs
  | c :: cs => c.toNat :: decodeQ cs

/-! ## Three bytes in four characters -/

/-- The value of a character of the encoding `b`. -/
def sixBits? (c : Char) : Option Nat :=
  if 'A' ≤ c ∧ c ≤ 'Z' then some (c.toNat - 65)
  else if 'a' ≤ c ∧ c ≤ 'z' then some (c.toNat - 71)
  else if '0' ≤ c ∧ c ≤ '9' then some (c.toNat + 4)
  else if c = '+' then some 62
  else if c = '/' then some 63
  else none

/-- Where a reader of the encoding `b` is: how many characters of the current four it has read, the
bits of them that are in no byte yet, and the padding since. -/
structure Quad where
  read : Nat := 0
  left : Nat := 0
  pads : Nat := 0
  padded : Bool := false

/-- The bytes that a text in the encoding `b` stands for; none if it ends amid four characters. A
strict reading takes nothing but whole quads, of which only the last is padded. -/
def decodeQuads (strict : Bool) (q : Quad) : List Char → Option (List Nat)
  | [] => if q.read = 0 then some [] else none
  | c :: cs =>
    if c == '=' then
      if 2 ≤ q.read && 4 ≤ q.read + q.pads + 1 then
        if strict && !cs.isEmpty then none else some []
      else
        let pads := if 2 ≤ q.read then q.pads + 1 else q.pads
        decodeQuads strict { q with pads, padded := true } cs
    else match sixBits? c with
      | none => if strict then none else decodeQuads strict q cs
      | some n =>
        if strict && q.padded then none
        else match q.read with
          | 0 => decodeQuads strict { q with read := 1, left := n, pads := 0 } cs
          | 1 => (decodeQuads strict { q with read := 2, left := n % 16, pads := 0 } cs).map
              ((q.left * 4 + n / 16) :: ·)
          | 2 => (decodeQuads strict { q with read := 3, left := n % 4, pads := 0 } cs).map
              ((q.left * 16 + n / 4) :: ·)
          | _ => (decodeQuads strict { q with read := 0, left := 0, pads := 0 } cs).map
              ((q.left * 64 + n) :: ·)

/-- The bytes that a text in whole quads stands for, which starts with no padding. -/
def decodeStrict (s : List Char) : Option (List Nat) :=
  if s.head? == some '=' then none else decodeQuads true {} s

/-- Padding that makes up for what is missing to whole quads. -/
def missingPads (s : List Char) : List Char :=
  if s.length % 4 = 0 then [] else List.replicate (4 - s.length % 4) '='

/-- The bytes that a text in the encoding `b` stands for. Padding may be missing; otherwise other
characters are left out; a text that makes no sense stands for itself. -/
def decodeB (s : List Char) : List Nat :=
  (((decodeStrict (s ++ missingPads s)).or (decodeQuads false {} s)).or
    (decodeQuads false {} (s ++ ['=', '=']))).getD (s.map Char.toNat)

/-! ## Reading encoded words -/

/-- The text up to the first `?=`, and the text after it; none if there is none. -/
def splitMark : List Char → Option (List Char × List Char)
  | [] => none
  | '?' :: '=' :: cs => some ([], cs)
  | c :: cs => (splitMark cs).map fun r => (c :: r.1, r.2)

/-- The parts of a text between its question marks. -/
def questionParts : List Char → List (List Char)
  | [] => [[]]
  | '?' :: cs => [] :: questionParts cs
  | c :: cs => match questionParts cs with
    | p :: ps => (c :: p) :: ps
    | [] => [[c]]

/-- The text that the inner part of an encoded word stands for. The character set may have a
language behind a star; an unknown one is taken for the basic one. -/
def decodeInner? (inner : List Char) : Option (List Char) :=
  match questionParts inner with
  | [charset, encoding, text] =>
    let name := charset.takeWhile (· != '*')
    let set := (Charset.ofName? name).getD .ascii
    if name.any (· == '\x00') || text.any fun c => 128 ≤ c.toNat then none
    else match encoding with
      | ['q'] | ['Q'] => some (set.decode (decodeQ text))
      | ['b'] | ['B'] => some (set.decode (decodeB text))
      | _ => none
  | _ => none

/-- Reads an encoded word: the text that it stands for, and what follows. A `?=` that starts the
encoded text, with a byte in digits after it, does not end the word. -/
def readEncodedWord? (s : List Char) : Option (List Char × List Char) :=
  match s with
  | '=' :: '?' :: cs =>
    match splitMark cs with
    | none => none
    | some (inner, rest) =>
      let goesOn := (rest.take 2).length == 2 && (rest.take 2).all Text.isHexDigit &&
        inner.count '?' < 2
      let word := if goesOn then
          match splitMark rest with
          | some (more, rest') => (inner ++ '?' :: '=' :: more, rest')
          | none => (inner ++ '?' :: '=' :: rest, [])
        else (inner, rest)
      (decodeInner? word.1).map fun text => (text, word.2)
  | _ => none

end SqlAudit.Mail
