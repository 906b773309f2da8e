import SqlAudit.Text.Utf8

/-!
# Encodings of a document

A document arrives as bytes. It starts with two characters below 128, so the zeros among its first
four bytes tell whether its units have one, two or four bytes, and which byte comes first.
-/

namespace SqlAudit.Json

/-- An encoding: units of one, two or four bytes. -/
inductive Encoding where
  | utf8
  | utf16 (bigEndian : Bool)
  | utf32 (bigEndian : Bool)
deriving DecidableEq, Repr

namespace Encoding

/-- The encoding that bytes are in. -/
def ofBytes : List Nat → Encoding
  | a :: b :: c :: d :: _ =>
    if a == 0 then if b == 0 then .utf32 true else .utf16 true
    else if b == 0 then if c == 0 && d == 0 then .utf32 false else .utf16 false
    else .utf8
  | [a, b] => if a == 0 then .utf16 true else if b == 0 then .utf16 false else .utf8
  | _ => .utf8

/-- The units of two bytes; none if a byte is left over. -/
def units16? (bigEndian : Bool) : List Nat → Option (List Nat)
  | [] => some []
  | [_] => none
  | a :: b :: bs =>
    (units16? bigEndian bs).map ((if bigEndian then a * 0x100 + b else b * 0x100 + a) :: ·)

/-- The text of units of two bytes. -/
def joinUnits : List Nat → List Char
  | [] => []
  | [u] => [Text.ofUnit u]
  | u :: v :: us =>
    if Text.isHigh u && Text.isLow v then Text.ofPair u v :: joinUnits us
    else Text.ofUnit u :: joinUnits (v :: us)

/-- The text of units of four bytes; none if a byte is left over or a unit is no code point. -/
def units32? (bigEndian : Bool) : List Nat → Option (List Char)
  | [] => some []
  | a :: b :: c :: d :: bs =>
    let n := if bigEndian then ((a * 0x100 + b) * 0x100 + c) * 0x100 + d
      else ((d * 0x100 + c) * 0x100 + b) * 0x100 + a
    if n < 0x110000 then (units32? bigEndian bs).map (Text.ofUnit n :: ·) else none
  | _ => none

end Encoding

/-- A text without the mark that may stand at its start. -/
def dropMark : List Char → List Char
  | '\ufeff' :: cs => cs
  | cs => cs

/-- The text of a document whose bytes are those of `body` in UTF-8; none if they are not the bytes
of any text in the encoding that they show. -/
def decode? (body : List Char) : Option (List Char) :=
  match Encoding.ofBytes (Text.utf8 (body.take 4)) with
  | .utf8 => some (dropMark body)
  | .utf16 bigEndian => (Encoding.units16? bigEndian (Text.utf8 body)).map Encoding.joinUnits
  | .utf32 bigEndian => Encoding.units32? bigEndian (Text.utf8 body)

end SqlAudit.Json
