import SqlAudit.Text.Hex

/-!
# Halves of pairs

A character beyond the first 65536 code points may be written as a pair of units, and a document can
hold half of such a pair alone. A half is no character: it is never printable, and a text that has
one cannot be encoded. So that such a text is a text all the same, a half is kept as a code point of
a plane in which no character is assigned.
-/

namespace SqlAudit.Text

/-- Whether a unit is the first half of a pair. -/
def isHigh (n : Nat) : Bool := 0xd800 ≤ n && n < 0xdc00

/-- Whether a unit is the second half of a pair. -/
def isLow (n : Nat) : Bool := 0xdc00 ≤ n && n < 0xe000

/-- How far above its unit a half is kept. -/
def halfOffset : Nat := 0x50000

/-- The character that a unit stands for, or the half that it is. -/
def ofUnit (n : Nat) : Char :=
  if isHigh n || isLow n then Char.ofNat (n + halfOffset) else Char.ofNat n

/-- The character that two halves stand for. -/
def ofPair (high low : Nat) : Char :=
  Char.ofNat (0x10000 + (high - 0xd800) * 0x400 + (low - 0xdc00))

/-- The unit of a half; none for a character. -/
def half? (c : Char) : Option Nat :=
  let n := c.toNat - halfOffset
  if isHigh n || isLow n then some n else none

/-- Whether a character is half of a pair. -/
def isHalf (c : Char) : Bool :=
  (half? c).isSome

/-- The first halves in a text, which keep it from being encoded: where they start, and their
units. -/
structure Unencodable where
  start : Nat
  units : List Nat
deriving DecidableEq, Repr

/-- Finds what keeps a text from being encoded. -/
def unencodable? (s : List Char) : Option Unencodable :=
  let start := (s.takeWhile fun c => !isHalf c).length
  match ((s.drop start).takeWhile isHalf).filterMap half? with
  | [] => none
  | units => some ⟨start, units⟩

/-- Why a text cannot be encoded, in words. -/
def Unencodable.message (e : Unencodable) : String :=
  match e.units with
  | [unit] => "'utf-8' codec can't encode character '\\u" ++ String.ofList (hex 4 unit) ++
      s!"' in position {e.start}: surrogates not allowed"
  | units => s!"'utf-8' codec can't encode characters in position {e.start}-" ++
      s!"{e.start + units.length - 1}: surrogates not allowed"

/-- A text with each half replaced by three marks for bytes that cannot be read. -/
def lossy (s : List Char) : List Char :=
  s.flatMap fun c => if isHalf c then ['\ufffd', '\ufffd', '\ufffd'] else [c]

end SqlAudit.Text
