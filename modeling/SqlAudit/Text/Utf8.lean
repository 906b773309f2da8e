import SqlAudit.Text.Half

/-!
# Texts as bytes

UTF-8, which writes a character in one to four bytes. `utf8` writes a text. `readUtf8` reads bytes and
keeps a byte that belongs to no character as half of a pair, so that no byte is lost; `mendUtf8`
tries such bytes again in their new surroundings, and marks those that still belong to no character.
-/

namespace SqlAudit.Text

/-- The bytes of a character. -/
def utf8Char (c : Char) : List Nat :=
  let n := c.toNat
  if n < 0x80 then [n]
  else if n < 0x800 then [0xc0 + n / 0x40, 0x80 + n % 0x40]
  else if n < 0x10000 then [0xe0 + n / 0x1000, 0x80 + n / 0x40 % 0x40, 0x80 + n % 0x40]
  else [0xf0 + n / 0x40000, 0x80 + n / 0x1000 % 0x40, 0x80 + n / 0x40 % 0x40, 0x80 + n % 0x40]

/-- The bytes of a text. -/
def utf8 (s : List Char) : List Nat :=
  s.flatMap utf8Char

/-- What may follow a first byte: the least and the greatest second byte, and how many more bytes
there are after it. None if the byte starts no character of several bytes. -/
def utf8Tail? (b : Nat) : Option (Nat × Nat × Nat) :=
  if 0xc2 ≤ b && b ≤ 0xdf then some (0x80, 0xbf, 0)
  else if b == 0xe0 then some (0xa0, 0xbf, 1)
  else if b == 0xed then some (0x80, 0x9f, 1)
  else if 0xe1 ≤ b && b ≤ 0xef then some (0x80, 0xbf, 1)
  else if b == 0xf0 then some (0x90, 0xbf, 2)
  else if 0xf1 ≤ b && b ≤ 0xf3 then some (0x80, 0xbf, 2)
  else if b == 0xf4 then some (0x80, 0x8f, 2)
  else none

/-- Whether a byte continues a character. -/
def isTailByte (b : Nat) : Bool := 0x80 ≤ b && b ≤ 0xbf

/-- The bytes of the character at the start, if there is one, or else as many bytes as could start
one, but no less than one byte; and whether they are a character. -/
def utf8Step : List Nat → List Nat × Bool
  | [] => ([], false)
  | b :: bs =>
    if b < 0x80 then ([b], true)
    else match utf8Tail? b with
      | none => ([b], false)
      | some (least, greatest, more) =>
        match bs with
        | [] => ([b], false)
        | second :: rest =>
          if second < least || greatest < second then ([b], false)
          else
            let tail := (rest.take more).takeWhile isTailByte
            (b :: second :: tail, tail.length == more)

/-- The character that bytes of one stand for. -/
def ofUtf8 : List Nat → Char
  | [b] => Char.ofNat b
  | [b, c] => Char.ofNat ((b - 0xc0) * 0x40 + (c - 0x80))
  | [b, c, d] => Char.ofNat (((b - 0xe0) * 0x40 + (c - 0x80)) * 0x40 + (d - 0x80))
  | [b, c, d, e] =>
    Char.ofNat ((((b - 0xf0) * 0x40 + (c - 0x80)) * 0x40 + (d - 0x80)) * 0x40 + (e - 0x80))
  | _ => '\ufffd'

/-- Reads bytes; those of no character are given by `stray`. -/
def decodeUtf8 (stray : List Nat → List Char) : (fuel : Nat) → List Nat → List Char
  | 0, _ => []
  | _, [] => []
  | fuel + 1, bs =>
    let step := utf8Step bs
    (if step.2 then [ofUtf8 step.1] else stray step.1) ++
      decodeUtf8 stray fuel (bs.drop step.1.length)

/-- A byte that belongs to no character. -/
def strayByte (b : Nat) : Char :=
  ofUnit (0xdc00 + b)

/-- The text of bytes, in which stray bytes are kept. -/
def readUtf8 (bs : List Nat) : List Char :=
  decodeUtf8 (·.map strayByte) bs.length bs

/-- The byte that a half stands for. -/
def strayByte? (c : Char) : Option Nat :=
  (half? c).bind fun n => if 0xdc80 ≤ n && n ≤ 0xdcff then some (n - 0xdc00) else none

/-- The first halves in a text that are no stray bytes, and those next to them. -/
def lostHalves? (s : List Char) : Option Unencodable :=
  let kept := s.takeWhile fun c => !isHalf c || (strayByte? c).isSome
  match ((s.drop kept.length).takeWhile isHalf).filterMap half? with
  | [] => none
  | units => some ⟨kept.length, units⟩

/-- A text in which stray bytes that make up characters are these characters, and others are marked.
Fails if the text has a half that is no stray byte. -/
def mendUtf8 (s : List Char) : Except Unencodable (List Char) :=
  match lostHalves? s with
  | some e => .error e
  | none =>
    let bs := s.flatMap fun c => match strayByte? c with
      | some b => [b]
      | none => utf8Char c
    .ok (decodeUtf8 (fun _ => ['\ufffd']) bs.length bs)

end SqlAudit.Text
