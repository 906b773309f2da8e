import SqlAudit.Json.Cursor
import SqlAudit.Text.Half

/-!
# Texts of a document

Reading a text in quotes: escapes of one letter, and units in hexadecimal digits, two of which may
stand for one character. Half of a pair may stand alone.
-/

namespace SqlAudit.Json

open SqlAudit.Text

/-- The number that four hexadecimal digits stand for. -/
def hex4? (s : List Char) : Option Nat :=
  match s with
  | [a, b, c, d] => do
    let a ← hexValue? a
    let b ← hexValue? b
    let c ← hexValue? c
    let d ← hexValue? d
    return ((a * 16 + b) * 16 + c) * 16 + d
  | _ => none

/-- The character that a letter after a backslash stands for. -/
def escape? : Char → Option Char
  | '"' => some '"'
  | '\\' => some '\\'
  | '/' => some '/'
  | 'b' => some '\x08'
  | 'f' => some '\x0c'
  | 'n' => some '\n'
  | 'r' => some '\r'
  | 't' => some '\t'
  | _ => none

/-- Reads the digits after `\u`, at the place of the first one, and the second half of a pair if
it follows. Gives the character and how many characters were read. At least one more character has
to follow the digits. -/
def readUnit (c : Cursor) : Except Error (Char × Nat) :=
  match if (c.ahead.drop 4).isEmpty then none else hex4? (c.ahead.take 4) with
  | none => .error (.malformed (c.offset - 1))
  | some hi =>
    let more := c.ahead.drop 4
    if isHigh hi && !(more.drop 6).isEmpty && more.take 2 == ['\\', 'u'] then
      match hex4? ((more.drop 2).take 4) with
      | none => .error (.malformed (c.offset + 5))
      | some lo =>
        if isLow lo then .ok (ofPair hi lo, 10) else .ok (ofUnit hi, 4)
    else .ok (ofUnit hi, 4)

/-- Reads the rest of a text whose opening quote is at the offset `start`, leaving out the next
`skip` characters, which an escape has read. -/
def readText (start : Nat) : (offset skip : Nat) → List Char → Read (List Char)
  | _, _, [] => .error (.malformed start)
  | offset, skip + 1, _ :: cs => readText start (offset + 1) skip cs
  | offset, 0, c :: cs =>
    if c == '"' then .ok ([], ⟨offset + 1, cs⟩)
    else if c.toNat < 0x20 then .error (.malformed offset)
    else if c == '\\' then
      match cs with
      | [] => .error (.malformed start)
      | e :: more =>
        if e == 'u' then
          match readUnit ⟨offset + 2, more⟩ with
          | .error err => .error err
          | .ok (x, n) => (readText start (offset + 1) (n + 1) cs).map fun r => (x :: r.1, r.2)
        else
          match escape? e with
          | none => .error (.malformed offset)
          | some x => (readText start (offset + 1) 1 cs).map fun r => (x :: r.1, r.2)
    else (readText start (offset + 1) 0 cs).map fun r => (c :: r.1, r.2)

end SqlAudit.Json
