import SqlAudit.Json.Number
import SqlAudit.Json.Text

/-!
# Reading JSON

Reads a JSON document into a value, or tells the offset at which it goes wrong. Besides the numbers
of the standard, `NaN`, `Infinity` and `-Infinity` are read; of members of one name the last counts.
-/

namespace SqlAudit.Json

/-- The words that stand for values. -/
def words : List (String × Scalar) :=
  [("null", .null), ("true", .bool true), ("false", .bool false), ("NaN", .float .nan),
    ("Infinity", .float (.infinity false)), ("-Infinity", .float (.infinity true))]

/-- Reads a word or a number. -/
def readScalar (c : Cursor) : Read Scalar :=
  match words.find? fun w => w.1.toList.isPrefixOf c.ahead with
  | some w => .ok (w.2, c.skip w.1.length)
  | none => readNumber c

mutual

/-- Reads a value in which lists and objects are nested up to `depth` times. A nested value costs two
steps and has an opening bracket before it, so that twice the length of the text is fuel enough. -/
def readValue : (depth fuel : Nat) → Cursor → Read Value
  | _, 0, c => c.fail
  | depth, fuel + 1, c =>
    match c.ahead, depth with
    | '"' :: cs, _ => (readText c.offset (c.offset + 1) 0 cs).map fun r =>
        (.text (String.ofList r.1), r.2)
    | '[' :: _, 0 | '\x7b' :: _, 0 => .error .tooDeep
    | '[' :: _, depth + 1 =>
      let c := (c.skip 1).skipBlanks
      if c.ahead.head? == some ']' then .ok (.list [], c.skip 1)
      else (readItems depth fuel c).map fun r => (.list r.1, r.2)
    | '\x7b' :: _, depth + 1 =>
      let c := (c.skip 1).skipBlanks
      if c.ahead.head? == some '\x7d' then .ok (.object [], c.skip 1)
      else (readMembers depth fuel c).map fun r => (Value.mapping r.1, r.2)
    | _, _ => (readScalar c).map fun r => (.scalar r.1, r.2)

/-- Reads the items of a list, up to its end. -/
def readItems : (depth fuel : Nat) → Cursor → Except Error (List Value × Cursor)
  | _, 0, c => c.fail
  | depth, fuel + 1, c => do
    let (v, c) ← readValue depth fuel c
    let c := c.skipBlanks
    if c.ahead.head? == some ']' then return ([v], c.skip 1)
    if c.ahead.head? != some ',' then c.fail
    let (vs, c) ← readItems depth fuel (c.skip 1).skipBlanks
    return (v :: vs, c)

/-- Reads the members of an object, up to its end. -/
def readMembers : (depth fuel : Nat) → Cursor → Except Error (List (Scalar × Value) × Cursor)
  | _, 0, c => c.fail
  | depth, fuel + 1, c => do
    if c.ahead.head? != some '"' then c.fail
    let (key, c) ← readText c.offset (c.offset + 1) 0 c.ahead.tail
    let c := c.skipBlanks
    if c.ahead.head? != some ':' then c.fail
    let (v, c) ← readValue depth fuel (c.skip 1).skipBlanks
    let c := c.skipBlanks
    let member := (Scalar.text (String.ofList key), v)
    if c.ahead.head? == some '\x7d' then return ([member], c.skip 1)
    if c.ahead.head? != some ',' then c.fail
    let (members, c) ← readMembers depth fuel (c.skip 1).skipBlanks
    return (member :: members, c)

end

/-- Reads a document: one value, with nothing but blanks around it, in which lists and objects are
nested up to `depth` times. -/
def read (depth : Nat) (text : List Char) : Except Error Value := do
  let (v, c) ← readValue depth (2 * text.length + 2) (Cursor.mk 0 text).skipBlanks
  let c := c.skipBlanks
  if c.ahead.isEmpty then return v else c.fail

end SqlAudit.Json
