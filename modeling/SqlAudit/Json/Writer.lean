import SqlAudit.Text.Hex
import SqlAudit.Value.Literal

/-!
# Writing JSON

A value as a JSON document, without blanks. Keys that are no texts are written as the texts of their
scalars.
-/

namespace SqlAudit.Json

/-- A character of a text of a document. -/
def textChar (c : Char) : List Char :=
  if c == '"' || c == '\\' then ['\\', c]
  else if c == '\n' then ['\\', 'n']
  else if c == '\r' then ['\\', 'r']
  else if c == '\t' then ['\\', 't']
  else if c == '\x0c' then ['\\', 'f']
  else if c == '\x08' then ['\\', 'b']
  else if c.toNat < 0x20 then '\\' :: 'u' :: Text.hex 4 c.toNat
  else [c]

/-- A text of a document. -/
def text (s : String) : List Char :=
  '"' :: s.toList.flatMap textChar ++ ['"']

/-- A floating-point number of a document. -/
def number : Binary64 → String
  | .nan => "NaN"
  | .infinity negative => if negative then "-Infinity" else "Infinity"
  | x => x.text

/-- A scalar of a document. -/
def scalar : Scalar → List Char
  | .null => "null".toList
  | .bool b => (if b then "true" else "false").toList
  | .int n => (toString n).toList
  | .float x => (number x).toList
  | .text s => text s

/-- The name that a key has as a member. -/
def memberName : Scalar → String
  | .text s => s
  | k => String.ofList (scalar k)

/-- Parts with commas between them. -/
def joined : List (List Char) → List Char
  | [] => []
  | [p] => p
  | p :: ps => p ++ ',' :: joined ps

mutual

/-- A value as a document. -/
def write : Value → List Char
  | .scalar s => scalar s
  | .list vs => '[' :: joined (writeItems vs) ++ [']']
  | .object es => '\x7b' :: joined (writeMembers es) ++ ['\x7d']

/-- The items of a list. -/
def writeItems : List Value → List (List Char)
  | [] => []
  | v :: vs => write v :: writeItems vs

/-- The members of an object. -/
def writeMembers : List (Scalar × Value) → List (List Char)
  | [] => []
  | (k, v) :: es => (text (memberName k) ++ ':' :: write v) :: writeMembers es

end

end SqlAudit.Json
