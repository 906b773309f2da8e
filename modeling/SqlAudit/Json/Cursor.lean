/-!
# Places in a document

A document is read from left to right. A `Cursor` is a place in it, and a reading either moves on
or tells the offset at which the document goes wrong.
-/

namespace SqlAudit.Json

/-- Why a document cannot be read. -/
inductive Error where
  /-- The text is malformed at this offset. -/
  | malformed (offset : Nat)
  /-- An integer has too many digits. -/
  | hugeInteger
  /-- Lists and objects are nested too deeply. -/
  | tooDeep
deriving DecidableEq, Repr

/-- A place in a document: its offset, and the text ahead. -/
structure Cursor where
  offset : Nat
  ahead : List Char
deriving DecidableEq, Repr

/-- The result of reading something at a place: what was read, and the place behind it. -/
abbrev Read (α : Type) := Except Error (α × Cursor)

/-- The place `n` characters further on. -/
def Cursor.skip (c : Cursor) (n : Nat) : Cursor :=
  ⟨c.offset + n, c.ahead.drop n⟩

/-- Fails at a place. -/
def Cursor.fail {α : Type} (c : Cursor) : Except Error α :=
  .error (.malformed c.offset)

/-- A blank character of a document. -/
def isBlank (c : Char) : Bool :=
  c == ' ' || c == '\t' || c == '\n' || c == '\r'

/-- The first place that is not blank. -/
def Cursor.skipBlanks (c : Cursor) : Cursor :=
  c.skip (c.ahead.takeWhile isBlank).length

end SqlAudit.Json
