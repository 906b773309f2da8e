import SqlAudit.Text.Half
import SqlAudit.Text.Printable

/-!
# Quoted texts

A text in quotes, on one line and with nothing invisible: the quote and the backslash are escaped,
and so is every character that is not printable, halves of pairs included. Single quotes are used
unless the text has a single quote and no double quote.
-/

namespace SqlAudit.Text

/-- The quote that a text is put in. -/
def quoteFor (s : List Char) : Char :=
  if s.contains '\'' && !s.contains '"' then '"' else '\''

/-- One character of a text put in the quotes `q`. -/
def quotedChar (q c : Char) : List Char :=
  if c == q || c == '\\' then ['\\', c]
  else if c == '\n' then ['\\', 'n']
  else if c == '\r' then ['\\', 'r']
  else if c == '\t' then ['\\', 't']
  else if isPrintable c then [c]
  else if c.toNat < 0x100 then '\\' :: 'x' :: hex 2 c.toNat
  else if c.toNat < 0x10000 then '\\' :: 'u' :: hex 4 c.toNat
  else match half? c with
    | some unit => '\\' :: 'u' :: hex 4 unit
    | none => '\\' :: 'U' :: hex 8 c.toNat

/-- A text in quotes. -/
def quoted (s : List Char) : List Char :=
  let q := quoteFor s
  q :: s.flatMap (quotedChar q) ++ [q]

end SqlAudit.Text
