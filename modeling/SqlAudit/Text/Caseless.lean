/-!
# Letters in any case

Patterns and keyword tables are written in basic Latin letters and hold for any case. `fold` sends
every character that counts as such a letter to its small form; `lower` is the small form of a text
as far as a basic Latin needle can tell.
-/

namespace SqlAudit.Text

/-- The small basic Latin letter that a character counts as, or the character itself. The long s
counts as s, the dotted capital and the dotless small i as i, the Kelvin sign as k. -/
def fold (c : Char) : Char :=
  if c == '\u017f' then 's'
  else if c == '\u0130' || c == '\u0131' then 'i'
  else if c == '\u212a' then 'k'
  else c.toLower

/-- The lower case of a character whose lower case has a basic Latin letter; others stay. The
dotted capital i keeps its dot as a combining mark. -/
def lowerChar (c : Char) : List Char :=
  if c == '\u0130' then ['i', '\u0307']
  else if c == '\u212a' then ['k']
  else [c.toLower]

/-- The lower case of a text, for comparison with basic Latin texts. -/
def lower (s : List Char) : List Char :=
  s.flatMap lowerChar

end SqlAudit.Text
