/-!
# Blank characters

Which characters separate words, and the two cuts made with them: `trim` drops the blank
characters at both ends of a text, `firstToken` takes the first run of characters that are not
blank.
-/

namespace SqlAudit.Text

/-- A blank character: a horizontal or vertical control, an information separator, a space of any
width, or a line or paragraph separator. -/
def isBlank (c : Char) : Bool :=
  let n := c.toNat
  (9 ≤ n && n ≤ 13) || (28 ≤ n && n ≤ 32) || n == 0x85 || n == 0xa0 || n == 0x1680 ||
    (0x2000 ≤ n && n ≤ 0x200a) || n == 0x2028 || n == 0x2029 || n == 0x202f || n == 0x205f ||
    n == 0x3000

/-- A text without the blank characters it starts with. -/
def trimStart (s : List Char) : List Char :=
  s.dropWhile isBlank

/-- A text without the blank characters it ends with. -/
def trimEnd (s : List Char) : List Char :=
  (s.reverse.dropWhile isBlank).reverse

/-- A text without the blank characters at either end. -/
def trim (s : List Char) : List Char :=
  trimEnd (trimStart s)

/-- The first run of characters that are not blank; empty if all are. -/
def firstToken (s : List Char) : List Char :=
  (trimStart s).takeWhile fun c => !isBlank c

end SqlAudit.Text
