/-!
# Texts inside texts

Whether, and how often, a fixed text occurs in another.
-/

namespace SqlAudit.Text

/-- Whether `needle` occurs in a text. -/
def contains (needle : List Char) : List Char → Bool
  | [] => needle.isEmpty
  | c :: cs => needle.isPrefixOf (c :: cs) || contains needle cs

/-- Counts occurrences of `needle` that do not overlap, ignoring the next `skip` characters. -/
def countFrom (needle : List Char) : (skip : Nat) → List Char → Nat
  | _, [] => 0
  | skip + 1, _ :: cs => countFrom needle skip cs
  | 0, c :: cs =>
    if needle.isPrefixOf (c :: cs) then countFrom needle (needle.length - 1) cs + 1
    else countFrom needle 0 cs

/-- How often a non-empty `needle` occurs in a text, from the left and without overlap. -/
def countOf (needle s : List Char) : Nat :=
  countFrom needle 0 s

/-- Whether a text ends with `c`. -/
def endsWith (c : Char) (s : List Char) : Bool :=
  s.getLast? == some c

/-- A character that ends a line. -/
def isLineBreak (c : Char) : Bool :=
  ['\n', '\r', '\x0b', '\x0c', '\x1c', '\x1d', '\x1e', '\u0085', '\u2028', '\u2029'].contains c

/-- Whether a text goes on after its first line. -/
def hasSeveralLines (s : List Char) : Bool :=
  match s.dropWhile fun c => !isLineBreak c with
  | '\r' :: '\n' :: cs => !cs.isEmpty
  | _ :: cs => !cs.isEmpty
  | [] => false

/-- A text with every carriage return, and every pair of one with a line feed, made a line feed. -/
def unixLines : List Char → List Char
  | [] => []
  | '\r' :: '\n' :: cs => '\n' :: unixLines cs
  | '\r' :: cs => '\n' :: unixLines cs
  | c :: cs => c :: unixLines cs

end SqlAudit.Text
