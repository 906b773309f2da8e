import SqlAudit.Text.Blank
import SqlAudit.Text.Caseless
import SqlAudit.Text.Word

/-!
# Patterns

A small language of text patterns: classes of characters, greedy runs of a class, sequence, ordered
choice, word boundaries and groups. `Pattern.readings` lists every way a pattern can read the text
at a place, in the order of preference: a run prefers more characters, a choice its first side. The
first reading is the match.
-/

namespace SqlAudit

/-- A class of characters. -/
inductive CharClass where
  /-- The character itself. -/
  | exactly (c : Char)
  /-- A small basic Latin letter, in any case. -/
  | caseless (c : Char)
  /-- Any basic Latin letter, in any case. -/
  | latin
  /-- A single or double quote. -/
  | quote
  | blank
  | word
  /-- Every other character. -/
  | except (c : Char)
deriving DecidableEq, Repr

/-- Whether a character is in the class. -/
def CharClass.has : CharClass → Char → Bool
  | .exactly c, x => x == c
  | .caseless c, x => Text.fold x == c
  | .latin, x => 'a' ≤ Text.fold x && Text.fold x ≤ 'z'
  | .quote, x => x == '\'' || x == '"'
  | .blank, x => Text.isBlank x
  | .word, x => Text.isWord x
  | .except c, x => x != c

/-- A pattern of text. -/
inductive Pattern where
  /-- Reads nothing. -/
  | empty
  /-- One character of a class. -/
  | one (k : CharClass)
  /-- Any number of characters of a class, as many as possible. -/
  | run (k : CharClass)
  /-- One pattern after another. -/
  | seq (p q : Pattern)
  /-- Either pattern, the first by preference. -/
  | alt (p q : Pattern)
  /-- Reads nothing, at a place where a run of word characters starts or ends. -/
  | boundary
  /-- Notes what the pattern reads. -/
  | group (p : Pattern)
deriving DecidableEq, Repr

namespace Pattern

instance : Append Pattern := ⟨Pattern.seq⟩

/-- A fixed text. -/
def text (s : String) : Pattern :=
  s.toList.foldr (fun c p => .seq (.one (.exactly c)) p) .empty

/-- A fixed text of basic Latin letters in any case; other characters stand for themselves. -/
def keyword (s : String) : Pattern :=
  s.toList.foldr (fun c p => .seq (.one (.caseless c.toLower)) p) .empty

/-- At least one character of a class, as many as possible. -/
def run1 (k : CharClass) : Pattern :=
  .seq (.one k) (.run k)

/-- One character of a class, if there is one. -/
def perhaps (k : CharClass) : Pattern :=
  .alt (.one k) .empty

/-- The character itself. -/
def sign (c : Char) : Pattern :=
  .one (.exactly c)

/-- A keyword that is a whole run of word characters. -/
def wholeWord (s : String) : Pattern :=
  .boundary ++ keyword s ++ .boundary

/-- The first of several fixed texts that fits. -/
def oneOf : List String → Pattern
  | [] => .empty
  | [s] => text s
  | s :: ss => .alt (text s) (oneOf ss)

end Pattern

/-- A place in a text: the character before it, if any, and the text ahead. -/
structure Place where
  before : Option Char
  ahead : List Char
deriving DecidableEq, Repr

/-- Whether exactly one of the characters on both sides of a place is a word character. -/
def Place.isBoundary (p : Place) : Bool :=
  p.before.any Text.isWord != p.ahead.head?.any Text.isWord

/-- One way of reading a pattern at a place: what is read, what its groups read, and the place
behind it. -/
structure Reading where
  text : List Char
  groups : List (List Char)
  next : Place
deriving DecidableEq, Repr

namespace Reading

/-- Reads nothing at a place. -/
def nothing (p : Place) : Reading :=
  ⟨[], [], p⟩

/-- A reading, and another one behind it. -/
def andThen (r s : Reading) : Reading :=
  ⟨r.text ++ s.text, r.groups ++ s.groups, s.next⟩

/-- A reading with one more character in front. -/
def cons (c : Char) (r : Reading) : Reading :=
  { r with text := c :: r.text }

/-- A reading whose whole text is a group. -/
def grouped (r : Reading) : Reading :=
  { r with groups := r.text :: r.groups }

end Reading

namespace Pattern

/-- The readings of a run, the longest first. -/
def runReadings (k : CharClass) (before : Option Char) : List Char → List Reading
  | [] => [.nothing ⟨before, []⟩]
  | c :: cs =>
    if k.has c then (runReadings k (some c) cs).map (.cons c) ++ [.nothing ⟨before, c :: cs⟩]
    else [.nothing ⟨before, c :: cs⟩]

/-- Every reading of a pattern at a place, in the order of preference. -/
def readings : Pattern → Place → List Reading
  | .empty, place => [.nothing place]
  | .one k, ⟨_, c :: cs⟩ => if k.has c then [⟨[c], [], ⟨some c, cs⟩⟩] else []
  | .one _, ⟨_, []⟩ => []
  | .run k, place => runReadings k place.before place.ahead
  | .seq p q, place => (p.readings place).flatMap fun r => (q.readings r.next).map r.andThen
  | .alt p q, place => p.readings place ++ q.readings place
  | .boundary, place => if place.isBoundary then [.nothing place] else []
  | .group p, place => (p.readings place).map Reading.grouped

end Pattern

end SqlAudit
