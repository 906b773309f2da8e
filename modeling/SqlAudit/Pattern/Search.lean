import SqlAudit.Pattern.First

/-!
# Searching for patterns

`find?` is the first occurrence of a pattern in a text, `occurrences` are all of them from the left
without overlap. The patterns searched for never read the empty text.
-/

namespace SqlAudit

/-- A pattern found in a text: where it starts, what it reads, and what its groups read. -/
structure Occurrence where
  start : Nat
  text : List Char
  groups : List (List Char)
deriving DecidableEq, Repr

/-- The offset just behind an occurrence. -/
def Occurrence.stop (o : Occurrence) : Nat :=
  o.start + o.text.length

namespace Pattern

/-- The first occurrence in a text whose first character has the offset `start`. -/
def findFrom (p : Pattern) (start : Nat) (before : Option Char) : List Char → Option Occurrence
  | [] => (p.first? ⟨before, []⟩).map fun r => ⟨start, r.text, r.groups⟩
  | c :: cs =>
    match p.first? ⟨before, c :: cs⟩ with
    | some r => some ⟨start, r.text, r.groups⟩
    | none => findFrom p (start + 1) (some c) cs

/-- The first occurrence of a pattern in a text. -/
def find? (p : Pattern) (s : List Char) : Option Occurrence :=
  p.findFrom 0 none s

/-- Whether a pattern occurs in a text. -/
def occursIn (p : Pattern) (s : List Char) : Bool :=
  (p.find? s).isSome

/-- The occurrences in a text whose first character has the offset `start`, leaving out the next
`skip` characters, which the last occurrence has read. -/
def occurrencesFrom (p : Pattern) : (start skip : Nat) → (before : Option Char) → List Char →
    List Occurrence
  | _, _, _, [] => []
  | start, skip + 1, _, c :: cs => occurrencesFrom p (start + 1) skip (some c) cs
  | start, 0, before, c :: cs =>
    match p.first? ⟨before, c :: cs⟩ with
    | some r => ⟨start, r.text, r.groups⟩ ::
        occurrencesFrom p (start + 1) (r.text.length - 1) (some c) cs
    | none => occurrencesFrom p (start + 1) 0 (some c) cs

/-- All occurrences of a pattern in a text, from the left and without overlap. -/
def occurrences (p : Pattern) (s : List Char) : List Occurrence :=
  p.occurrencesFrom 0 0 none s

end Pattern

end SqlAudit
