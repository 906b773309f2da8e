/-!
# Timestamps

The local date and time at which a report is made, and its two written forms.
-/

namespace SqlAudit

/-- A local date and time. -/
structure Timestamp where
  year : Nat
  month : Nat
  day : Nat
  hour : Nat
  minute : Nat
  second : Nat
  microsecond : Nat
deriving DecidableEq, Repr

namespace Timestamp

/-- `n` in at least `width` digits. -/
def padded (width n : Nat) : List Char :=
  let ds := Nat.toDigits 10 n
  List.replicate (width - ds.length) '0' ++ ds

/-- Hours, minutes and seconds. -/
def clock (t : Timestamp) : List Char :=
  padded 2 t.hour ++ ':' :: padded 2 t.minute ++ ':' :: padded 2 t.second

/-- The machine-readable form; microseconds are written unless they are zero. -/
def iso (t : Timestamp) : String :=
  String.ofList (padded 4 t.year ++ '-' :: padded 2 t.month ++ '-' :: padded 2 t.day ++
    'T' :: t.clock ++ (if t.microsecond = 0 then [] else '.' :: padded 6 t.microsecond))

/-- The form for people to read, to the second; the year is written as it is. -/
def plain (t : Timestamp) : String :=
  String.ofList (padded 1 t.year ++ '-' :: padded 2 t.month ++ '-' :: padded 2 t.day ++
    ' ' :: t.clock)

/-- Reads `width` digits. -/
def readDigits (width : Nat) (s : List Char) : Option (Nat × List Char) :=
  let ds := s.take width
  if ds.length = width && ds.all Char.isDigit then
    some (ds.foldl (fun n c => 10 * n + (c.toNat - 48)) 0, s.drop width)
  else none

/-- Reads one of some marks, then `width` digits. -/
def readPart (marks : List Char) (width : Nat) : List Char → Option (Nat × List Char)
  | c :: cs => if marks.contains c then readDigits width cs else none
  | [] => none

/-- Reads a fraction of a second in microseconds. -/
def readFraction : List Char → Option Nat
  | [] => some 0
  | '.' :: ds =>
    if ds.isEmpty || !ds.all Char.isDigit then none
    else (readDigits 6 ((ds ++ List.replicate 6 '0').take 6)).map Prod.fst
  | _ => none

/-- Reads seconds and their fraction, both of which may be left out. -/
def readSeconds : List Char → Option (Nat × Nat)
  | [] => some (0, 0)
  | s => do
    let (second, rest) ← readPart [':'] 2 s
    let micro ← readFraction rest
    return (second, micro)

/-- Reads the time of day, which may be left out. -/
def readTime : List Char → Option (Nat × Nat × Nat × Nat)
  | [] => some (0, 0, 0, 0)
  | s => do
    let (hour, rest) ← readPart ['T', ' '] 2 s
    let (minute, rest) ← readPart [':'] 2 rest
    let (second, micro) ← readSeconds rest
    return (hour, minute, second, micro)

/-- Reads the machine-readable form. -/
def ofIso? (s : String) : Option Timestamp := do
  let (year, rest) ← readDigits 4 s.toList
  let (month, rest) ← readPart ['-'] 2 rest
  let (day, rest) ← readPart ['-'] 2 rest
  let (hour, minute, second, micro) ← readTime rest
  return ⟨year, month, day, hour, minute, second, micro⟩

end Timestamp

end SqlAudit
