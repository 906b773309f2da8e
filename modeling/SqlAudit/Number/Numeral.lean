import SqlAudit.Number.Binary64
import SqlAudit.Text.Digit

/-!
# Numerals

Reading integers and floating-point numbers as people write them in settings: a sign, digits of
any script, single underscores between digits, and for floating-point numbers a point, an exponent
or one of the words `inf`, `infinity` and `nan` in any case.
-/

namespace SqlAudit.Numeral

open SqlAudit.Text

/-- A decimal digit of any script. -/
def isDigit (c : Char) : Bool :=
  (digitValue? c).isSome

/-- A text without the underscores that stand between two digits; none if there is another
underscore. -/
def dropSeparators (afterDigit : Bool) : List Char → Option (List Char)
  | [] => some []
  | c :: cs =>
    if c == '_' then
      if afterDigit && cs.head?.any isDigit then dropSeparators false cs else none
    else (dropSeparators (isDigit c) cs).map (c :: ·)

/-- Whether a text starts with a minus sign, and the text after its sign. -/
def splitSign : List Char → Bool × List Char
  | '-' :: cs => (true, cs)
  | '+' :: cs => (false, cs)
  | cs => (false, cs)

/-- The natural that a text of digits stands for. -/
def natOf (ds : List Char) : Nat :=
  ds.foldl (fun n c => 10 * n + (digitValue? c).getD 0) 0

/-- Why a text is no integer. -/
inductive IntegerError where
  | malformed
  | tooLong (digits : Nat)
deriving DecidableEq, Repr

/-- The most digits of an integer that is read or written. -/
def digitLimit : Nat := 4300

/-- The least natural that has more digits. -/
def digitBound : Nat := Nat.pow 10 digitLimit

/-- The digits at the start, without the single underscores between them, and the rest. None if an
underscore stands elsewhere. -/
def leadingDigits (afterDigit : Bool) : List Char → Option (List Char × List Char)
  | [] => some ([], [])
  | c :: cs =>
    if c == '_' then
      if afterDigit && cs.head?.any isDigit then leadingDigits false cs else none
    else if isDigit c then (leadingDigits true cs).map fun r => (c :: r.1, r.2)
    else some ([], c :: cs)

/-- Reads an integer. Whether there are too many digits is asked before what follows them. -/
def readInt (s : List Char) : Except IntegerError Int :=
  let signed := splitSign s
  match leadingDigits false signed.2 with
  | none => .error .malformed
  | some (ds, rest) =>
    if digitLimit < ds.length then .error (.tooLong ds.length)
    else if ds.isEmpty || !rest.isEmpty then .error .malformed
    else .ok (if signed.1 then -(natOf ds : Int) else natOf ds)

/-- Reads an exponent: nothing, or the letter e, a sign and digits. -/
def readExponent : List Char → Option Int
  | [] => some 0
  | c :: cs =>
    let signed := splitSign cs
    if (c == 'e' || c == 'E') && !signed.2.isEmpty && signed.2.all isDigit then
      some (if signed.1 then -(natOf signed.2 : Int) else natOf signed.2)
    else none

/-- Reads digits with an optional point and exponent. -/
def readDecimal (negative : Bool) (s : List Char) : Option Binary64 :=
  let whole := s.takeWhile isDigit
  let rest := s.dropWhile isDigit
  let fraction := if rest.head? == some '.' then rest.tail.takeWhile isDigit else []
  let rest := if rest.head? == some '.' then rest.tail.dropWhile isDigit else rest
  if whole.isEmpty && fraction.isEmpty then none
  else (readExponent rest).map fun e =>
    Binary64.ofDecimal negative (natOf (whole ++ fraction)) (e - fraction.length)

/-- Reads a floating-point number. -/
def readFloat (s : List Char) : Option Binary64 :=
  let signed := splitSign s
  let word := String.ofList (signed.2.map Char.toLower)
  if word == "nan" then some .nan
  else if word == "inf" || word == "infinity" then some (.infinity signed.1)
  else (dropSeparators false signed.2).bind (readDecimal signed.1)

end SqlAudit.Numeral
