import SqlAudit.Json.Cursor
import SqlAudit.Number.Numeral
import SqlAudit.Value.Basic

/-!
# Numbers of a document

Reading a number: an integer if it has neither a point nor an exponent, else the nearest
floating-point number.
-/

namespace SqlAudit.Json

/-- The natural that decimal digits stand for. -/
def natOf (ds : List Char) : Nat :=
  ds.foldl (fun n c => 10 * n + (c.toNat - 48)) 0

/-- The digits of the whole part of a number: a zero, or digits that start with no zero. -/
def wholeDigits : List Char → List Char
  | '0' :: _ => ['0']
  | cs => cs.takeWhile Char.isDigit

/-- The digits after a point, if a point and a digit are next. -/
def fractionDigits : List Char → List Char
  | '.' :: cs => cs.takeWhile Char.isDigit
  | _ => []

/-- The exponent, if one is next: its value, and how many characters it has. -/
def exponent? : List Char → Option (Int × Nat)
  | c :: cs =>
    if c == 'e' || c == 'E' then
      let signed := cs.head? == some '-' || cs.head? == some '+'
      let ds := (if signed then cs.tail else cs).takeWhile Char.isDigit
      if ds.isEmpty then none
      else
        let n : Int := natOf ds
        some (if cs.head? == some '-' then -n else n, ds.length + (if signed then 2 else 1))
    else none
  | [] => none

/-- Reads a number. -/
def readNumber (c : Cursor) : Read Scalar :=
  let negative := c.ahead.head? == some '-'
  let body := c.skip (if negative then 1 else 0)
  let whole := wholeDigits body.ahead
  if whole.isEmpty then c.fail
  else
    let point := body.skip whole.length
    let fraction := fractionDigits point.ahead
    let mark := point.skip (if fraction.isEmpty then 0 else fraction.length + 1)
    match exponent? mark.ahead with
    | some (e, n) => .ok (.float (Binary64.ofDecimal negative (natOf (whole ++ fraction))
        (e - fraction.length)), mark.skip n)
    | none =>
      if fraction.isEmpty then
        if Numeral.digitLimit < whole.length then .error .hugeInteger
        else
          let n : Int := natOf whole
          .ok (.int (if negative then -n else n), mark)
      else .ok (.float (Binary64.ofDecimal negative (natOf (whole ++ fraction))
        (-fraction.length)), mark)

end SqlAudit.Json
