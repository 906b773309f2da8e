import SqlAudit.Number.Binary64

/-!
# Shortest decimals

A floating-point number is written with the fewest digits that read back as the same number, and
of those with the nearest; a tie goes to the even digit. `shortest` finds the digits, `text` lays
them out: positionally when the leading digit stands for a power of ten from `10 ^ -4` up to and
below `10 ^ 16`, and with an exponent of at least two digits otherwise.
-/

namespace SqlAudit.Binary64

/-- The number of decimal digits of a natural. -/
def digitCount (n : Nat) : Nat :=
  (Nat.toDigits 10 n).length

/-- The `p` with `10 ^ (p - 1) ≤ num / den < 10 ^ p`, for a positive ratio. -/
def decimalSize (num den : Nat) : Int :=
  if den ≤ num then digitCount (num / den)
  else
    let c := (den + num - 1) / num
    1 - (digitCount (c - 1) : Int)

/-- The neighbour of a positive number on the grid of multiples of `10 ^ e` that reads back as the
number, the nearer one if both do. -/
def onGrid (significand : Nat) (exponent e : Int) : Option Nat :=
  let x := Binary64.finite false significand exponent
  let exact := ratio significand exponent
  let scaled := rescale 10 exact.1 exact.2 e
  let below := scaled.1 / scaled.2
  let rest := scaled.1 % scaled.2
  let nearer := if scaled.2 < 2 * rest || (2 * rest == scaled.2 && below % 2 == 1)
    then [below + 1, below] else [below, below + 1]
  nearer.find? fun d => ofDecimal false d e == x

/-- Digits without the zeros they end with, and the exponent that makes up for them. -/
def dropZeros : (fuel : Nat) → Nat → Int → Nat × Int
  | 0, d, e => (d, e)
  | fuel + 1, d, e => if d ≠ 0 ∧ d % 10 = 0 then dropZeros fuel (d / 10) (e + 1) else (d, e)

/-- The digits `d` and exponent `e` of the shortest decimal `d · 10 ^ e` of a finite number.
Seventeen digits always suffice. -/
def shortest (significand : Nat) (exponent : Int) : Nat × Int :=
  if significand = 0 then (0, 0)
  else
    let exact := ratio significand exponent
    let size := decimalSize exact.1 exact.2
    let found := (List.range 17).findSome? fun (k : Nat) =>
      let e := size - (k + 1)
      (onGrid significand exponent e).map fun d => dropZeros (digitCount d) d e
    found.getD (exact.1 / exact.2, 0)

/-- `n` copies of the digit zero. -/
def zeros (n : Nat) : List Char :=
  List.replicate n '0'

/-- The layout of the decimal `d · 10 ^ e`. -/
def layout (d : Nat) (e : Int) : List Char :=
  let ds := Nat.toDigits 10 d
  let point := ds.length + e
  if -4 < point ∧ point ≤ 16 then
    if point ≤ 0 then '0' :: '.' :: zeros (-point).toNat ++ ds
    else if (ds.length : Int) ≤ point then ds ++ zeros e.toNat ++ ['.', '0']
    else ds.take point.toNat ++ '.' :: ds.drop point.toNat
  else
    let lead := ds.take 1 ++ (if ds.length = 1 then [] else '.' :: ds.drop 1)
    let power := Nat.toDigits 10 (point - 1).natAbs
    lead ++ 'e' :: (if point - 1 < 0 then '-' else '+') :: zeros (2 - power.length) ++ power

/-- The text of a number. -/
def text : Binary64 → String
  | .nan => "nan"
  | .infinity negative => if negative then "-inf" else "inf"
  | .finite negative m e =>
    let decimal := shortest m e
    let body := layout decimal.1 decimal.2
    String.ofList (if negative then '-' :: body else body)

end SqlAudit.Binary64
