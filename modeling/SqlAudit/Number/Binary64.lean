/-!
# Binary floating-point numbers

The numbers with a significand of 53 bits, as exact data: a finite one is `± significand · 2 ^
exponent`. `ofDecimal` rounds a decimal to the nearest of them, a half to the even significand, so
that everything about these numbers is arithmetic on naturals.
-/

namespace SqlAudit

/-- A binary floating-point number. A finite one has a significand below `2 ^ 53` and an exponent
from `-1074` on; the significand is at least `2 ^ 52` unless the exponent is the least. -/
inductive Binary64 where
  | nan
  | infinity (negative : Bool)
  | finite (negative : Bool) (significand : Nat) (exponent : Int)
deriving DecidableEq, Repr

namespace Binary64

/-- Zero, with a sign. -/
def zero (negative : Bool) : Binary64 :=
  .finite negative 0 (-1074)

/-- `num / den` rounded to the nearest natural, a half to the even one. -/
def roundDiv (num den : Nat) : Nat :=
  let q := num / den
  let r := num % den
  if den < 2 * r || (2 * r == den && q % 2 == 1) then q + 1 else q

/-- The ratio `num / den` divided by `base ^ e`, as a ratio. -/
def rescale (base num den : Nat) (e : Int) : Nat × Nat :=
  if 0 ≤ e then (num, den * base.pow e.toNat) else (num * base.pow (-e).toNat, den)

/-- The number nearest to `± num / den`. -/
def ofRatio (negative : Bool) (num den : Nat) : Binary64 :=
  if num = 0 then zero negative
  else
    let guess : Int := (num.log2 : Int) - den.log2
    let unit := rescale 2 num den guess
    let top := if unit.2 ≤ unit.1 then guess else guess - 1
    let e := if top < -1022 then -1074 else top - 52
    let scaled := rescale 2 num den e
    let q := roundDiv scaled.1 scaled.2
    let q' := if q = 0x20000000000000 then 0x10000000000000 else q
    let e' := if q = 0x20000000000000 then e + 1 else e
    if 971 < e' then .infinity negative else .finite negative q' e'

/-- The number nearest to `± digits · 10 ^ e`. Decimals beyond the range of all finite numbers are
told by their size alone. -/
def ofDecimal (negative : Bool) (digits : Nat) (e : Int) : Binary64 :=
  let size := (Nat.toDigits 10 digits).length + e
  if digits = 0 || size < -330 then zero negative
  else if 310 < size then .infinity negative
  else
    let ratio := rescale 10 digits 1 (-e)
    ofRatio negative ratio.1 ratio.2

/-- The magnitude of a finite number as a ratio. -/
def ratio (significand : Nat) (exponent : Int) : Nat × Nat :=
  rescale 2 significand 1 (-exponent)

/-- The integer that a whole number equals. -/
def toInt? : Binary64 → Option Int
  | .finite negative m e =>
    let r := ratio m e
    if r.1 % r.2 = 0 then
      let n : Int := r.1 / r.2
      some (if negative then -n else n)
    else none
  | _ => none

/-- The integer that a whole number strictly between `-2 ^ 63` and `2 ^ 63` equals. -/
def toInt64? (x : Binary64) : Option Int :=
  x.toInt?.filter fun n => -0x8000000000000000 < n && n < 0x8000000000000000

/-- Whether a number is at least a natural number. -/
def isAtLeast (n : Nat) : Binary64 → Bool
  | .nan => false
  | .infinity negative => !negative
  | .finite negative m e =>
    let (num, den) := ratio m e
    if negative then n == 0 && num == 0 else n * den ≤ num

/-- Whether a number is neither infinite nor not a number. -/
def isFinite : Binary64 → Bool
  | .finite .. => true
  | _ => false

/-- Whether a number is zero. -/
def isZero : Binary64 → Bool
  | .finite _ m _ => m == 0
  | _ => false

end Binary64

end SqlAudit
