/-!
# Names of hosts in basic Latin characters

Punycode writes a text in small basic Latin letters, digits and hyphens: the basic characters first,
then the others in the order of their code points, each by how far the reader has to go to insert
it. Distances are numbers in mixed radix, and a bias fits their digits to the distances so far.
-/

namespace SqlAudit.Url

/-- The digits of distances: letters for 0 to 25, then digits. -/
def punyDigit (d : Nat) : Char :=
  Char.ofNat (if d < 26 then 97 + d else 22 + d)

/-- The value of a digit, which may be a capital letter. -/
def punyValue? (c : Char) : Option Nat :=
  if 'a' ≤ c ∧ c ≤ 'z' then some (c.toNat - 97)
  else if 'A' ≤ c ∧ c ≤ 'Z' then some (c.toNat - 65)
  else if '0' ≤ c ∧ c ≤ '9' then some (c.toNat - 22)
  else none

/-- The weight limit of the digit `k` places from the first. -/
def punyThreshold (k bias : Nat) : Nat :=
  let place := 36 * (k + 1)
  if place ≤ bias + 1 then 1 else if bias + 26 ≤ place then 26 else place - bias

/-- The part of a distance that decides on the next bias, and the bias for the rest. -/
def punyReduce : (fuel delta bias : Nat) → Nat × Nat
  | 0, delta, bias => (delta, bias)
  | fuel + 1, delta, bias =>
    if 455 < delta then punyReduce fuel (delta / 35) (bias + 36) else (delta, bias)

/-- The bias after a distance, with `count` characters in place. -/
def punyAdapt (delta count : Nat) (first : Bool) : Nat :=
  let delta := if first then delta / 700 else delta / 2
  let delta := delta + delta / count
  let r := punyReduce delta delta 0
  r.2 + 36 * r.1 / (r.1 + 38)

/-- The digits of a distance. -/
def punyDigits (bias : Nat) : (fuel k q : Nat) → List Char
  | 0, _, _ => []
  | fuel + 1, k, q =>
    let t := punyThreshold k bias
    if q < t then [punyDigit q]
    else punyDigit (t + (q - t) % (36 - t)) :: punyDigits bias fuel (k + 1) ((q - t) / (36 - t))

/-- A writer: the distance since the last character, the bias, and how many characters are in
place. -/
structure PunyState where
  delta : Nat
  bias : Nat
  count : Nat
  written : List Char

/-- Passes one character while those of the code point `n` are written. -/
def punyPass (basics n : Nat) (st : PunyState) (c : Char) : PunyState :=
  if c.toNat < n then { st with delta := st.delta + 1 }
  else if c.toNat = n then
    { delta := 0
      bias := punyAdapt st.delta (st.count + 1) (st.count == basics)
      count := st.count + 1
      written := st.written ++ punyDigits st.bias (st.delta + 1) 0 st.delta }
  else st

/-- Writes the characters of the code points `ns`, in ascending order and from `n` on. -/
def punyWrite (s : List Char) (basics : Nat) : (n : Nat) → (ns : List Nat) → PunyState → PunyState
  | _, [], st => st
  | n, m :: ms, st =>
    let st := s.foldl (punyPass basics m) { st with delta := st.delta + (m - n) * (st.count + 1) }
    punyWrite s basics (m + 1) ms { st with delta := st.delta + 1 }

/-- A text in Punycode. -/
def punycode (s : List Char) : List Char :=
  let basic := s.filter fun c => c.toNat < 128
  let others := ((s.filter fun c => 128 ≤ c.toNat).map Char.toNat).mergeSort.eraseDups
  let st := punyWrite s basic.length 128 others ⟨0, 72, basic.length, []⟩
  (if basic.isEmpty then [] else basic ++ ['-']) ++ st.written

/-- Reads one distance: its value and what follows. -/
def punyDistance? (bias : Nat) : (k weight : Nat) → List Char → Option (Nat × List Char)
  | _, _, [] => none
  | k, weight, c :: cs => (punyValue? c).bind fun d =>
    let t := punyThreshold k bias
    if d < t then some (d * weight, cs)
    else (punyDistance? bias (k + 1) (weight * (36 - t)) cs).map fun r => (d * weight + r.1, r.2)

/-- Inserts characters by their distances, as far as these can be read. -/
def punyInsert? (basics : Nat) : (fuel : Nat) → (n i bias : Nat) → (s digits : List Char) →
    Option (List Char)
  | _, _, _, _, s, [] => some s
  | 0, _, _, _, _, _ => none
  | fuel + 1, n, i, bias, s, digits => (punyDistance? bias 0 1 digits).bind fun (delta, rest) =>
    let count := s.length + 1
    let n' := n + (i + delta) / count
    let place := (i + delta) % count
    if 0x110000 ≤ n' then none
    else punyInsert? basics fuel n' (place + 1) (punyAdapt delta count (s.length == basics))
      (s.take place ++ Char.ofNat n' :: s.drop place) rest

/-- The text that Punycode stands for. -/
def ofPunycode? (s : List Char) : Option (List Char) :=
  let digits := (s.reverse.takeWhile (· != '-')).reverse
  let basic := (s.take (s.length - digits.length)).dropLast
  punyInsert? basic.length s.length 128 0 72 basic digits

end SqlAudit.Url
