/-!
# Decimals and doubles

Configuration files and requests write numbers in decimal; retry settings keep their
multiplier as a double. This module converts between the two exactly, on natural numbers:

* a decimal `m · 10^e` becomes the nearest double, ties to even, as IEEE 754 rounds; past
  the largest finite double it becomes infinity;
* a double becomes the shortest decimal that converts back to it, and among decimals of that
  length the one nearest to it. That is the text a round-trip printer writes. At each length
  both decimals next to the double are tried: near a power of two the doubles below are
  closer together than those above, so the nearer decimal may read back as a neighbour while
  the farther one reads back as the double;
* a decimal can also be read the quick way, as request readers do: its first 64 bits' worth
  of digits become a double, which is then multiplied or divided by a power of ten. Two
  roundings make this one unit in the last place off at times, so `0.9999999999999999`
  reads as `1.0`.

A positive finite double is `q · 2^k` with `q < 2^53` and `k ≥ -1074`, and its bits are
`(k + 1074) · 2^52 + q` once `q` is scaled into `[2^52, 2^53)` (or `k = -1074`): a rounding
carry that makes `q = 2^53` lands on the next exponent by the same formula.

## Main definitions

* `Decimal.nearest`: The double nearest to a positive ratio.
* `Decimal.toDouble`: The double nearest to `m · 10^e`.
* `Decimal.quickDouble`: The double a quick reader makes of `±(m · 10^e)`.
* `Decimal.ratio`: The exact value of a finite double.
* `Decimal.shortest`: The shortest decimal that reads back as a double.
* `Decimal.plain`: A double in plain positional notation, without exponent.
-/

namespace Resilience

namespace Decimal

/-- The number of decimal digits of `n`, at least one. -/
def digitCount (n : Nat) : Nat := (Nat.toDigits 10 n).length

/-- The double nearest to `n / d` for `n, d > 0`, ties to even. The scale `k` is chosen so
that `n / (d · 2^k)` lies in `[2^52, 2^53)`, or `k = -1074` for subnormal values. -/
def nearest (n d : Nat) : Float :=
  if n = 0 then 0.0 else
  let quot (k : Int) : Nat × Nat × Nat :=
    if 0 ≤ k then
      let den := d * Nat.pow 2 k.toNat
      (n / den, n % den, den)
    else
      let num := n * Nat.pow 2 (-k).toNat
      (num / d, num % d, d)
  let k0 : Int := (Nat.log2 n : Int) - (Nat.log2 d : Int) - 52
  let k1 := if (quot k0).1 < Nat.pow 2 52 then k0 - 1 else k0
  let k := max k1 (-1074)
  let (q, r, den) := quot k
  let q := if den < 2 * r ∨ (2 * r = den ∧ q % 2 = 1) then q + 1 else q
  let bits := (k + 1074).toNat * Nat.pow 2 52 + q
  if 0x7FF0000000000000 ≤ bits then Float.ofBits 0x7FF0000000000000
  else Float.ofBits bits.toUInt64

/-- The double nearest to `m · 10^e`. Values of more than 311 decimal digits before the
point are infinite and values below `10^-325` are zero, so no huge power is formed. -/
def toDouble (m : Nat) (e : Int) : Float :=
  if m = 0 then 0.0 else
  let magnitude := (digitCount m : Int) + e
  if 311 < magnitude then Float.ofBits 0x7FF0000000000000
  else if magnitude < -325 then 0.0
  else if 0 ≤ e then nearest (m * Nat.pow 10 e.toNat) 1
  else nearest m (Nat.pow 10 (-e).toNat)

/-- The double `±(m · 10^e)`. -/
def toSignedDouble (negative : Bool) (m : Nat) (e : Int) : Float :=
  let x := toDouble m e
  if negative then -x else x

/-- One more decimal digit into a 64-bit significand: the significand, the number of digits
left out so far, and whether the significand is full. A digit that would carry it past
`2^64 - 1` is left out, and so is every digit after it. -/
def pushDigit (acc : Nat × Nat × Bool) (c : Char) : Nat × Nat × Bool :=
  let (sig, dropped, full) := acc
  let v := sig * 10 + (c.toNat - '0'.toNat)
  if full || Nat.pow 2 64 ≤ v then (sig, dropped + 1, true) else (v, dropped, false)

/-- The leading digits of `n` that fit in 64 bits: the value of the longest prefix of its
decimal digits that is at most `2^64 - 1`, and the number of digits left out. -/
def leading64 (n : Nat) : Nat × Nat :=
  let (sig, dropped, _) := (Nat.toDigits 10 n).foldl pushDigit (0, 0, false)
  (sig, dropped)

/-- Scale `f` by `10^e` with double arithmetic, one power of ten at most `10^308` at a time;
`none` when the result overflows. A zero stays zero whatever the exponent. -/
def scaleBy (f : Float) : Nat → Int → Option Float
  | 0, _ => some f
  | fuel + 1, e =>
    if e.natAbs ≤ 308 then
      if 0 ≤ e then
        let g := f * toDouble 1 e
        if g.isInf then none else some g
      else some (f / toDouble 1 e.natAbs)
    else if f == 0.0 then some f
    else if 0 ≤ e then none
    else scaleBy (f / toDouble 1 308) fuel (e + 308)

/-- The double a quick reader makes of `±(m · 10^e)`: the leading 64 bits' worth of digits
of `m` as a double, scaled by the power of ten with double arithmetic, which can be one
unit in the last place off the nearest double. Digits of `m` left out count as digits
before the point, so the exponent grows by their number. `none` when the value is too
large for a double. -/
def quickDouble (negative : Bool) (m : Nat) (e : Int) : Option Float :=
  let (sig, dropped) := leading64 m
  let e := e + dropped
  (scaleBy (toDouble sig 0) (e.natAbs / 308 + 1) e).map fun x => if negative then -x else x

/-- Whether a double has its sign bit set. -/
def isNegative (x : Float) : Bool := Nat.pow 2 63 ≤ x.toBits.toNat

/-- The exact value `n / d` of the magnitude of a finite double. -/
def ratio (x : Float) : Nat × Nat :=
  let bits : Nat := x.toBits.toNat % Nat.pow 2 63
  let e : Nat := bits / Nat.pow 2 52
  let f : Nat := bits % Nat.pow 2 52
  let q : Nat := if e = 0 then f else f + Nat.pow 2 52
  let k : Int := if e = 0 then -1074 else (e : Int) - 1075
  if 0 ≤ k then (q * Nat.pow 2 k.toNat, 1) else (q, Nat.pow 2 (-k).toNat)

/-- Whether `10^j ≤ n / d`. -/
def powerBelow (n d : Nat) (j : Int) : Bool :=
  if 0 ≤ j then d * Nat.pow 10 j.toNat ≤ n else d ≤ n * Nat.pow 10 (-j).toNat

/-- Move a guess `c` of the decimal exponent until `10^(c-1) ≤ n/d < 10^c`. -/
def settleExponent (n d : Nat) : Nat → Int → Int
  | 0, c => c
  | fuel + 1, c =>
    if powerBelow n d c then settleExponent n d fuel (c + 1)
    else if !powerBelow n d (c - 1) then settleExponent n d fuel (c - 1)
    else c

/-- The decimal exponent `E` with `10^(E-1) ≤ n/d < 10^E`, for `n, d > 0`. -/
def decimalExponent (n d : Nat) : Int :=
  let guess : Int := ((Nat.log2 n : Int) - (Nat.log2 d : Int)) * 30103 / 100000
  settleExponent n d 8 guess

/-- The two decimals of `p` significant digits next to `n / d`, given its decimal exponent
`E`: the digits `q` of the one below and the exponent `e`, with the value `q · 10^e` (the
one above is `(q + 1) · 10^e`), and whether the one above is the nearer, ties to even. -/
def neighbours (n d : Nat) (bigE : Int) (p : Nat) : Nat × Int × Bool :=
  let shift := (p : Int) - bigE
  let (num, den) :=
    if 0 ≤ shift then (n * Nat.pow 10 shift.toNat, d) else (n, d * Nat.pow 10 (-shift).toNat)
  let q := num / den
  let r := num % den
  (q, -shift, den < 2 * r ∨ (2 * r = den ∧ q % 2 = 1))

/-- `n / d` rounded to `p` significant digits, ties to even: digits `q` and exponent `e`
with the value `q · 10^e`, given the decimal exponent `E` of `n / d`. -/
def roundTo (n d : Nat) (bigE : Int) (p : Nat) : Nat × Int :=
  let (q, e, up) := neighbours n d bigE p
  (if up then q + 1 else q, e)

/-- Drop trailing zeros of the digits, raising the exponent. -/
def trimZeros : Nat → Nat × Int → Nat × Int
  | 0, r => r
  | fuel + 1, (q, e) => if q ≠ 0 ∧ q % 10 = 0 then trimZeros fuel (q / 10, e + 1) else (q, e)

/-- The first precision from `p` to 17 at which one of the two neighbouring decimals reads
back as `x`; when both do, the nearer one. -/
def shortestFrom (x : Float) (n d : Nat) (bigE : Int) : Nat → Nat → Nat × Int
  | 0, _ => roundTo n d bigE 17
  | fuel + 1, p =>
    let (q, e, up) := neighbours n d bigE p
    let (near, far) := if up then (q + 1, q) else (q, q + 1)
    let reads (c : Nat) : Bool := (toDouble c e).toBits == x.toBits
    if reads near then (near, e)
    else if reads far then (far, e)
    else shortestFrom x n d bigE fuel (p + 1)

/-- The shortest decimal `q · 10^e` that reads back as the magnitude of the finite double
`x`, with no trailing zeros in `q`; zero is `(0, 0)`. -/
def shortest (x : Float) : Nat × Int :=
  let x := if isNegative x then -x else x
  let (n, d) := ratio x
  if n = 0 then (0, 0) else
  let (q, e) := shortestFrom x n d (decimalExponent n d) 17 1
  trimZeros 20 (q, e)

/-- `q · 10^e` in positional notation: the digits with the point inside them, zeros after
them, or `0.` and zeros before them. -/
def positional (q : Nat) (e : Int) : String :=
  let s := toString q
  if 0 ≤ e then s ++ String.ofList (List.replicate e.toNat '0')
  else
    let k := (-e).toNat
    if k < s.length then String.ofList (s.toList.take (s.length - k)) ++ "." ++
      String.ofList (s.toList.drop (s.length - k))
    else "0." ++ String.ofList (List.replicate (k - s.length) '0') ++ s

/-- A double in plain notation, as the shortest round-trip digits without exponent:
`1.5`, `0.001`, `100`, `-0`, and `NaN`, `inf`, `-inf` for the values that have no digits. -/
def plain (x : Float) : String :=
  if x.isNaN then "NaN"
  else if x.isInf then (if isNegative x then "-inf" else "inf")
  else
    let (q, e) := shortest x
    (if isNegative x then "-" else "") ++ positional q e

/-- A double in plain notation with a point: `.0` is added to finite values written without
one. -/
def withPoint (x : Float) : String :=
  let s := plain x
  if x.isNaN || x.isInf || s.contains '.' then s else s ++ ".0"

end Decimal

end Resilience
