import Resilience.Number.Decimal

/-!
# Plain scalars

A plain scalar in a configuration file may stand for nothing, a boolean, an integer or a
float, and otherwise it is text. This module reads each of those forms the way the
configuration reader does:

* nothing is the empty text, `null`, `Null`, `NULL` or `~`;
* a boolean is `true`, `True`, `TRUE`, `false`, `False` or `FALSE`;
* an unsigned integer is decimal digits after at most one `+`, or hexadecimal, octal or
  binary digits after `0x`, `0o` or `0b`; a negative one is `-` and the same. Decimal
  digits with a leading zero, like `012`, are text;
* a float is `.inf`, `-.inf` or `.nan` in three spellings, or a finite decimal with
  optional sign, point and exponent.

## Main definitions

* `Scalar.isNull`, `Scalar.bool?`: Nothing and booleans.
* `Scalar.unsigned?`, `Scalar.negative?`: Integers below a bound.
* `Scalar.float?`: Floats.
* `Scalar.leadingZeroDigits`: Digits that are text because of a leading zero.
-/

namespace Resilience

namespace Yaml

namespace Scalar

/-- Whether the text stands for nothing. -/
def isNull (s : String) : Bool :=
  s.isEmpty || s == "null" || s == "Null" || s == "NULL" || s == "~"

/-- The boolean the text stands for. -/
def bool? (s : String) : Option Bool :=
  if s == "true" || s == "True" || s == "TRUE" then some true
  else if s == "false" || s == "False" || s == "FALSE" then some false
  else none

/-- The value of a digit in a radix of at most 36. -/
def digitValue (radix : Nat) (c : Char) : Option Nat :=
  let v :=
    if '0' ≤ c && c ≤ '9' then c.toNat - '0'.toNat
    else if 'a' ≤ c && c ≤ 'z' then c.toNat - 'a'.toNat + 10
    else if 'A' ≤ c && c ≤ 'Z' then c.toNat - 'A'.toNat + 10
    else 36
  if v < radix then some v else none

/-- The value of a non-empty string of digits in a radix. -/
def digits? (radix : Nat) (cs : List Char) : Option Nat :=
  if cs.isEmpty then none
  else cs.foldlM (fun acc c => (digitValue radix c).map (acc * radix + ·)) 0

/-- Whether the text, after at most one sign, is a zero followed by more decimal digits:
such text is not a number. -/
def leadingZeroDigits (s : String) : Bool :=
  let cs := match s.toList with
    | '-' :: rest => rest
    | '+' :: rest => rest
    | cs => cs
  match cs with
  | '0' :: rest => !rest.isEmpty && rest.all Char.isDigit
  | _ => false

/-- The radix a prefix of the text names, and the digits after it. -/
def radixPrefix (cs : List Char) : Option (Nat × List Char) :=
  match cs with
  | '0' :: 'x' :: rest => some (16, rest)
  | '0' :: 'o' :: rest => some (8, rest)
  | '0' :: 'b' :: rest => some (2, rest)
  | _ => none

/-- The unsigned integer below `bound` the text stands for. -/
def unsigned? (bound : Nat) (s : String) : Option Nat :=
  let cs := match s.toList with
    | '+' :: rest => rest
    | cs => cs
  let inRange (n : Nat) : Option Nat := if n < bound then some n else none
  let prefixed : Option Nat := match radixPrefix cs with
    | some (radix, rest) =>
      if rest.head? == some '+' || rest.head? == some '-' then none
      else (digits? radix rest).bind inRange
    | none => none
  match prefixed with
  | some n => some n
  | none =>
    if (radixPrefix cs).isSome && (cs.drop 2).head?.any (fun c => c == '+' || c == '-') then none
    else if cs.head? == some '+' || cs.head? == some '-' then none
    else if leadingZeroDigits s then none
    else (digits? 10 cs).bind inRange

/-- The integer of at least `-bound` the text stands for, read as a signed integer: a
prefixed negative number, or decimal digits after an optional sign. -/
def negative? (bound : Nat) (s : String) : Option Int :=
  let inRange (neg : Bool) (n : Nat) : Option Int :=
    if neg then (if n ≤ bound then some (-(n : Int)) else none)
    else if n < bound then some (n : Int) else none
  let prefixed : Option Int := match s.toList with
    | '-' :: rest =>
      match radixPrefix rest with
      | some (radix, ds) => (digits? radix ds).bind (inRange true)
      | none => none
    | _ => none
  match prefixed with
  | some i => some i
  | none =>
    if leadingZeroDigits s then none
    else match s.toList with
      | '-' :: ds => if ds.isEmpty then none else (digits? 10 ds).bind (inRange true)
      | '+' :: ds => if ds.isEmpty then none else (digits? 10 ds).bind (inRange false)
      | ds => (digits? 10 ds).bind (inRange false)

/-- The digits of a decimal number with optional point and exponent: the digits as one
number, and the power of ten to scale them by. At least one digit must come before or after
the point, and an exponent needs digits. -/
def decimal? (cs : List Char) : Option (Nat × Int) :=
  let whole := cs.takeWhile Char.isDigit
  let rest := cs.drop whole.length
  let (fraction, rest) := match rest with
    | '.' :: more => (more.takeWhile Char.isDigit, more.drop (more.takeWhile Char.isDigit).length)
    | _ => ([], rest)
  if whole.isEmpty && fraction.isEmpty then none else
  let exponent : Option Int := match rest with
    | [] => some 0
    | e :: more =>
      if e == 'e' || e == 'E' then
        let (neg, ds) := match more with
          | '-' :: ds => (true, ds)
          | '+' :: ds => (false, ds)
          | ds => (false, ds)
        (digits? 10 ds).map fun n => if neg then -(n : Int) else (n : Int)
      else none
  exponent.bind fun ex =>
    (digits? 10 (whole ++ fraction) |>.map fun m => (m, ex - fraction.length))

/-- The finite float, or the named infinity or not-a-number, the text stands for. -/
def float? (s : String) : Option Float :=
  let unsigned := match s.toList with
    | '+' :: rest => some rest
    | cs => some cs
  match unsigned with
  | none => none
  | some cs =>
    if s.toList.head? == some '+' && (cs.head? == some '+' || cs.head? == some '-') then none
    else
      let u := String.ofList cs
      if u == ".inf" || u == ".Inf" || u == ".INF" then some (1.0 / 0.0)
      else if s == "-.inf" || s == "-.Inf" || s == "-.INF" then some (-1.0 / 0.0)
      else if s == ".nan" || s == ".NaN" || s == ".NAN" then some (0.0 / 0.0)
      else
        let (neg, ds) := match cs with
          | '-' :: ds => (true, ds)
          | '+' :: ds => (false, ds)
          | ds => (false, ds)
        match decimal? ds with
        | some (m, e) =>
          let x := Decimal.toSignedDouble neg m e
          if x.isInf then none else some x
        | none => none

end Scalar

end Yaml

end Resilience
