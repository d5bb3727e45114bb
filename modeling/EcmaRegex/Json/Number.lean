/-!
# Numbers of JSON text

A JSON number is kept as the reader classifies it: a non-negative integer below `2 ^ 64`, a
negative integer of at least `-2 ^ 63`, or otherwise a binary64 floating-point value.

The binary64 value of a literal is computed the way a fast reader computes it, not by one
correct rounding: the digits are gathered into a 64-bit significand (digits that no longer
fit are dropped, an integer digit raising the decimal exponent instead), the significand is
rounded to binary64, and the result is multiplied or divided by the binary64 power of ten,
rounding again.  Exponents beyond the table of powers divide by `1e308` first.  A positive
result too large for binary64 is an error, as is an exponent beyond `2 ^ 31 - 1` on a non-zero
significand.

Error messages name a floating-point value by its shortest decimal form, the one with the
fewest significant digits that still rounds back to the same binary64 value, written without
an exponent and always with a decimal point: `1.5`, `100000.0`, `0.0000001`.

All arithmetic is on integers: a finite binary64 value is `significand × 2 ^ exponent`, and
each rounding or comparison is made exact by scaling to natural numbers.
-/

namespace EcmaRegex

/-- A binary64 value `± significand × 2 ^ exponent` with the significand below `2 ^ 53` and the
exponent at least `-1074`, or an infinite value when `infinite` is set. -/
structure Binary64 where
  negative : Bool
  significand : Nat
  exponent : Int
  infinite : Bool := false
  deriving DecidableEq, Repr, Inhabited

/-- A JSON number as the reader keeps it. -/
inductive JsonNumber where
  /-- A non-negative integer below `2 ^ 64`. -/
  | unsigned (n : Nat)
  /-- A negative integer of at least `-2 ^ 63`. -/
  | signed (n : Int)
  /-- Any other number, as a binary64 value. -/
  | float (x : Binary64)
  deriving DecidableEq, Repr, Inhabited

namespace Binary64

/-- Positive or negative zero. -/
def zero (negative : Bool) : Binary64 := ⟨negative, 0, -1074, false⟩

/-- Whether the value is zero. -/
def isZero (x : Binary64) : Bool := !x.infinite && x.significand == 0

/-- The same magnitude with the sign flipped. -/
def neg (x : Binary64) : Binary64 := { x with negative := !x.negative }

/-- The number of binary digits of `n`; zero for zero. -/
def bitLength (n : Nat) : Nat := if n = 0 then 0 else Nat.log2 n + 1

/-- `a × 2 ^ p` as a natural number over a natural denominator, for any integer `p`. -/
def scale2 (a : Nat) (p : Int) : Nat × Nat :=
  if 0 ≤ p then (a * Nat.pow 2 p.toNat, 1) else (a, Nat.pow 2 (-p).toNat)

/-- `a × 10 ^ p` as a natural number over a natural denominator, for any integer `p`. -/
def scale10 (a : Nat) (p : Int) : Nat × Nat :=
  if 0 ≤ p then (a * Nat.pow 10 p.toNat, 1) else (a, Nat.pow 10 (-p).toNat)

/-- The comparison of the fractions `a / b` and `c / d`. -/
def compareFrac (a b c d : Nat) : Ordering := compare (a * d) (c * b)

/-- Round `num / den` to the nearest natural number, ties to even. -/
def roundHalfEven (num den : Nat) : Nat :=
  let q := num / den
  let r := num % den
  if 2 * r > den || (2 * r == den && q % 2 == 1) then q + 1 else q

/-- The binary64 value nearest to the fraction `num / den`, ties to even; infinite when it
is beyond the largest finite value. -/
def ofFraction (negative : Bool) (num den : Nat) : Binary64 :=
  if num = 0 then zero negative
  else
    -- An exponent with `num / den / 2 ^ k` in `[2 ^ 52, 2 ^ 54)`, then one step up if needed.
    let k0 : Int := (bitLength num : Int) - bitLength den - 53
    let (n0, d0) := scale2 den k0
    let k : Int := if compareFrac num 1 (n0 * Nat.pow 2 53) d0 != .lt then k0 + 1 else k0
    let k : Int := if k < -1074 then -1074 else k
    let (n, d) := scale2 den k
    let s := roundHalfEven (num * d) n
    let (s, k) := if s = Nat.pow 2 53 then (Nat.pow 2 52, k + 1) else (s, k)
    if k > 971 then ⟨negative, 0, 0, true⟩ else ⟨negative, s, k, false⟩

/-- The binary64 value nearest to a natural number. -/
def ofNat (n : Nat) : Binary64 := ofFraction false n 1

/-- The rounded product of two finite values. -/
def mul (x y : Binary64) : Binary64 :=
  let (n, d) := scale2 (x.significand * y.significand) (x.exponent + y.exponent)
  ofFraction (x.negative != y.negative) n d

/-- The rounded quotient of two finite values, the divisor not zero. -/
def div (x y : Binary64) : Binary64 :=
  let (n, d) := scale2 x.significand (x.exponent - y.exponent)
  ofFraction (x.negative != y.negative) n (d * y.significand)

/-- The binary64 value of `10 ^ k`. -/
def pow10 (k : Nat) : Binary64 := ofNat (Nat.pow 10 k)

/-- The value of `significand × 10 ^ exponent` computed by one multiplication or division by
a power of ten of at most `1e308`, after dividing by `1e308` while the exponent is below
`-308`.  `none` when the result overflows. -/
def scaleByPowerOfTen (f : Binary64) (exponent : Int) : Nat → Option Binary64
  | 0 => some f
  | fuel + 1 =>
    if exponent.natAbs ≤ 308 then
      if 0 ≤ exponent then
        let g := mul f (pow10 exponent.natAbs)
        if g.infinite then none else some g
      else some (div f (pow10 exponent.natAbs))
    else if f.isZero then some f
    else if 0 ≤ exponent then none
    else scaleByPowerOfTen (div f (pow10 308)) (exponent + 308) fuel

/-- The value of a 64-bit significand and a decimal exponent, or `none` when it overflows.
Dividing by `1e308` at most twice brings any significand to zero, so three rounds suffice. -/
def ofParts (negative : Bool) (significand : Nat) (exponent : Int) : Option Binary64 :=
  (scaleByPowerOfTen (ofNat significand) exponent 4).map fun f =>
    if negative then f.neg else f

/-- Whether `a × 10 ^ p` is at most (or, when `strict`, below) `b × 2 ^ q`. -/
def decimalBelow (strict : Bool) (a : Nat) (p : Int) (b : Nat) (q : Int) : Bool :=
  let (n1, d1) := scale10 a p
  let (n2, d2) := scale2 b q
  let o := compareFrac n1 d1 n2 d2
  if strict then o == .lt else o != .gt

/-- Whether `b × 2 ^ q` is at most (or, when `strict`, below) `a × 10 ^ p`. -/
def decimalAbove (strict : Bool) (a : Nat) (p : Int) (b : Nat) (q : Int) : Bool :=
  let (n1, d1) := scale10 a p
  let (n2, d2) := scale2 b q
  let o := compareFrac n2 d2 n1 d1
  if strict then o == .lt else o != .gt

/-- The exponent `e` with `10 ^ e ≤ s × 2 ^ k < 10 ^ (e + 1)`, for a positive `s`, found by
stepping from an estimate. -/
def decimalExponent (s : Nat) (k : Int) : Int :=
  let estimate : Int := ((bitLength s : Int) + k - 1) * 30103 / 100000
  let down := fun (e : Int) => !decimalBelow false 1 e s k
  let up := fun (e : Int) => decimalBelow false 1 (e + 1) s k
  let e := (List.range 4).foldl (fun e _ => if down e then e - 1 else e) estimate
  (List.range 4).foldl (fun e _ => if up e then e + 1 else e) e

/-- The shortest digits `d` and power `p` with `d × 10 ^ p` inside the rounding interval of the
positive value `s × 2 ^ k`; among candidates of that length the nearer one, ties to an even
last digit. -/
def shortest (s : Nat) (k : Int) : Nat × Int :=
  -- Bounds in units of 2 ^ (k - 2): the value is 4s, the interval runs from `low` to 4s + 2.
  let q := k - 2
  let value := 4 * s
  let high := 4 * s + 2
  let low := if s = Nat.pow 2 52 && k > -1074 then 4 * s - 1 else 4 * s - 2
  let inclusive := s % 2 == 0
  let inside := fun (d : Nat) (p : Int) =>
    decimalAbove (!inclusive) d p low q && decimalBelow (!inclusive) d p high q
  let e := decimalExponent s k
  let candidate := fun (n : Nat) =>
    let p : Int := e - n + 1
    let (vn, vd) := scale2 value q
    let (tn, td) := scale10 1 p
    let below := (vn * td) / (vd * tn)
    let above := below + 1
    -- Compare the value with the midpoint (2 below + 1) / 2 × 10 ^ p.
    let mid := compareFrac (2 * vn) vd ((2 * below + 1) * tn) td
    let preferAbove := mid == .gt || (mid == .eq && below % 2 == 1)
    let first := if preferAbove then above else below
    let second := if preferAbove then below else above
    if inside first p then some (first, p)
    else if inside second p then some (second, p)
    else none
  match (List.range 17).findSome? (fun i => candidate (i + 1)) with
  | some r => r
  | none => (s, k)

/-- Strip the trailing zeros of `d`, raising the power to match. -/
def stripZeros (d : Nat) (p : Int) : Nat × Int :=
  (List.range 20).foldl (fun (d, p) _ => if d ≠ 0 && d % 10 == 0 then (d / 10, p + 1) else (d, p))
    (d, p)

/-- Digits `ds` times `10 ^ (e - ds.length)`, written without an exponent. -/
def placeDigits (ds : String) (e : Int) : String :=
  let len : Int := ds.length
  if e ≤ 0 then "0." ++ String.ofList (List.replicate (-e).toNat '0') ++ ds
  else if e < len then
    String.ofList (ds.toList.take e.toNat) ++ "." ++ String.ofList (ds.toList.drop e.toNat)
  else ds ++ String.ofList (List.replicate (e - len).toNat '0')

/-- The value written as the shortest decimal without an exponent, always with a decimal
point; `inf` for an infinite value. -/
def text (x : Binary64) : String :=
  let sign := if x.negative then "-" else ""
  if x.infinite then sign ++ "inf"
  else if x.significand = 0 then sign ++ "0.0"
  else
    let (d, p) := shortest x.significand x.exponent
    let (d, p) := stripZeros d p
    let ds := toString d
    let body := placeDigits ds (p + ds.length)
    sign ++ (if body.contains '.' then body else body ++ ".0")

end Binary64

/-- A number literal taken apart: its sign, the digits before the point, the digits after it
(none when there is no point), and the exponent's sign and digits when there is one. -/
structure NumberLiteral where
  negative : Bool
  integer : List Nat
  fraction : List Nat := []
  exponent : Option (Bool × List Nat) := none
  deriving DecidableEq, Repr, Inhabited

/-- Why a literal has no value: it overflows binary64, or its exponent overflows 32 bits at
the digit with the given index on a non-zero significand. -/
inductive NumberFault where
  | outOfRange
  | exponentOverflow (digit : Nat)
  deriving DecidableEq, Repr

namespace NumberLiteral

/-- The largest 64-bit unsigned value. -/
def u64Max : Nat := Nat.pow 2 64 - 1

/-- The largest 32-bit signed value. -/
def i32Max : Nat := Nat.pow 2 31 - 1

/-- Whether `value × 10 + digit` exceeds `limit`. -/
def overflows (value digit limit : Nat) : Bool := value * 10 + digit > limit

/-- Gather integer digits into a significand; once one does not fit, it and every digit after
it raise the exponent instead. -/
def gatherInteger (significand : Nat) (exponent : Int) (overflowed : Bool) :
    List Nat → Nat × Int × Bool
  | [] => (significand, exponent, overflowed)
  | d :: ds =>
    if overflowed || overflows significand d u64Max then gatherInteger significand (exponent + 1) true ds
    else gatherInteger (significand * 10 + d) exponent false ds

/-- Gather fraction digits into a significand, each lowering the exponent; from the first one
that does not fit on, the digits are dropped. -/
def gatherFraction (significand : Nat) (exponent : Int) : List Nat → Nat × Int
  | [] => (significand, exponent)
  | d :: ds =>
    if overflows significand d u64Max then (significand, exponent)
    else gatherFraction (significand * 10 + d) (exponent - 1) ds

/-- Read exponent digits into a 32-bit value; `Sum.inl i` when the digit at index `i` makes it
overflow. -/
def gatherExponent (value index : Nat) : List Nat → Sum Nat Nat
  | [] => .inr value
  | d :: ds =>
    if overflows value d i32Max then .inl index else gatherExponent (value * 10 + d) (index + 1) ds

/-- Clamp to the 32-bit signed range. -/
def clampI32 (n : Int) : Int :=
  if n < -2147483648 then -2147483648 else if 2147483647 < n then 2147483647 else n

/-- The value of the literal. -/
def evaluate (lit : NumberLiteral) : Except NumberFault JsonNumber :=
  let (significand, exponent, overflowed) := gatherInteger 0 0 false lit.integer
  let float := fun (significand : Nat) (exponent : Int) =>
    match Binary64.ofParts lit.negative significand exponent with
    | some f => .ok (JsonNumber.float f)
    | none => .error NumberFault.outOfRange
  let (significand, exponent) :=
    if lit.fraction.isEmpty then (significand, exponent)
    else gatherFraction significand exponent lit.fraction
  match lit.exponent with
  | none =>
    if !overflowed && lit.fraction.isEmpty then
      if !lit.negative then .ok (.unsigned significand)
      else if significand = 0 || significand > Nat.pow 2 63 then float significand 0
      else .ok (.signed (-(significand : Int)))
    else float significand exponent
  | some (positive, digits) =>
    match gatherExponent 0 0 digits with
    | .inl i =>
      if significand ≠ 0 && positive then .error (.exponentOverflow i)
      else .ok (.float (Binary64.zero lit.negative))
    | .inr e =>
      float significand (clampI32 (if positive then exponent + e else exponent - e))

end NumberLiteral

end EcmaRegex
