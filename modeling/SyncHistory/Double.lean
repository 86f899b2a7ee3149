import SyncHistory.Digits

/-!
# Binary64 numbers

Finite floating-point numbers as exact data: a sign, a mantissa and a power of two. Arithmetic is
exact arithmetic on ratios of natural numbers followed by one rounding (`Double.ofRatio`), nearest
first and a tie to the even mantissa. `Double.shortest` finds the fewest decimal digits that read
back as the same number, and the two layouts of these digits are `Double.text`, which keeps a decimal
point and uses an exponent for very large and very small numbers, and `Double.plainText`, which
never does.
-/

namespace SyncHistory

/-- The number `± mantissa * 2 ^ exponent`. Rounding gives every number one such form: the mantissa
has 53 bits, or fewer with the exponent -1074. -/
structure Double where
  negative : Bool
  mantissa : Nat
  exponent : Int
deriving DecidableEq

namespace Double

/-- The number of bits of a full mantissa. -/
def precision : Nat := 53

/-- The least full mantissa. -/
def leadingBit : Nat := Nat.pow 2 (precision - 1)

/-- The smallest and the largest exponent of a mantissa read as a whole number. -/
def minExponent : Int := -1074

@[inherit_doc minExponent]
def maxExponent : Int := 971

/-- Zero with a sign. -/
def zero (negative : Bool) : Double := ⟨negative, 0, minExponent⟩

/-- The whole number nearest to a ratio, an exact half going to the even neighbour. -/
def roundHalfEven (num den : Nat) : Nat :=
  let q := num / den
  let r := num % den
  if 2 * r > den ∨ (2 * r = den ∧ q % 2 = 1) then q + 1 else q

/-- The ratio `num / den` divided by a power of two, as a ratio. -/
def scale (num den : Nat) (exponent : Int) : Nat × Nat :=
  if 0 ≤ exponent then (num, den * Nat.pow 2 exponent.toNat)
  else (num * Nat.pow 2 (-exponent).toNat, den)

/-- The number nearest to a ratio; `none` beyond the largest finite one. -/
def ofRatio (negative : Bool) (num den : Nat) : Option Double :=
  if num = 0 then some (zero negative)
  else
    let guess : Int := (num.log2 : Int) - den.log2 - (precision - 1)
    let (n, d) := scale num den guess
    let exponent := max (if n < d * leadingBit then guess - 1 else guess) minExponent
    let (n, d) := scale num den exponent
    let m := roundHalfEven n d
    let (m, exponent) := if m = 2 * leadingBit then (leadingBit, exponent + 1) else (m, exponent)
    if exponent > maxExponent then none else some ⟨negative, m, exponent⟩

/-- The absolute value as a ratio. -/
def toRatio (x : Double) : Nat × Nat :=
  if 0 ≤ x.exponent then (x.mantissa * Nat.pow 2 x.exponent.toNat, 1)
  else (x.mantissa, Nat.pow 2 (-x.exponent).toNat)

/-- The number nearest to an integer. -/
def ofInt (n : Int) : Option Double :=
  ofRatio (n < 0) n.natAbs 1

/-- The product, rounded. -/
def mul (x y : Double) : Option Double :=
  let (a, b) := x.toRatio
  let (c, d) := y.toRatio
  ofRatio (x.negative != y.negative) (a * c) (b * d)

/-- The quotient, rounded; `none` for a zero divisor. -/
def div (x y : Double) : Option Double :=
  let (a, b) := x.toRatio
  let (c, d) := y.toRatio
  if c = 0 then none else ofRatio (x.negative != y.negative) (a * d) (b * c)

/-- Is the number a whole number? -/
def isWhole (x : Double) : Bool :=
  let (a, b) := x.toRatio
  a % b == 0

/-- The number as a signed ratio with a positive denominator. -/
def toSignedRatio (x : Double) : Int × Nat :=
  let (a, b) := x.toRatio
  (if x.negative then -(a : Int) else a, b)

/-- The fractional part, with the sign of the number, as a signed ratio. -/
def fraction (x : Double) : Int × Nat :=
  let (a, b) := x.toRatio
  let r := a % b
  (if x.negative then -(r : Int) else r, b)

/-! ## From decimals -/

/-- The power of ten nearest to which the scaling of a decimal goes in one step. -/
def maxTenPower : Nat := 308

/-- A power of ten, rounded. -/
def tenPower (n : Nat) : Option Double :=
  ofRatio false (Nat.pow 10 n) 1

/-- Divides by `10 ^ 308` until the exponent is a power of ten that can be represented, or nothing is
left. Three steps take every number to zero. -/
def scaleDown : (steps : Nat) → Double → Nat → Option Double
  | 0, x, _ => some (zero x.negative)
  | steps + 1, x, n =>
    if n ≤ maxTenPower then
      match tenPower n with
      | some p => x.div p
      | none => none
    else if x.mantissa = 0 then some x
    else match tenPower maxTenPower with
      | some p =>
        match x.div p with
        | some y => scaleDown steps y (n - maxTenPower)
        | none => none
      | none => none

/-- The number for `significand * 10 ^ exponent`, in two roundings: the significand first, then its
product or quotient with the power of ten. `none` beyond the largest finite number. -/
def ofDecimal (negative : Bool) (significand : Nat) (exponent : Int) : Option Double :=
  match ofRatio negative significand 1 with
  | none => none
  | some x =>
    if 0 ≤ exponent then
      if exponent.toNat ≤ maxTenPower then
        match tenPower exponent.toNat with
        | some p => x.mul p
        | none => none
      else if x.mantissa = 0 then some x else none
    else scaleDown 4 x (-exponent).toNat

/-! ## To decimals -/

/-- The number of decimal digits before the point of a ratio, one or less for a ratio below one:
the `e` with `10 ^ (e - 1) ≤ num / den < 10 ^ e`. -/
def decimalOrder (num den : Nat) : Int :=
  if den ≤ num then (Digits.ofNat (num / den)).length
  else
    let shift := ((List.range 400).find? fun j => den ≤ num * Nat.pow 10 j).getD 400
    1 - (shift : Int)

/-- Is the ratio inside the interval whose numbers round to `x`? The ends belong to it when the
mantissa is even. -/
def roundsTo (x : Double) (num den : Nat) : Bool :=
  let (a, b) := x.toRatio
  -- four steps make up the distance to the next number above, written as a ratio over `4 * b`
  let (unit, b4) := if 0 ≤ x.exponent then (Nat.pow 2 x.exponent.toNat, 4 * b) else (1, 4 * b)
  let below := if x.mantissa = leadingBit ∧ x.exponent > minExponent then unit else 2 * unit
  let low := 4 * a - below
  let high := 4 * a + 2 * unit
  let closed := x.mantissa % 2 == 0
  let lowSide := low * den
  let mid := num * b4
  let highSide := high * den
  if closed then lowSide ≤ mid && mid ≤ highSide else lowSide < mid && mid < highSide

/-- `digits * 10 ^ exponent` as a ratio. -/
def decimalRatio (digits : Nat) (exponent : Int) : Nat × Nat :=
  if 0 ≤ exponent then (digits * Nat.pow 10 exponent.toNat, 1)
  else (digits, Nat.pow 10 (-exponent).toNat)

/-- The neighbour of `x` on the decimal grid `10 ^ exponent` that reads back as `x`, if one does; of
two the nearer one, and the even one of two equally near. -/
def onGrid (x : Double) (exponent : Int) : Option Nat :=
  let (a, b) := x.toRatio
  let (n, d) :=
    if 0 ≤ exponent then (a, b * Nat.pow 10 exponent.toNat) else (a * Nat.pow 10 (-exponent).toNat, b)
  let floor := n / d
  let nearest := roundHalfEven n d
  let other := if nearest = floor then floor + 1 else floor
  let fits (k : Nat) : Bool :=
    let (p, q) := decimalRatio k exponent
    0 < k && x.roundsTo p q
  if fits nearest then some nearest else if fits other then some other else none

/-- Drops trailing zeros of a decimal, raising its exponent instead. -/
def stripZeros : (steps : Nat) → Nat → Int → Nat × Int
  | 0, digits, exponent => (digits, exponent)
  | steps + 1, digits, exponent =>
    if digits % 10 = 0 ∧ digits ≠ 0 then stripZeros steps (digits / 10) (exponent + 1)
    else (digits, exponent)

/-- The fewest decimal digits that read back as the number, as `(digits, exponent)`; no number needs
more than seventeen. -/
def shortest (x : Double) : Nat × Int :=
  if x.mantissa = 0 then (0, 0)
  else
    let (a, b) := x.toRatio
    let order := decimalOrder a b
    let found := (List.range 17).findSome? fun (k : Nat) =>
      (x.onGrid (order - 1 - k)).map fun digits => (digits, order - 1 - (k : Int))
    match found with
    | some (digits, exponent) => stripZeros 20 digits exponent
    | none => (0, 0)

/-- The digits with a decimal point after the first `point` of them, where `point` may lie outside. -/
def layPoint (digits : List Char) (point : Int) : List Char :=
  if point ≤ 0 then '0' :: '.' :: List.replicate (-point).toNat '0' ++ digits
  else if point.toNat < digits.length then
    digits.take point.toNat ++ '.' :: digits.drop point.toNat
  else digits ++ List.replicate (point.toNat - digits.length) '0'

/-- The text of a number in a document: the point is always written, numbers below `1e-5` and from
`1e16` on have an exponent. -/
def text (x : Double) : String :=
  let sign := if x.negative then ['-'] else []
  let (digits, exponent) := x.shortest
  let ds := Digits.ofNat digits
  let point : Int := ds.length + exponent
  let body :=
    if digits = 0 then "0.0".toList
    else if -5 < point ∧ point ≤ 16 then
      if 0 ≤ exponent then layPoint ds point ++ ".0".toList else layPoint ds point
    else
      let mantissa := match ds with
        | [d] => [d]
        | d :: rest => d :: '.' :: rest
        | [] => []
      mantissa ++ 'e' :: Digits.ofInt (point - 1)
  String.ofList (sign ++ body)

/-- The text of a number without an exponent, and without a point if it is whole. -/
def plainText (x : Double) : String :=
  let sign := if x.negative then ['-'] else []
  let (digits, exponent) := x.shortest
  let ds := Digits.ofNat digits
  String.ofList (sign ++ if digits = 0 then ['0'] else layPoint ds (ds.length + exponent))

end Double

end SyncHistory
