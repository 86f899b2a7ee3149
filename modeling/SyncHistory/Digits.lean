/-!
# Digits

Reading and writing whole numbers in a positional system. `nat?` reads a run of digits and refuses
everything else, `ofNat` writes the run without leading zeros.
-/

namespace SyncHistory.Digits

/-- The value of a character as a digit of a base up to 36, letters in either case. -/
def value? (base : Nat) (c : Char) : Option Nat :=
  let n := c.toNat
  let v :=
    if 48 ≤ n ∧ n ≤ 57 then n - 48
    else if 97 ≤ n ∧ n ≤ 122 then n - 87
    else if 65 ≤ n ∧ n ≤ 90 then n - 55
    else base
  if v < base then some v else none

/-- Is the character a decimal digit? -/
def isDecimal (c : Char) : Bool :=
  (value? 10 c).isSome

/-- Continues the number read so far with further digits. -/
def continueNat? (base : Nat) : Nat → List Char → Option Nat
  | n, [] => some n
  | n, c :: cs =>
    match value? base c with
    | some d => continueNat? base (n * base + d) cs
    | none => none

/-- The number written by a run of at least one digit and nothing else. -/
def nat? (base : Nat) : List Char → Option Nat
  | [] => none
  | cs => continueNat? base 0 cs

/-- A decimal integer: an optional sign and at least one digit. -/
def int? : List Char → Option Int
  | '-' :: cs => (nat? 10 cs).map fun n => -(n : Int)
  | '+' :: cs => (nat? 10 cs).map fun n => (n : Int)
  | cs => (nat? 10 cs).map fun n => (n : Int)

/-- The decimal digits of a number, without leading zeros. -/
def ofNat (n : Nat) : List Char :=
  Nat.toDigits 10 n

/-- The decimal digits of a number behind as many zeros as the width asks for. -/
def padded (width n : Nat) : List Char :=
  List.leftpad width '0' (ofNat n)

/-- An integer in decimal, with a sign if it is negative. -/
def ofInt : Int → List Char
  | .ofNat n => ofNat n
  | .negSucc n => '-' :: ofNat (n + 1)

/-- The decimal text of a number. -/
def natText (n : Nat) : String := String.ofList (ofNat n)

/-- The decimal text of an integer. -/
def intText (n : Int) : String := String.ofList (ofInt n)

/-- Is the integer representable in that many bits, two's complement? -/
def fitsSigned (bits : Nat) (n : Int) : Bool :=
  let bound : Int := Nat.pow 2 (bits - 1)
  n < bound && -bound ≤ n

/-- Is the integer representable in that many bits, unsigned? -/
def fitsUnsigned (bits : Nat) (n : Int) : Bool :=
  let bound : Int := Nat.pow 2 bits
  0 ≤ n && n < bound

end SyncHistory.Digits
