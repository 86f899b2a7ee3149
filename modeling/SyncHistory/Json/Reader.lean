import SyncHistory.Json.Basic

/-!
# Reading JSON

`Json.read?` reads a whole document and refuses everything that is not one. Whole numbers of up to 64
bits stay whole; longer ones and those with a fraction or an exponent become binary64 numbers, of
which only as many digits count as fit 64 bits. Arrays and objects nest at most 127 deep.
-/

namespace SyncHistory.Json

/-- How deep arrays and objects may nest, plus one. -/
def maxDepth : Nat := 128

/-- The largest whole number without a sign. -/
def maxUnsigned : Nat := 18446744073709551615

/-- The largest whole number behind a minus sign. -/
def maxNegated : Nat := 9223372036854775808

/-- Blanks between the parts of a document. -/
def isSpace (c : Char) : Bool :=
  c == ' ' || c == '\n' || c == '\t' || c == '\r'

/-- Drops blanks in front. -/
def skipSpace (cs : List Char) : List Char :=
  cs.dropWhile isSpace

/-! ## Numbers -/

/-- Adds digits to a significand as long as it fits 64 bits; also the number of digits left over. -/
def takeDigits : Nat → List Char → Nat × Nat
  | significand, [] => (significand, 0)
  | significand, c :: cs =>
    let next := significand * 10 + (Digits.value? 10 c).getD 0
    if next ≤ maxUnsigned then takeDigits next cs else (significand, cs.length + 1)

/-- The number for a sign, the digits before the point, those after it, and the exponent. Without a
fraction and an exponent it stays whole where 64 bits are enough; a negative zero never does. -/
def numberOf? (negative : Bool) (whole : List Char) (fraction : Option (List Char))
    (exponent : Option Int) : Option Number :=
  let (significand, dropped) := takeDigits 0 whole
  match fraction, exponent with
  | none, none =>
    if dropped = 0 ∧ negative = false then some (.int significand)
    else if dropped = 0 ∧ 0 < significand ∧ significand ≤ maxNegated then some (.int (-(significand : Int)))
    else (Double.ofDecimal negative significand dropped).map .double
  | fraction, exponent =>
    let digits := fraction.getD []
    let (significand, left) := takeDigits significand digits
    let shift : Int := dropped - ((digits.length - left : Nat) : Int)
    (Double.ofDecimal negative significand (shift + exponent.getD 0)).map .double

/-- Splits a run of digits off the front. -/
def spanDigits (cs : List Char) : List Char × List Char :=
  (cs.takeWhile Digits.isDecimal, cs.dropWhile Digits.isDecimal)

/-- An exponent, if there is one: `none` is a malformed one. -/
def exponent? : List Char → Option (Option Int × List Char)
  | 'e' :: cs | 'E' :: cs =>
    let (negative, cs) := match cs with
      | '-' :: rest => (true, rest)
      | '+' :: rest => (false, rest)
      | rest => (false, rest)
    let (digits, rest) := spanDigits cs
    (Digits.nat? 10 digits).map fun n => (some (if negative then -(n : Int) else n), rest)
  | cs => some (none, cs)

/-- A fraction, if there is one: `none` is a point without digits. -/
def fraction? : List Char → Option (Option (List Char) × List Char)
  | '.' :: cs =>
    let (digits, rest) := spanDigits cs
    if digits.isEmpty then none else some (some digits, rest)
  | cs => some (none, cs)

/-- A number after its sign: no leading zeros. -/
def unsignedNumber? (negative : Bool) (cs : List Char) : Option (Number × List Char) := do
  let (whole, rest) := spanDigits cs
  guard (whole ≠ [] ∧ (whole.head? ≠ some '0' ∨ whole.length = 1))
  let (fraction, rest) ← fraction? rest
  let (exponent, rest) ← exponent? rest
  let n ← numberOf? negative whole fraction exponent
  some (n, rest)

def number? : List Char → Option (Number × List Char)
  | '-' :: cs => unsignedNumber? true cs
  | cs => unsignedNumber? false cs

/-! ## Strings -/

/-- Four hexadecimal digits. -/
def hex4? : List Char → Option (Nat × List Char)
  | a :: b :: c :: d :: rest => (Digits.nat? 16 [a, b, c, d]).map fun n => (n, rest)
  | _ => none

/-- A character given by its code, the second half of a pair included; `none` for half a pair. -/
def codedChar? (cs : List Char) : Option (Char × List Char) := do
  let (high, rest) ← hex4? cs
  if 0xD800 ≤ high ∧ high < 0xDC00 then
    match rest with
    | '\\' :: 'u' :: rest =>
      let (low, rest) ← hex4? rest
      if 0xDC00 ≤ low ∧ low < 0xE000 then
        some (Char.ofNat (0x10000 + (high - 0xD800) * 0x400 + (low - 0xDC00)), rest)
      else none
    | _ => none
  else if 0xDC00 ≤ high ∧ high < 0xE000 then none
  else some (Char.ofNat high, rest)

/-- The character for the letter after a backslash. -/
def escaped? : Char → Option Char
  | '"' => some '"'
  | '\\' => some '\\'
  | '/' => some '/'
  | 'b' => some (Char.ofNat 8)
  | 'f' => some (Char.ofNat 12)
  | 'n' => some '\n'
  | 'r' => some '\r'
  | 't' => some '\t'
  | _ => none

/-- The rest of a string after its opening quote, `seen` being the reversed start of it. Each character
spends fuel. -/
def stringRest? : (fuel : Nat) → (seen : List Char) → List Char → Option (String × List Char)
  | 0, _, _ => none
  | _ + 1, _, [] => none
  | _ + 1, seen, '"' :: rest => some (String.ofList seen.reverse, rest)
  | fuel + 1, seen, '\\' :: 'u' :: rest =>
    match codedChar? rest with
    | some (c, rest) => stringRest? fuel (c :: seen) rest
    | none => none
  | fuel + 1, seen, '\\' :: c :: rest =>
    match escaped? c with
    | some c => stringRest? fuel (c :: seen) rest
    | none => none
  | fuel + 1, seen, c :: rest =>
    if c.toNat < 32 ∨ c = '\\' then none else stringRest? fuel (c :: seen) rest

/-! ## Documents -/

mutual

/-- A value after optional blanks. Each step spends fuel, and a nested value takes one off the depth.
Every two steps get past a character, so fuel for twice as many characters never runs out. -/
def value? : (fuel depth : Nat) → List Char → Option (Json × List Char)
  | 0, _, _ => none
  | fuel + 1, depth, cs =>
    match skipSpace cs with
    | 'n' :: 'u' :: 'l' :: 'l' :: rest => some (.null, rest)
    | 't' :: 'r' :: 'u' :: 'e' :: rest => some (.bool true, rest)
    | 'f' :: 'a' :: 'l' :: 's' :: 'e' :: rest => some (.bool false, rest)
    | '"' :: rest => (stringRest? fuel [] rest).map fun (s, rest) => (.str s, rest)
    | '[' :: rest =>
      if depth ≤ 1 then none
      else match skipSpace rest with
        | ']' :: rest => some (.arr [], rest)
        | rest => (itemsBody? fuel (depth - 1) rest).map fun (items, rest) => (.arr items, rest)
    | '\x7b' :: rest =>
      if depth ≤ 1 then none
      else match skipSpace rest with
        | '\x7d' :: rest => some (.obj [], rest)
        | rest => (fieldsBody? fuel (depth - 1) rest).map fun (fields, rest) => (.obj fields, rest)
    | cs => (number? cs).map fun (n, rest) => (.num n, rest)

/-- One or more items and the closing bracket. -/
def itemsBody? : (fuel depth : Nat) → List Char → Option (List Json × List Char)
  | 0, _, _ => none
  | fuel + 1, depth, cs =>
    match value? fuel depth cs with
    | none => none
    | some (j, rest) =>
      match skipSpace rest with
      | ']' :: rest => some ([j], rest)
      | ',' :: rest => (itemsBody? fuel depth rest).map fun (items, rest) => (j :: items, rest)
      | _ => none

/-- One or more fields and the closing brace. -/
def fieldsBody? : (fuel depth : Nat) → List Char → Option (List (String × Json) × List Char)
  | 0, _, _ => none
  | fuel + 1, depth, cs =>
    match skipSpace cs with
    | '"' :: rest =>
      match stringRest? fuel [] rest with
      | none => none
      | some (name, rest) =>
        match skipSpace rest with
        | ':' :: rest =>
          match value? fuel depth rest with
          | none => none
          | some (j, rest) =>
            match skipSpace rest with
            | '\x7d' :: rest => some ([(name, j)], rest)
            | ',' :: rest =>
              (fieldsBody? fuel depth rest).map fun (fields, rest) => ((name, j) :: fields, rest)
            | _ => none
        | _ => none
    | _ => none

end

/-- Reads a text that is one document, with fields in the order of the text, repetitions included. -/
def read? (s : String) : Option Json :=
  let cs := s.toList
  match value? (2 * cs.length + 2) maxDepth cs with
  | some (j, rest) => if (skipSpace rest).isEmpty then some j else none
  | none => none

end SyncHistory.Json
