import SyncHistory.Calendar
import SyncHistory.Double
import SyncHistory.Toml.Basic

/-!
# Reading TOML

`Toml.read?` reads a whole document of version 1.0 and refuses everything that is not one. A document is
a row of lines, each of which gives a value to a key, opens a table or holds nothing; a value may go on
over several lines. Arrays and inline tables nest at most 79 deep, and a key has at most 79 names.
-/

namespace SyncHistory.Toml

/-- How deep values may nest and how many names a key may have, plus one. -/
def maxDepth : Nat := 80

/-! ## Blanks and comments -/

/-- Blanks within a line. -/
def isSpace (c : Char) : Bool := c == ' ' || c == '\t'

/-- Drops blanks within a line. -/
def skipSpace (cs : List Char) : List Char := cs.dropWhile isSpace

/-- May the character stand in a comment or, apart from its quotes, in a string? No control character
may, save the tabulator. -/
def isPrintable (c : Char) : Bool := c == '\t' || (32 ≤ c.toNat && c.toNat != 127)

/-- Drops a line break, if there is one in front. -/
def lineBreak? : List Char → Option (List Char)
  | '\n' :: rest => some rest
  | '\r' :: '\n' :: rest => some rest
  | _ => none

/-- Drops a comment, if there is one in front. -/
def skipComment : List Char → List Char
  | '#' :: rest => rest.dropWhile isPrintable
  | cs => cs

/-- What follows the end of a line, which may have a comment; `none` if there is anything else. -/
def endLine? (cs : List Char) : Option (List Char) :=
  match skipComment (skipSpace cs) with
  | [] => some []
  | cs => lineBreak? cs

/-- Drops blanks, comments and line breaks. -/
def skipLines : (fuel : Nat) → List Char → List Char
  | 0, cs => cs
  | fuel + 1, cs =>
    let cs := skipComment (skipSpace cs)
    match lineBreak? cs with
    | some rest => skipLines fuel rest
    | none => cs

/-- Drops everything blank in front. -/
def skipBlank (cs : List Char) : List Char := skipLines (cs.length + 1) cs

/-! ## Strings -/

/-- A character given by exactly so many hexadecimal digits. -/
def coded? (digits : Nat) (cs : List Char) : Option (Char × List Char) := do
  guard (digits ≤ cs.length)
  let n ← Digits.nat? 16 (cs.take digits)
  guard (n.isValidChar)
  some (Char.ofNat n, cs.drop digits)

/-- The character that an escape stands for, after its backslash. -/
def escaped? : List Char → Option (Char × List Char)
  | 'b' :: rest => some (Char.ofNat 8, rest)
  | 't' :: rest => some ('\t', rest)
  | 'n' :: rest => some ('\n', rest)
  | 'f' :: rest => some (Char.ofNat 12, rest)
  | 'r' :: rest => some ('\r', rest)
  | '"' :: rest => some ('"', rest)
  | '\\' :: rest => some ('\\', rest)
  | 'u' :: rest => coded? 4 rest
  | 'U' :: rest => coded? 8 rest
  | _ => none

/-- A string after its opening quote. -/
def basic? : (fuel : Nat) → (seen : List Char) → List Char → Option (String × List Char)
  | 0, _, _ => none
  | _, seen, '"' :: rest => some (String.ofList seen.reverse, rest)
  | fuel + 1, seen, '\\' :: rest =>
    match escaped? rest with
    | some (c, rest) => basic? fuel (c :: seen) rest
    | none => none
  | fuel + 1, seen, c :: rest => if isPrintable c then basic? fuel (c :: seen) rest else none
  | _, _, [] => none

/-- A string without escapes, after its opening apostrophe. -/
def literal? : (seen : List Char) → List Char → Option (String × List Char)
  | seen, '\'' :: rest => some (String.ofList seen.reverse, rest)
  | seen, c :: rest => if isPrintable c then literal? (c :: seen) rest else none
  | _, [] => none

/-- The end of a string of several lines: three quotes, of which up to two more belong to the string. -/
def closing? (quote : Char) (seen : List Char) (cs : List Char) : Option (String × List Char) :=
  let run := (cs.takeWhile (· == quote)).length
  if 3 ≤ run then
    let extra := min (run - 3) 2
    some (String.ofList (List.replicate extra quote ++ seen).reverse, cs.drop (extra + 3))
  else none

/-- Drops a line break that follows a backslash, and everything blank up to the next character. -/
def skipFolded? (cs : List Char) : Option (List Char) :=
  (lineBreak? (skipSpace cs)).map fun rest =>
    rest.dropWhile fun c => isSpace c || c == '\n' || c == '\r'

/-- A string of several lines after its opening quotes. Every line break counts as a line feed. -/
def multiline? (quote : Char) : (fuel : Nat) → (seen : List Char) → List Char →
    Option (String × List Char)
  | 0, _, _ => none
  | _, _, [] => none
  | fuel + 1, seen, c :: rest =>
    match closing? quote seen (c :: rest) with
    | some result => some result
    | none =>
      if c == '\\' && quote == '"' then
        match escaped? rest, skipFolded? rest with
        | some (c, rest), _ => multiline? quote fuel (c :: seen) rest
        | none, some rest => multiline? quote fuel seen rest
        | none, none => none
      else match lineBreak? (c :: rest) with
        | some rest => multiline? quote fuel ('\n' :: seen) rest
        | none => if isPrintable c then multiline? quote fuel (c :: seen) rest else none

/-- A line break right behind the opening quotes does not count. -/
def dropFirstBreak (cs : List Char) : List Char := (lineBreak? cs).getD cs

/-- A string in any of its four forms. -/
def string? : List Char → Option (String × List Char)
  | '"' :: '"' :: '"' :: rest => multiline? '"' (rest.length + 1) [] (dropFirstBreak rest)
  | '\'' :: '\'' :: '\'' :: rest => multiline? '\'' (rest.length + 1) [] (dropFirstBreak rest)
  | '"' :: rest => basic? (rest.length + 1) [] rest
  | '\'' :: rest => literal? [] rest
  | _ => none

/-! ## Numbers, dates and times -/

/-- Digits between which single underscores may stand; there must be a digit on both sides of each. -/
def grouped? (isDigit : Char → Bool) (cs : List Char) : Option (List Char) :=
  let parts := Text.splitAtAll (· == '_') cs
  if parts.all (fun part => !part.isEmpty && part.all isDigit) then some parts.flatten else none

/-- Digits of a number in decimal, without leading zeros. -/
def decimal? (cs : List Char) : Option (List Char) := do
  let digits ← grouped? Digits.isDecimal cs
  guard (digits.head? ≠ some '0' ∨ cs.length = 1)
  some digits

/-- Takes a sign off: is it a minus? -/
def sign (cs : List Char) : Bool × List Char :=
  match cs with
  | '-' :: rest => (true, rest)
  | '+' :: rest => (false, rest)
  | cs => (false, cs)

/-- The whole number that is written in the given base. -/
def based? (base : Nat) (cs : List Char) : Option Int := do
  let digits ← grouped? (fun c => (Digits.value? base c).isSome) cs
  (Digits.nat? base digits).map fun n => (n : Int)

/-- A whole number: in decimal with a sign, or behind a mark of its base without one. -/
def wholeNumber? (cs : List Char) : Option Int :=
  match cs with
  | '0' :: 'x' :: rest => based? 16 rest
  | '0' :: 'o' :: rest => based? 8 rest
  | '0' :: 'b' :: rest => based? 2 rest
  | cs => do
    let (negative, rest) := sign cs
    let n ← Digits.nat? 10 (← decimal? rest)
    some (if negative then -(n : Int) else n)

/-- An integer, which has to fit 64 bits. -/
def integer? (cs : List Char) : Option Toml :=
  ((wholeNumber? cs).filter (Digits.fitsSigned 64)).map .integer

/-- Splits at the first character of a kind; that character is dropped. -/
def splitAtFirst (isMark : Char → Bool) (cs : List Char) : List Char × Option (List Char) :=
  let front := cs.takeWhile fun c => !isMark c
  match cs.drop front.length with
  | _ :: rest => (front, some rest)
  | [] => (front, none)

/-- A floating-point number: an integer with a fraction, an exponent or both, or one of the special
numbers. Positive numbers must not be beyond the largest binary64 number. -/
def float? (cs : List Char) : Option Toml := do
  let (negative, rest) := sign cs
  if rest = "inf".toList ∨ rest = "nan".toList then return .float (String.ofList cs)
  let (mantissa, exponent) := splitAtFirst (fun c => c == 'e' || c == 'E') rest
  let (whole, fraction) := splitAtFirst (· == '.') mantissa
  guard (exponent.isSome ∨ fraction.isSome)
  let whole ← decimal? whole
  let fraction ← match fraction with
    | some digits => grouped? Digits.isDecimal digits
    | none => some []
  let exponent ← match exponent with
    | some cs => do
      let (down, digits) := sign cs
      let n ← Digits.nat? 10 (← grouped? Digits.isDecimal digits)
      pure (if down then -(n : Int) else n)
    | none => some 0
  let significand ← Digits.nat? 10 (whole ++ fraction)
  guard (negative ∨ (Double.ofDecimal false significand (exponent - fraction.length)).isSome)
  some (.float (String.ofList cs))

/-- A number of exactly so many digits that is at most the given one. -/
def field? (digits most : Nat) (cs : List Char) : Option (Nat × List Char) := do
  let run := cs.take digits
  guard (run.length = digits)
  let n ← Digits.nat? 10 run
  guard (n ≤ most)
  some (n, cs.drop digits)

/-- The rest behind an expected character. -/
def expect? (c : Char) : List Char → Option (List Char)
  | d :: rest => if c = d then some rest else none
  | [] => none

/-- The rest behind a date, which must be a day of the calendar. -/
def date? (cs : List Char) : Option (List Char) := do
  let (year, rest) ← field? 4 9999 cs
  let (month, rest) ← field? 2 12 (← expect? '-' rest)
  let (day, rest) ← field? 2 31 (← expect? '-' rest)
  guard (CivilDate.isValid ⟨year, month, day⟩)
  some rest

/-- The rest behind a time of day. -/
def clock? (cs : List Char) : Option (List Char) := do
  let (_, rest) ← field? 2 23 cs
  let (_, rest) ← field? 2 59 (← expect? ':' rest)
  let (_, rest) ← field? 2 60 (← expect? ':' rest)
  match rest with
  | '.' :: rest =>
    guard (rest.head?.any Digits.isDecimal)
    some (rest.dropWhile Digits.isDecimal)
  | rest => some rest

/-- The rest behind an offset from UTC, if there is one. -/
def offset? : List Char → Option (List Char)
  | 'Z' :: rest | 'z' :: rest => some rest
  | '+' :: rest | '-' :: rest => do
    let (_, rest) ← field? 2 23 rest
    let (_, rest) ← field? 2 59 (← expect? ':' rest)
    some rest
  | rest => some rest

/-- The rest behind a date, a time of day, or a date with a time of day and perhaps an offset. A blank
counts as a separator only if a time of day follows. -/
def time? (cs : List Char) : Option (List Char) :=
  match date? cs with
  | none => clock? cs
  | some (c :: rest) =>
    if c == 'T' || c == 't' then (clock? rest).bind offset?
    else if c == ' ' && rest.head?.any Digits.isDecimal then (clock? rest).bind offset?
    else some (c :: rest)
  | some [] => some []

/-- Characters that numbers, dates and words are made of. -/
def isPlain (c : Char) : Bool :=
  c.isAlphanum || c == '+' || c == '-' || c == '.' || c == '_' || c == ':'

/-- Does a date or a time of day stand here: four digits and a hyphen, or two digits and a colon? -/
def startsTime (cs : List Char) : Bool :=
  let digits := (cs.takeWhile Digits.isDecimal).length
  let next := (cs.drop digits).head?
  (digits == 4 && next == some '-') || (digits == 2 && next == some ':')

/-- A number, a date or a time. -/
def scalar? (cs : List Char) : Option (Toml × List Char) :=
  let run := cs.takeWhile isPlain
  if startsTime cs then
    (time? cs).map fun rest => (.time (String.ofList (cs.take (cs.length - rest.length))), rest)
  else ((integer? run).or (float? run)).map fun v => (v, cs.drop run.length)

/-! ## Keys -/

/-- Characters of a name without quotes. -/
def isBare (c : Char) : Bool := c.isAlphanum || c == '_' || c == '-'

/-- One name of a key. -/
def name? (cs : List Char) : Option (String × List Char) :=
  match cs with
  | '"' :: rest => basic? (rest.length + 1) [] rest
  | '\'' :: rest => literal? [] rest
  | cs =>
    let run := cs.takeWhile isBare
    if run.isEmpty then none else some (String.ofList run, cs.drop run.length)

/-- The names of a key, with dots between them and blanks around the dots: at least one name, the last
one apart. -/
def key? : (fuel : Nat) → List Char → Option ((List String × String) × List Char)
  | 0, _ => none
  | fuel + 1, cs => do
    let (name, rest) ← name? (skipSpace cs)
    match skipSpace rest with
    | '.' :: rest =>
      let ((path, last), rest) ← key? fuel rest
      some ((name :: path, last), rest)
    | rest => some (([], name), rest)

/-! ## Values -/

mutual

def value? : (fuel depth : Nat) → List Char → Option (Toml × List Char)
  | 0, _, _ => none
  | fuel + 1, depth, cs =>
    match cs, depth with
    | '"' :: _, _ | '\'' :: _, _ => (string? cs).map fun r => (.string r.1, r.2)
    | 't' :: 'r' :: 'u' :: 'e' :: rest, _ => some (.boolean true, rest)
    | 'f' :: 'a' :: 'l' :: 's' :: 'e' :: rest, _ => some (.boolean false, rest)
    | '[' :: rest, depth + 1 =>
      (items? fuel depth (skipBlank rest)).map fun r => (.array r.1, r.2)
    | '\x7b' :: rest, depth + 1 =>
      match skipSpace rest with
      | '\x7d' :: rest => some (.table [], rest)
      | rest => (pairs? fuel depth .opened rest).map fun r => (r.1.toToml, r.2)
    | '[' :: _, 0 | '\x7b' :: _, 0 => none
    | cs, _ => scalar? cs

/-- The items of an array up to its closing bracket; a comma may follow the last one. -/
def items? : (fuel depth : Nat) → List Char → Option (List Toml × List Char)
  | 0, _, _ => none
  | _, _, ']' :: rest => some ([], rest)
  | fuel + 1, depth, cs => do
    let (item, rest) ← value? fuel depth cs
    match skipBlank rest with
    | ',' :: rest =>
      let (items, rest) ← items? fuel depth (skipBlank rest)
      some (item :: items, rest)
    | ']' :: rest => some ([item], rest)
    | _ => none

/-- The keys and values of an inline table up to its closing brace, added to those before; everything
stands on one line and no comma follows the last value. -/
def pairs? : (fuel depth : Nat) → TomlTable → List Char → Option (TomlTable × List Char)
  | 0, _, _, _ => none
  | fuel + 1, depth, entries, cs => do
    let ((path, name), rest) ← key? (maxDepth - 1) cs
    let rest ← expect? '=' rest
    let (v, rest) ← value? fuel depth (skipSpace rest)
    let entries ← entries.define? path name v
    match skipSpace rest with
    | ',' :: rest => pairs? fuel depth entries rest
    | '\x7d' :: rest => some (entries, rest)
    | _ => none

end

/-! ## Documents -/

/-- The header of a table or of an element of an array of tables: where it opens what. -/
def header? (cs : List Char) : Option ((Bool × List String × String) × List Char) :=
  match cs with
  | '[' :: '[' :: rest => do
    let ((path, name), rest) ← key? (maxDepth - 1) rest
    let rest ← expect? ']' (← expect? ']' rest)
    some ((true, path, name), rest)
  | '[' :: rest => do
    let ((path, name), rest) ← key? (maxDepth - 1) rest
    let rest ← expect? ']' rest
    some ((false, path, name), rest)
  | _ => none

/-- Reads the lines of a document into its table, where values belong to the table at a path. -/
def lines? : (fuel : Nat) → (place : List String) → TomlTable → List Char → Option TomlTable
  | 0, _, _, _ => none
  | fuel + 1, place, root, cs =>
    match skipBlank cs with
    | [] => some root
    | '[' :: rest => do
      let ((isElement, path, name), rest) ← header? ('[' :: rest)
      let root ← root.update? false
        (if isElement then TomlTable.openElement? name else TomlTable.openTable? name) path
      lines? fuel (path ++ [name]) root (← endLine? rest)
    | cs => do
      let ((path, name), rest) ← key? (maxDepth - 1) cs
      let rest ← expect? '=' rest
      let (v, rest) ← value? (2 * rest.length + 2) (maxDepth - 1) (skipSpace rest)
      let root ← root.update? false (TomlTable.define? path name v) place
      lines? fuel place root (← endLine? rest)

/-- The mark that a document may start with. -/
def byteOrderMark : Char := Char.ofNat 0xFEFF

/-- Reads a document. -/
def read? (s : String) : Option Toml :=
  let cs := match s.toList with
    | c :: rest => if c = byteOrderMark then rest else c :: rest
    | [] => []
  (lines? (cs.length + 1) [] .opened cs).map TomlTable.toToml

end SyncHistory.Toml
