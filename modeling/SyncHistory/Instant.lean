import SyncHistory.Calendar
import SyncHistory.Digits
import SyncHistory.Text

/-!
# Instants

A point in time in UTC, exact to the nanosecond, with leap seconds kept: a leap second is the second
before it with a fraction of one second or more, so it sorts after all of that second and before the
next one. `Instant.text` writes an instant as RFC 3339 with the shortest exact fraction of 0, 3, 6 or
9 digits; `Instant.parse?` reads RFC 3339 with any offset.

The reader is lenient in the ways that people write timestamps: blanks are allowed around the parts,
a blank may stand for the `T`, digits beyond the ninth of a fraction are dropped, single digits are
accepted where two are usual, `UTC` may stand for `Z`, and the colon of an offset may be missing.
-/

namespace SyncHistory

/-- A point in time: whole seconds since 1 January 1970 and nanoseconds into that second, one
thousand million or more of them inside a leap second. -/
structure Instant where
  seconds : Int
  nanos : Nat
deriving DecidableEq

namespace Instant

/-- Earlier means fewer seconds, then fewer nanoseconds. -/
def compare (a b : Instant) : Ordering :=
  (Ord.compare a.seconds b.seconds).then (Ord.compare a.nanos b.nanos)

instance : Ord Instant := ⟨compare⟩

instance : LE Instant := ⟨fun a b => a.seconds < b.seconds ∨ a.seconds = b.seconds ∧ a.nanos ≤ b.nanos⟩

instance (a b : Instant) : Decidable (a ≤ b) :=
  inferInstanceAs (Decidable (_ ∨ _))

/-- The number of seconds in a day. -/
def daySeconds : Int := 86400

/-- The number of nanoseconds in a second. -/
def nanosPerSecond : Nat := 1000000000

/-! ## Writing -/

/-- A year in four digits, with a sign when it needs one or more digits. -/
def yearText (year : Int) : List Char :=
  if 0 ≤ year ∧ year ≤ 9999 then Digits.padded 4 year.toNat
  else (if year < 0 then '-' else '+') :: Digits.padded 4 year.natAbs

/-- The shortest exact fraction of 0, 3, 6 or 9 digits, with its point. -/
def fractionText (nanos : Nat) : List Char :=
  if nanos = 0 then []
  else if nanos % 1000000 = 0 then '.' :: Digits.padded 3 (nanos / 1000000)
  else if nanos % 1000 = 0 then '.' :: Digits.padded 6 (nanos / 1000)
  else '.' :: Digits.padded 9 nanos

/-- The time of a day given by its second, as `hh:mm:ss` with a fraction; inside a leap second the
seconds show one more. -/
def timeText (secondOfDay nanos : Nat) : List Char :=
  let leap := nanos ≥ nanosPerSecond
  let second := secondOfDay % 60 + (if leap then 1 else 0)
  let fraction := if leap then nanos - nanosPerSecond else nanos
  Digits.padded 2 (secondOfDay / 3600) ++ ':' :: Digits.padded 2 (secondOfDay / 60 % 60) ++
    ':' :: Digits.padded 2 second ++ fractionText fraction

/-- RFC 3339 in UTC. -/
def text (t : Instant) : String :=
  let date := CivilDate.ofDayNumber (t.seconds / daySeconds)
  String.ofList <|
    yearText date.year ++ '-' :: Digits.padded 2 date.month ++ '-' :: Digits.padded 2 date.day ++
      'T' :: timeText (t.seconds % daySeconds).toNat t.nanos ++ ['Z']

/-! ## Reading -/

/-- At most `limit` digits in front and what follows them; there must be one. -/
def digits? (limit : Nat) (cs : List Char) : Option (Nat × List Char) :=
  let run := (cs.take limit).takeWhile Digits.isDecimal
  (Digits.nat? 10 run).map fun n => (n, cs.drop run.length)

/-- A numeral of at most `limit` digits after optional blanks. -/
def field? (limit : Nat) (cs : List Char) : Option (Nat × List Char) :=
  digits? limit (Text.trimStart cs)

/-- A year: up to four digits, or any number of them behind a sign. -/
def year? (cs : List Char) : Option (Int × List Char) :=
  match Text.trimStart cs with
  | '-' :: rest => (digits? rest.length rest).map fun (n, rest) => (-(n : Int), rest)
  | '+' :: rest => (digits? rest.length rest).map fun (n, rest) => ((n : Int), rest)
  | rest => (digits? 4 rest).map fun (n, rest) => ((n : Int), rest)

/-- A separator after optional blanks. -/
def separator? (c : Char) (cs : List Char) : Option (List Char) :=
  match Text.trimStart cs with
  | d :: rest => if c = d then some rest else none
  | [] => none

/-- A fraction of a second in nanoseconds, zero when there is none; digits beyond the ninth are
dropped. -/
def fraction? : List Char → Option (Nat × List Char)
  | '.' :: rest =>
    let run := (rest.take 9).takeWhile Digits.isDecimal
    (Digits.nat? 10 run).map fun n =>
      (n * Nat.pow 10 (9 - run.length), (rest.drop run.length).dropWhile Digits.isDecimal)
  | cs => some (0, cs)

/-- An offset from UTC in seconds: `Z`, `UTC`, or a sign with hours and minutes. -/
def offset? (cs : List Char) : Option (Int × List Char) :=
  if (cs.take 3).map Char.toLower = ['u', 't', 'c'] then some (0, cs.drop 3)
  else match cs with
    | 'Z' :: rest | 'z' :: rest => some (0, rest)
    | sign :: rest =>
      if sign = '+' ∨ sign = '-' ∨ sign = '−' then
        match rest with
        | h1 :: h2 :: rest =>
          match Digits.nat? 10 [h1, h2], rest.dropWhile (fun c => c == ':' || Text.isBlank c) with
          | some hours, m1 :: m2 :: rest =>
            match Digits.nat? 10 [m1, m2] with
            | some minutes =>
              if minutes < 60 ∧ hours < 24 then
                let seconds : Int := hours * 3600 + minutes * 60
                some (if sign = '+' then seconds else -seconds, rest)
              else none
            | none => none
          | _, _ => none
        | _ => none
      else none
    | [] => none

/-- The first and the last day that an instant may fall on, as day numbers: 1 January of the year
-262143 and 31 December of the year 262142. -/
def firstDay : Int := CivilDate.dayNumber ⟨-262143, 1, 1⟩

@[inherit_doc firstDay]
def lastDay : Int := CivilDate.dayNumber ⟨262142, 12, 31⟩

/-- Is the instant in the years that can be represented? -/
def isRepresentable (t : Instant) : Bool :=
  let day := t.seconds / daySeconds
  firstDay ≤ day && day ≤ lastDay

/-- The instant of a date and a time of day, read off a clock that runs ahead of UTC by `offset`
seconds. The second 60 is a leap second. -/
def ofClock? (date : CivilDate) (hour minute second nanos : Nat) (offset : Int) : Option Instant :=
  if date.isValid ∧ hour < 24 ∧ minute < 60 ∧ second ≤ 60 then
    let reading : Instant := ⟨date.dayNumber * daySeconds + hour * 3600 + minute * 60 + min second 59,
      if second = 60 then nanos + nanosPerSecond else nanos⟩
    let t : Instant := ⟨reading.seconds - offset, reading.nanos⟩
    if reading.isRepresentable ∧ t.isRepresentable then some t else none
  else none

/-- Reads RFC 3339 with any offset. -/
def parse? (s : String) : Option Instant := do
  let (year, rest) ← year? s.toList
  let (month, rest) ← field? 2 (← separator? '-' rest)
  let (day, rest) ← field? 2 (← separator? '-' rest)
  let rest ← match rest with
    | 't' :: rest | 'T' :: rest | ' ' :: rest => some rest
    | _ => none
  let (hour, rest) ← field? 2 rest
  let (minute, rest) ← field? 2 (← separator? ':' rest)
  let (second, rest) ← field? 2 (← separator? ':' rest)
  let (nanos, rest) ← fraction? rest
  let (offset, rest) ← offset? (Text.trimStart rest)
  if (Text.trimStart rest).isEmpty then
    ofClock? ⟨year, month, day⟩ hour minute second nanos offset
  else none

end Instant

end SyncHistory
