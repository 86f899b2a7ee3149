import SyncHistory.Digits

/-!
# Text patterns

Patterns that may occur in a text: characters and sets of them, anchors, groups, alternatives,
repetition and looking around. `Pattern.parse?` reads the usual notation and `Pattern.occursIn` asks
whether a text has a place where the pattern fits.

A pattern means a relation between places of a text: `Pattern.ends` gives all places where a fit that
begins at a place may end. No order of preference between fits is kept, as none can be observed.
-/

namespace SyncHistory

/-- A set of characters. -/
inductive CharSet where
  | nothing
  | range (first last : Char)
  | union (a b : CharSet)
  | complement (a : CharSet)
deriving DecidableEq

namespace CharSet

/-- Is the character in the set? -/
def contains : CharSet → Char → Bool
  | nothing, _ => false
  | range first last, c => first ≤ c && c ≤ last
  | union a b, c => a.contains c || b.contains c
  | complement a, c => !a.contains c

/-- The set of one character. -/
def single (c : Char) : CharSet := range c c

/-- The set of the characters of a list. -/
def ofList (cs : List Char) : CharSet :=
  cs.foldr (fun c set => union (single c) set) nothing

/-- The decimal digits. -/
def digit : CharSet := range '0' '9'

/-- ASCII letters, digits and the underscore. -/
def word : CharSet :=
  union digit (union (range 'a' 'z') (union (range 'A' 'Z') (single '_')))

/-- The characters that count as space. -/
def space : CharSet :=
  ofList [' ', '\t', '\n', Char.ofNat 11, Char.ofNat 12, '\r', Char.ofNat 0xA0, Char.ofNat 0x2003,
    Char.ofNat 0x2029, Char.ofNat 0xFEFF]

/-- Everything but a line feed. -/
def anyButLineFeed : CharSet := complement (single '\n')

/-- The set that a letter after a backslash stands for. -/
def ofLetter? : Char → Option CharSet
  | 'd' => some digit
  | 'D' => some (complement digit)
  | 'w' => some word
  | 'W' => some (complement word)
  | 's' => some space
  | 'S' => some (complement space)
  | _ => none

end CharSet

/-- What to find in a text. -/
inductive Pattern where
  | empty
  | oneOf (set : CharSet)
  /-- The beginning of the text. -/
  | start
  /-- The end of the text. -/
  | stop
  /-- Between a character of a word and one that is none. -/
  | boundary
  | seq (a b : Pattern)
  | either (a b : Pattern)
  /-- At least and, if there is a bound, at most so many fits in a row. -/
  | times (p : Pattern) (least : Nat) (most : Option Nat)
  /-- A fit may begin here, but nothing of it is taken. -/
  | ahead (p : Pattern)
  /-- A fit may end here. -/
  | behind (p : Pattern)
  /-- The pattern does not fit here. -/
  | absent (p : Pattern)
deriving DecidableEq

namespace Pattern

/-! ## Meaning -/

/-- Is there a character of a word at the place? -/
def isWordAt (text : Array Char) (i : Nat) : Bool :=
  match text[i]? with
  | some c => CharSet.word.contains c
  | none => false

/-- Is exactly one of the neighbours of the place a character of a word? -/
def isBoundary (text : Array Char) (i : Nat) : Bool :=
  (i != 0 && isWordAt text (i - 1)) != isWordAt text i

/-- The places reached by exactly so many steps. -/
def exactly (step : Nat → List Nat) : Nat → List Nat → List Nat
  | 0, places => places
  | n + 1, places => exactly step n (places.flatMap step).eraseDups

/-- The places reached by at most so many steps. -/
def atMost (step : Nat → List Nat) : Nat → List Nat → List Nat
  | 0, places => places
  | n + 1, places => atMost step n (places ++ places.flatMap step).eraseDups

/-- The places where a fit that begins at a place may end. Steps that make no way need not be repeated,
so a repetition without bound takes no more of them than there are places. -/
def ends (text : Array Char) : Pattern → Nat → List Nat
  | empty, i => [i]
  | oneOf set, i =>
    match text[i]? with
    | some c => if set.contains c then [i + 1] else []
    | none => []
  | start, i => if i = 0 then [i] else []
  | stop, i => if i = text.size then [i] else []
  | boundary, i => if isBoundary text i then [i] else []
  | seq a b, i => ((ends text a i).flatMap fun j => ends text b j).eraseDups
  | either a b, i => (ends text a i ++ ends text b i).eraseDups
  | times p least most, i =>
    let step := fun j => ends text p j
    let further := match most with
      | some most => min (most - least) (text.size + 1)
      | none => text.size + 1
    atMost step further (exactly step least [i])
  | ahead p, i => if (ends text p i).isEmpty then [] else [i]
  | behind p, i => if (List.range (i + 1)).any fun j => (ends text p j).contains i then [i] else []
  | absent p, i => if (ends text p i).isEmpty then [i] else []

/-- Is there a place in the text where the pattern fits? -/
def occursIn (p : Pattern) (text : String) : Bool :=
  let text := text.toList.toArray
  (List.range (text.size + 1)).any fun i => !(ends text p i).isEmpty

/-! ## Notation -/

/-- A character given by exactly so many hexadecimal digits. -/
def coded? (digits : Nat) (cs : List Char) : Option (Char × List Char) := do
  let n ← Digits.nat? 16 (cs.take digits)
  guard (digits ≤ cs.length)
  some (Char.ofNat n, cs.drop digits)

/-- The character that is written with a backslash. -/
def escaped? : List Char → Option (Char × List Char)
  | 'n' :: rest => some ('\n', rest)
  | 'r' :: rest => some ('\r', rest)
  | 't' :: rest => some ('\t', rest)
  | 'f' :: rest => some (Char.ofNat 12, rest)
  | 'v' :: rest => some (Char.ofNat 11, rest)
  | '0' :: rest => some (Char.ofNat 0, rest)
  | 'x' :: rest => coded? 2 rest
  | 'u' :: rest => coded? 4 rest
  | 'c' :: c :: rest => if c.isAlpha then some (Char.ofNat (c.toNat % 32), rest) else none
  | c :: rest => if c.isAlphanum then none else some (c, rest)
  | [] => none

/-- A character of a set, either itself or escaped. -/
def member? : List Char → Option (Char × List Char)
  | '\\' :: rest => escaped? rest
  | c :: rest => some (c, rest)
  | [] => none

/-- A member of a set that may turn out to be the first of a range. -/
def rangeFrom? (first : Char) : List Char → Option (CharSet × List Char)
  | '-' :: ']' :: rest => some (.single first, '-' :: ']' :: rest)
  | '-' :: rest =>
    match member? rest with
    | some (last, rest) => if first ≤ last then some (.range first last, rest) else none
    | none => none
  | rest => some (.single first, rest)

/-- One item of a set: a named set, a character or a range. -/
def item? (cs : List Char) : Option (CharSet × List Char) :=
  let character := do
    let (first, rest) ← member? cs
    rangeFrom? first rest
  match cs with
  | '\\' :: c :: rest =>
    match CharSet.ofLetter? c with
    | some set => some (set, rest)
    | none => character
  | _ => character

/-- The items of a set up to its closing bracket. -/
def items? : (fuel : Nat) → List Char → Option (CharSet × List Char)
  | 0, _ => none
  | fuel + 1, cs =>
    match cs with
    | ']' :: rest => some (.nothing, rest)
    | cs => do
      let (set, rest) ← item? cs
      let (others, rest) ← items? fuel rest
      some (.union set others, rest)

/-- A set after its opening bracket. A closing bracket that comes first is a member. -/
def set? (cs : List Char) : Option (CharSet × List Char) :=
  let body (cs : List Char) : Option (CharSet × List Char) :=
    match cs with
    | ']' :: rest => (items? (rest.length + 1) rest).map fun r => (.union (.single ']') r.1, r.2)
    | cs => items? (cs.length + 1) cs
  match cs with
  | '^' :: rest => (body rest).map fun r => (.complement r.1, r.2)
  | cs => body cs

/-- How often something may be repeated, if a count in braces follows. -/
def count? (cs : List Char) : Option ((Nat × Option Nat) × List Char) := do
  let low := cs.takeWhile Digits.isDecimal
  let least ← Digits.nat? 10 low
  match cs.drop low.length with
  | '\x7d' :: rest => some ((least, some least), rest)
  | ',' :: rest =>
    let high := rest.takeWhile Digits.isDecimal
    match rest.drop high.length with
    | '\x7d' :: rest => some ((least, Digits.nat? 10 high), rest)
    | _ => none
  | _ => none

/-- How often something may be repeated, if that follows. -/
def quantifier? : List Char → Option ((Nat × Option Nat) × List Char)
  | '*' :: rest => some ((0, none), rest)
  | '+' :: rest => some ((1, none), rest)
  | '?' :: rest => some ((0, some 1), rest)
  | '\x7b' :: rest => count? rest
  | _ => none

/-- A preference for few repetitions makes no difference. -/
def dropPreference : List Char → List Char
  | '?' :: rest => rest
  | rest => rest

/-- A pattern with its repetition, if one follows; the bounds of a repetition must be in order. -/
def repeated? (p : Pattern) (cs : List Char) : Option (Pattern × List Char) :=
  match quantifier? cs with
  | some ((least, most), rest) =>
    if most.all (least ≤ ·) then some (.times p least most, dropPreference rest) else none
  | none => some (p, cs)

/-- What a backslash and the text after it stand for. -/
def escape? : List Char → Option (Pattern × List Char)
  | 'b' :: rest => some (.boundary, rest)
  | 'B' :: rest => some (.absent .boundary, rest)
  | c :: rest =>
    match CharSet.ofLetter? c with
    | some set => some (.oneOf set, rest)
    | none => (escaped? (c :: rest)).map fun r => (.oneOf (.single r.1), r.2)
  | [] => none

/-- What an opening parenthesis is for, and the text inside. -/
def groupKind? : List Char → Option ((Pattern → Pattern) × List Char)
  | '?' :: ':' :: rest => some (id, rest)
  | '?' :: '=' :: rest => some (.ahead, rest)
  | '?' :: '!' :: rest => some (.absent, rest)
  | '?' :: '<' :: '=' :: rest => some (.behind, rest)
  | '?' :: '<' :: '!' :: rest => some (fun p => .absent (.behind p), rest)
  | '?' :: '<' :: rest | '?' :: 'P' :: '<' :: rest =>
    match rest.dropWhile CharSet.word.contains with
    | '>' :: inner => some (id, inner)
    | _ => none
  | '?' :: _ => none
  | rest => some (id, rest)

mutual

/-- Alternatives up to a closing parenthesis or the end. -/
def alternatives? : (fuel : Nat) → List Char → Option (Pattern × List Char)
  | 0, _ => none
  | fuel + 1, cs => do
    let (p, rest) ← sequence? fuel cs
    match rest with
    | '|' :: rest =>
      let (q, rest) ← alternatives? fuel rest
      some (.either p q, rest)
    | rest => some (p, rest)

/-- Patterns in a row up to a bar, a closing parenthesis or the end. -/
def sequence? : (fuel : Nat) → List Char → Option (Pattern × List Char)
  | 0, _ => none
  | fuel + 1, cs =>
    match cs with
    | [] | '|' :: _ | ')' :: _ => some (.empty, cs)
    | cs => do
      let (p, rest) ← atom? fuel cs
      let (p, rest) ← repeated? p rest
      let (q, rest) ← sequence? fuel rest
      some (.seq p q, rest)

/-- One pattern that can be repeated as a whole. -/
def atom? : (fuel : Nat) → List Char → Option (Pattern × List Char)
  | 0, _ => none
  | fuel + 1, cs =>
    match cs with
    | '(' :: rest => do
      let (wrap, rest) ← groupKind? rest
      let (p, rest) ← alternatives? fuel rest
      match rest with
      | ')' :: rest => some (wrap p, rest)
      | _ => none
    | '[' :: rest => (set? rest).map fun r => (.oneOf r.1, r.2)
    | '\\' :: rest => escape? rest
    | '.' :: rest => some (.oneOf .anyButLineFeed, rest)
    | '^' :: rest => some (.start, rest)
    | '$' :: rest => some (.stop, rest)
    | '*' :: _ | '+' :: _ | '?' :: _ => none
    | c :: rest => some (.oneOf (.single c), rest)
    | [] => none

end

/-- Reads a pattern; `none` if the notation is malformed. -/
def parse? (s : String) : Option Pattern :=
  let cs := s.toList
  match alternatives? (3 * cs.length + 3) cs with
  | some (p, []) => some p
  | _ => none

end Pattern

end SyncHistory
