import SyncHistory.Digits
import SyncHistory.Text

/-!
# Universally unique identifiers

An identifier is its 32 hexadecimal digits. `Uuid.text` is its one canonical form: lower case, in
five groups joined by hyphens. `Uuid.parse?` reads that form in any letter case, and also the bare
digits, the form in braces and the form of a URN; braces and URN go only around the hyphenated form.
-/

namespace SyncHistory

/-- An identifier: 32 hexadecimal digits. -/
structure Uuid where
  digits : Vector (Fin 16) 32
deriving DecidableEq

namespace Uuid

/-- The sizes of the groups between the hyphens. -/
def groups : List Nat := [8, 4, 4, 4, 12]

/-- The lower-case character of a hexadecimal digit. -/
def digitChar (d : Fin 16) : Char :=
  if d.val < 10 then Char.ofNat (48 + d.val) else Char.ofNat (87 + d.val)

/-- The digit a character stands for, in either case. -/
def digit? (c : Char) : Option (Fin 16) :=
  match Digits.value? 16 c with
  | some v => if h : v < 16 then some ⟨v, h⟩ else none
  | none => none

/-- Puts a hyphen between groups of the given sizes. -/
def hyphenate : List Nat → List Char → List Char
  | [], _ => []
  | [n], cs => cs.take n
  | n :: ns, cs => cs.take n ++ '-' :: hyphenate ns (cs.drop n)

/-- Takes the hyphens between groups of the given sizes away, if they are all there. -/
def dehyphenate? : List Nat → List Char → Option (List Char)
  | [], [] => some []
  | [], _ :: _ => none
  | [n], cs => if cs.length = n then some cs else none
  | n :: ns, cs =>
    match cs.drop n with
    | '-' :: rest => (dehyphenate? ns rest).map (cs.take n ++ ·)
    | _ => none

/-- The characters of the 32 digits, without hyphens. -/
def hexChars (u : Uuid) : List Char :=
  u.digits.toList.map digitChar

/-- The identifier written by exactly 32 digits. -/
def ofHexChars? (cs : List Char) : Option Uuid :=
  match cs.mapM digit? with
  | some ds => if h : ds.length = 32 then some ⟨⟨ds.toArray, by simpa using h⟩⟩ else none
  | none => none

/-- The canonical text: lower case, in five groups. -/
def text (u : Uuid) : String :=
  String.ofList (hyphenate groups u.hexChars)

/-- The start of a URN that names an identifier. -/
def urn : String := "urn:uuid:"

/-- The hyphenated form inside its wrapping: none, braces, or a URN. -/
def unwrap? (cs : List Char) : Option (List Char) :=
  if cs.length = 36 then some cs
  else if cs.length = 38 then
    match cs with
    | '\x7b' :: inner => if inner.getLast? = some '\x7d' then some inner.dropLast else none
    | _ => none
  else if cs.length = 45 then
    if (cs.take 9).map Char.toLower = urn.toList then some (cs.drop 9) else none
  else none

/-- Reads an identifier in any of its accepted forms. -/
def parse? (s : String) : Option Uuid :=
  let cs := s.toList
  if cs.length = 32 then ofHexChars? cs
  else match unwrap? cs with
    | some inner =>
      match dehyphenate? groups inner with
      | some hex => ofHexChars? hex
      | none => none
    | none => none

end Uuid

end SyncHistory
