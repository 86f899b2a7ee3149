/-!
# Text

The few rules on characters that the history of jobs depends on: letters compared without regard to
ASCII case, blanks in the sense of Unicode, trimming, and the lines of a log. Every function is a
total function over lists of characters, so that it can be reasoned about by induction; the versions
on `String` only wrap them.
-/

namespace SyncHistory.Text

/-- A text with its ASCII letters in lower case; every other character stands for itself. -/
def lower (s : String) : String :=
  String.ofList (s.toList.map Char.toLower)

/-- Two texts agree up to the case of ASCII letters. -/
def sameLetters (a b : String) : Bool :=
  lower a == lower b

/-- The characters with the Unicode property `White_Space`. -/
def isBlank (c : Char) : Bool :=
  let n := c.toNat
  (9 ≤ n && n ≤ 13) || n == 0x20 || n == 0x85 || n == 0xA0 || n == 0x1680 ||
    (0x2000 ≤ n && n ≤ 0x200A) || n == 0x2028 || n == 0x2029 || n == 0x202F ||
    n == 0x205F || n == 0x3000

/-- Drops the blanks in front. -/
def trimStart (cs : List Char) : List Char :=
  cs.dropWhile isBlank

/-- Drops the blanks on both ends. -/
def trim (s : String) : String :=
  String.ofList (trimStart (trimStart s.toList).reverse).reverse

/-- Drops every trailing occurrence of one character. -/
def trimEndOf (c : Char) (s : String) : String :=
  String.ofList (s.toList.reverse.dropWhile (· == c)).reverse

/-- Drops one carriage return from the front. -/
def dropReturn : List Char → List Char
  | '\r' :: cs => cs
  | cs => cs

/-- The lines of a text, where `pending` holds the reversed start of the current line. A line ends
at a line feed, and a carriage return just before that belongs to the end; what follows the last
line feed is a line of its own unless it is empty. -/
def linesFrom : (pending : List Char) → List Char → List (List Char)
  | [], [] => []
  | pending, [] => [pending.reverse]
  | pending, '\n' :: rest => (dropReturn pending).reverse :: linesFrom [] rest
  | pending, c :: rest => linesFrom (c :: pending) rest

/-- The lines of a text, without their ends. -/
def lines (s : String) : List String :=
  (linesFrom [] s.toList).map String.ofList

/-- Texts with a separator between neighbours. -/
def joinWith (separator : String) : List String → String
  | [] => ""
  | [s] => s
  | s :: rest => s ++ separator ++ joinWith separator rest

/-- A list without its start, if it has that start. -/
def dropStart? [BEq α] : (start text : List α) → Option (List α)
  | [], text => some text
  | _ :: _, [] => none
  | a :: start, b :: text => if a == b then dropStart? start text else none

/-- Splits a list at every element that is a separator. -/
def splitAtAll (isSeparator : α → Bool) : List α → List (List α)
  | [] => [[]]
  | a :: rest =>
    if isSeparator a then [] :: splitAtAll isSeparator rest
    else match splitAtAll isSeparator rest with
      | [] => [[a]]
      | part :: parts => (a :: part) :: parts

end SyncHistory.Text
