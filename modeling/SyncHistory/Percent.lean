import SyncHistory.Digits

/-!
# Percent encoding

A text in which bytes may be written as a percent sign and two hexadecimal digits. A percent sign before
anything else stands for itself.
-/

namespace SyncHistory.Percent

/-- The bytes that a text stands for. -/
def bytes : List Char → List UInt8
  | '%' :: a :: b :: rest =>
    match Digits.nat? 16 [a, b] with
    | some n => UInt8.ofNat n :: bytes rest
    | none => 0x25 :: bytes (a :: b :: rest)
  | c :: rest => (String.singleton c).toUTF8.toList ++ bytes rest
  | [] => []

/-- The text that a text stands for; `none` if its bytes are no UTF-8. -/
def decode? (cs : List Char) : Option String :=
  String.fromUTF8? (bytes cs).toByteArray

end SyncHistory.Percent
