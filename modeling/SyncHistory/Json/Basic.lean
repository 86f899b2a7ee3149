import SyncHistory.Double

/-!
# JSON values

A document as a value. Numbers are whole numbers or binary64 numbers, as they were written. The
fields of an object are a list in the order of the document, repetitions included; `Json.canonical`
is the form with the fields sorted by name and of repeated fields only the last.
-/

namespace SyncHistory

/-- A number of a document: whole if it was written without a fraction and fits 64 bits. -/
inductive Json.Number where
  | int (n : Int)
  | double (x : Double)
deriving DecidableEq

inductive Json where
  | null
  | bool (b : Bool)
  | num (n : Json.Number)
  | str (s : String)
  | arr (items : List Json)
  | obj (fields : List (String × Json))

namespace Json

mutual

/-- Equality of documents is decidable: by cases, item by item and field by field. -/
def decEq : (a b : Json) → Decidable (a = b)
  | .null, .null => isTrue rfl
  | .bool a, .bool b => decidable_of_iff (a = b) (by simp)
  | .num a, .num b => decidable_of_iff (a = b) (by simp)
  | .str a, .str b => decidable_of_iff (a = b) (by simp)
  | .arr a, .arr b =>
    have := decEqItems a b
    decidable_of_iff (a = b) (by simp)
  | .obj a, .obj b =>
    have := decEqFields a b
    decidable_of_iff (a = b) (by simp)
  | .null, .bool _ | .null, .num _ | .null, .str _ | .null, .arr _ | .null, .obj _
  | .bool _, .null | .bool _, .num _ | .bool _, .str _ | .bool _, .arr _ | .bool _, .obj _
  | .num _, .null | .num _, .bool _ | .num _, .str _ | .num _, .arr _ | .num _, .obj _
  | .str _, .null | .str _, .bool _ | .str _, .num _ | .str _, .arr _ | .str _, .obj _
  | .arr _, .null | .arr _, .bool _ | .arr _, .num _ | .arr _, .str _ | .arr _, .obj _
  | .obj _, .null | .obj _, .bool _ | .obj _, .num _ | .obj _, .str _ | .obj _, .arr _ =>
    isFalse (by simp)

@[inherit_doc decEq]
def decEqItems : (a b : List Json) → Decidable (a = b)
  | [], [] => isTrue rfl
  | x :: a, y :: b =>
    have := decEq x y
    have := decEqItems a b
    decidable_of_iff (x = y ∧ a = b) (by simp)
  | [], _ :: _ | _ :: _, [] => isFalse (by simp)

@[inherit_doc decEq]
def decEqFields : (a b : List (String × Json)) → Decidable (a = b)
  | [], [] => isTrue rfl
  | (k, x) :: a, (l, y) :: b =>
    have := decEq x y
    have := decEqFields a b
    decidable_of_iff ((k = l ∧ x = y) ∧ a = b) (by simp)
  | [], _ :: _ | _ :: _, [] => isFalse (by simp)

end

instance : DecidableEq Json := decEq

/-- A whole number as a document. -/
def ofInt (n : Int) : Json := .num (.int n)

/-- A natural number as a document. -/
def ofNat (n : Nat) : Json := ofInt n

/-- An optional value, `null` when absent. -/
def ofOption (f : α → Json) : Option α → Json
  | some a => f a
  | none => .null

/-- A list of values. -/
def ofList (f : α → Json) (xs : List α) : Json := .arr (xs.map f)

/-- A field that is left out when its value is absent. -/
def optionalField (name : String) (f : α → Json) : Option α → List (String × Json)
  | some a => [(name, f a)]
  | none => []

/-- A field of an object; `none` for a missing field and for a document that is no object. -/
def get? (j : Json) (name : String) : Option Json :=
  match j with
  | .obj fields => fields.lookup name
  | _ => none

def isObject : Json → Bool
  | .obj _ => true
  | _ => false

def string? : Json → Option String
  | .str s => some s
  | _ => none

/-- A truth value. -/
def bool? : Json → Option Bool
  | .bool b => some b
  | _ => none

/-- The items of an array. -/
def items? : Json → Option (List Json)
  | .arr items => some items
  | _ => none

/-- A whole number. -/
def int? : Json → Option Int
  | .num (.int n) => some n
  | _ => none

/-- A whole number of the given number of bits, two's complement. -/
def signed? (bits : Nat) (j : Json) : Option Int :=
  j.int?.filter (Digits.fitsSigned bits)

/-- `null`, or a value. -/
def nullable? (f : Json → Option α) : Json → Option (Option α)
  | .null => some none
  | j => (f j).map some

/-- An array of values, all of which must be readable. -/
def list? (f : Json → Option α) (j : Json) : Option (List α) :=
  match j with
  | .arr items => items.mapM f
  | _ => none

mutual

/-- The number of values in a document, itself included. -/
def size : Json → Nat
  | .arr items => sizeItems items + 1
  | .obj fields => sizeFields fields + 1
  | _ => 1

@[inherit_doc size]
def sizeItems : List Json → Nat
  | [] => 0
  | j :: rest => size j + sizeItems rest

@[inherit_doc size]
def sizeFields : List (String × Json) → Nat
  | [] => 0
  | (_, j) :: rest => size j + sizeFields rest

end

/-! ## Canonical form -/

/-- Puts a field where its name belongs, unless a field of that name is there already. -/
def insertField (name : String) (value : Json) : List (String × Json) → List (String × Json)
  | [] => [(name, value)]
  | (k, v) :: rest =>
    if name = k then (k, v) :: rest
    else if name < k then (name, value) :: (k, v) :: rest
    else (k, v) :: insertField name value rest

mutual

/-- The document with the fields of every object in increasing order of their names, and of fields
with the same name only the last. -/
def canonical : Json → Json
  | .arr items => .arr (canonicalItems items)
  | .obj fields => .obj (canonicalFields fields)
  | j => j

@[inherit_doc canonical]
def canonicalItems : List Json → List Json
  | [] => []
  | j :: rest => j.canonical :: canonicalItems rest

@[inherit_doc canonical]
def canonicalFields : List (String × Json) → List (String × Json)
  | [] => []
  | (k, v) :: rest => insertField k v.canonical (canonicalFields rest)

end

end Json

end SyncHistory
