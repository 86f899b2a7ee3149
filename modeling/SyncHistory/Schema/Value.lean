import SyncHistory.Json.Basic

/-!
# Values as schemas see them

The types that a schema can ask for, and when two values count as the same: numbers are compared by
value, so that a whole number is the same with and without a fraction of zero.
-/

namespace SyncHistory

/-- The types that a schema may ask for. -/
inductive JsonType where
  | array
  | boolean
  | integer
  | null
  | number
  | object
  | string
deriving DecidableEq

namespace JsonType

/-- Every type, in alphabetical order. -/
def all : List JsonType := [array, boolean, integer, null, number, object, string]

def name : JsonType → String
  | array => "array"
  | boolean => "boolean"
  | integer => "integer"
  | null => "null"
  | number => "number"
  | object => "object"
  | string => "string"

def ofName? (name : String) : Option JsonType :=
  all.find? fun t => t.name == name

/-- Is the number a whole number? With a fraction of zero it is, if such fractions are allowed for. -/
def isWhole (fractions : Bool) : Json.Number → Bool
  | .int _ => true
  | .double x => fractions && x.isWhole

/-- Is the value of the type? -/
def holds (fractions : Bool) : JsonType → Json → Bool
  | array, .arr _ => true
  | boolean, .bool _ => true
  | integer, .num n => isWhole fractions n
  | null, .null => true
  | number, .num _ => true
  | object, .obj _ => true
  | string, .str _ => true
  | _, _ => false

end JsonType

namespace Json

/-- The exact value of a number as a ratio with a positive denominator. -/
def Number.toRatio : Number → Int × Nat
  | .int n => (n, 1)
  | .double x => x.toSignedRatio

/-- Is one number less than another? -/
def Number.lt (a b : Number) : Bool :=
  let (p, q) := a.toRatio
  let (r, s) := b.toRatio
  p * s < r * q

/-- The binary64 number nearest to a number. -/
def Number.toDouble : Number → Double
  | .int n => (Double.ofInt n).getD (.zero false)
  | .double x => x

/-- Are the numbers the same? Two whole numbers are compared as they are, others as binary64. -/
def Number.same : Number → Number → Bool
  | .int a, .int b => a == b
  | a, b => a.toDouble.toSignedRatio == b.toDouble.toSignedRatio

mutual

/-- Are the values the same? Items are compared by place, and fields by place too, as they are in
order. -/
def same : Json → Json → Bool
  | .null, .null => true
  | .bool a, .bool b => a == b
  | .num a, .num b => a.same b
  | .str a, .str b => a == b
  | .arr a, .arr b => sameItems a b
  | .obj a, .obj b => sameFields a b
  | _, _ => false

@[inherit_doc same]
def sameItems : List Json → List Json → Bool
  | [], [] => true
  | a :: as, b :: bs => same a b && sameItems as bs
  | _, _ => false

@[inherit_doc same]
def sameFields : List (String × Json) → List (String × Json) → Bool
  | [], [] => true
  | (k, a) :: as, (l, b) :: bs => k == l && same a b && sameFields as bs
  | _, _ => false

end

/-- Is the same value among the items twice? -/
def hasRepetition : List Json → Bool
  | [] => false
  | j :: rest => rest.any (same j) || hasRepetition rest

end Json

end SyncHistory
