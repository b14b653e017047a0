import Courier.Decimal.Binary64

/-!
# JSON values

A value as a program holds it. Numbers are whole numbers between `-2 ^ 63` and `2 ^ 64`, or
floating point values. An object lists its members, in the order in which they are written.
-/
namespace Courier.Json

/-- A JSON value. -/
inductive Value where
  /-- The absent value. -/
  | null
  /-- A truth value. -/
  | bool (b : Bool)
  /-- A whole number. -/
  | integer (n : Int)
  /-- A number with a fraction, an exponent, or too many digits for a whole number. -/
  | real (x : Decimal.Binary64)
  /-- A text. -/
  | string (s : String)
  /-- Values in order. -/
  | array (items : List Value)
  /-- Named values in order. -/
  | object (members : List (String × Value))
  deriving Repr

namespace Value

/-- The text that a value is, if it is one. -/
def text? : Value → Option String
  | .string s => some s
  | _ => none

/-- Whether a value is not `null`, `false`, `""`, `[]` or an object without members. -/
def isTruthy : Value → Bool
  | .null => false
  | .bool b => b
  | .integer _ => true
  | .real _ => true
  | .string s => !s.isEmpty
  | .array items => !items.isEmpty
  | .object members => !members.isEmpty

end Value

end Courier.Json
