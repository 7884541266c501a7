import Resultset.Value

/-! # Extraction targets

What a caller can ask of a column value, and the type of the answer. `Target.whenNull` is the answer
for a NULL: the zero of a primitive target and nothing for one that can be absent.
-/

namespace Resultset
set_option autoImplicit false

/-- A target that needs nothing but its name. -/
inductive Scalar where
  | string
  | boolean
  | integer (w : IntWidth)
  | float
  | double
  | binary
deriving DecidableEq, Repr

inductive Target where
  | scalar (s : Scalar)
  | decimal (precision scale : Nat)
deriving DecidableEq, Repr

def Scalar.name : Scalar → String
  | string => "STRING"
  | boolean => "BOOLEAN"
  | integer w => w.name
  | float => "FLOAT"
  | double => "DOUBLE"
  | binary => "BINARY"

def Target.name : Target → String
  | scalar s => s.name
  | decimal _ _ => "DECIMAL"

/-- The answer for a scalar target. -/
abbrev Scalar.Result : Scalar → Type
  | string => Option String
  | boolean => Bool
  | integer w => w.Number
  | float => Float32
  | double => Float
  | binary => Option (List UInt8)

/-- The answer for a target. -/
abbrev Target.Result : Target → Type
  | scalar s => s.Result
  | decimal _ _ => Option Decimal

def Scalar.whenNull : (s : Scalar) → s.Result
  | string => none
  | boolean => false
  | integer w => ⟨0, w.holds_zero⟩
  | float => 0.0
  | double => 0.0
  | binary => none

/-- The answer for a NULL. -/
def Target.whenNull : (t : Target) → t.Result
  | scalar s => s.whenNull
  | decimal _ _ => none

end Resultset
