import Resultset.Decimal.Floating
import Resultset.Extraction.Error

/-! # Typed extraction

Reads a value as what it is. Integers change their width where they fit, floating-point targets take
every number, decimals take integers too, and every other target takes its own type alone.
-/

namespace Resultset.Typed
set_option autoImplicit false

def incompatible (v : Value) (t : Target) : ExtractionError := .incompatible v.typeName t

/-- The value as an integer of width `w`. -/
def integer (w : IntWidth) (v : Value) : Except ExtractionError w.Number :=
  match v.integer? with
  | none => .error (incompatible v (.scalar (.integer w)))
  | some n =>
    match w.number? n with
    | some m => .ok m
    | none => .error (.outOfRange n (.scalar (.integer w)))

/-- The value as a double, whatever the floating-point target. -/
def floating (s : Scalar) : Value → Except ExtractionError Float
  | .float x => .ok x.toFloat
  | .double x => .ok x
  | .decimal d => .ok d.toDouble
  | .integer _ n => .ok (Float.ofInt n.val)
  | v => .error (incompatible v (.scalar s))

def string : Value → Except ExtractionError (Option String)
  | .binary bytes => .error (incompatible (.binary bytes) (.scalar .string))
  | v => .ok (some v.text)

def boolean : Value → Except ExtractionError Bool
  | .boolean b => .ok b
  | v => .error (incompatible v (.scalar .boolean))

def binary : Value → Except ExtractionError (Option (List UInt8))
  | .binary bytes => .ok (some bytes)
  | v => .error (incompatible v (.scalar .binary))

/-- A number of any integer width has room in a mantissa. -/
theorem natAbs_le_maxMantissa {w : IntWidth} (n : w.Number) : n.val.natAbs ≤ maxMantissa := by
  have h := n.holds
  have hw : w.half ≤ maxMantissa := by cases w <;> decide
  unfold IntWidth.Holds at h
  omega

/-- The value as a decimal that is not shaped yet. -/
def exactDecimal? : Value → Option Decimal
  | .decimal d => some d
  | .integer _ n => some (Decimal.ofInt n.val (natAbs_le_maxMantissa n))
  | _ => none

def decimal (precision scale : Nat) (v : Value) : Except ExtractionError (Option Decimal) :=
  match exactDecimal? v with
  | some d => (d.fit precision scale).map some
  | none => .error (incompatible v (.decimal precision scale))

/-- The answer of a value that is not NULL. -/
def ofValue : (t : Target) → Value → Except ExtractionError t.Result
  | .scalar .string, v => string v
  | .scalar .boolean, v => boolean v
  | .scalar (.integer w), v => integer w v
  | .scalar .float, v => (floating .float v).map Float.toFloat32
  | .scalar .double, v => floating .double v
  | .scalar .binary, v => binary v
  | .decimal precision scale, v => decimal precision scale v

end Resultset.Typed
