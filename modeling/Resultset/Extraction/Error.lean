import Resultset.Decimal.Reader
import Resultset.Decimal.Rounding
import Resultset.Extraction.Target

/-! # Extraction errors

Why a column value has no answer for a target, with the text of each cause, and the two ways of
shaping a decimal that can fail.
-/

namespace Resultset
set_option autoImplicit false

inductive Unreadable where
  | notBoolean
  | notInteger (e : Integer.ReadError)
  | notFloating (e : Floating.ReadError)
  | notDecimal (e : Decimal.ReadError)
deriving DecidableEq, Repr

def Unreadable.message : Unreadable → String
  | notBoolean => "expected 'true' or 'false'"
  | notInteger e => e.message
  | notFloating e => e.message
  | notDecimal e => e.message

inductive ExtractionError where
  | noValue (position : Nat)
  /-- Values of this type never answer the target. -/
  | incompatible (typeName : String) (target : Target)
  | outOfRange (value : Int) (target : Target)
  /-- The input is the text before trimming. -/
  | unreadable (input : String) (target : Target) (reason : Unreadable)
  | scaleOutOfRange (value : Decimal) (scale : Nat)
  /-- The value is the one before rounding. -/
  | precisionExceeded (value : Decimal) (precision scale : Nat)
  /-- The value has digits past `maxScale`, of which only some would be dropped. -/
  | unroundable (value : Decimal) (scale : Nat)
deriving DecidableEq

namespace ExtractionError

/-- The text of the error, if it can be shown: a decimal may be too long for it, and a value that
cannot be rounded is reported without any. -/
def message? : ExtractionError → Option String
  | noValue position => some s!"No value at position {position}"
  | incompatible typeName target => some ("Cannot convert " ++ typeName ++ " to " ++ target.name)
  | outOfRange value target =>
    some ("Value " ++ Integer.text value ++ " is out of range for " ++ target.name)
  | unreadable input target reason =>
    some ("Cannot parse '" ++ input ++ "' as " ++ target.name ++ ": " ++ reason.message)
  | scaleOutOfRange value scale =>
    value.text?.map fun text => s!"Value {text} cannot be represented with scale {scale}"
  | precisionExceeded value precision scale =>
    value.text?.map fun text => s!"Value {text} does not fit DECIMAL({precision}, {scale})"
  | unroundable _ _ => none

end ExtractionError

/-! ## Shaping decimals -/

/-- The decimal as one of type `DECIMAL(precision, scale)`, ties rounded away from zero. -/
def Decimal.fit (d : Decimal) (precision scale : Nat) : Except ExtractionError Decimal :=
  if d.Roundable scale then
    match d.fit? precision scale with
    | some q => .ok q
    | none => .error (.precisionExceeded d precision scale)
  else .error (.unroundable d scale)

/-- The decimal with exactly `scale` digits after the point, ties rounded to even. -/
def Decimal.toScale (d : Decimal) (scale : Nat) : Except ExtractionError Decimal :=
  if d.Roundable scale then
    match d.quantize? .toEven scale with
    | some q => .ok q
    | none => .error (.scaleOutOfRange d scale)
  else .error (.unroundable d scale)

end Resultset
