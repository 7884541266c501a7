import Resultset.Text.Numeral

/-! # Decimal numbers

A `Decimal` is a sign, a 96-bit mantissa and a scale, the number of digits after the point. Its
number is `±mantissa / 10 ^ scale`. The parts are kept apart: `1.0` and `1.00` are one number with
two scales, and a zero has a sign. `sameNumber` compares the numbers.

Readers and column values keep the scale at `maxScale` or below; padding the digits of a small
mantissa can carry it further (see `Decimal.pad`), so the type does not bound it.
-/

namespace Resultset
set_option autoImplicit false

/-- The largest mantissa, `2 ^ 96 - 1`. -/
def maxMantissa : Nat := 79228162514264337593543950335

/-- The largest scale that a decimal is read with. -/
def maxScale : Nat := 28

structure Decimal where
  negative : Bool
  mantissa : Nat
  scale : Nat
  mantissa_le : mantissa ≤ maxMantissa
deriving DecidableEq

namespace Decimal

/-- A decimal, if the mantissa is not too large. -/
def of? (negative : Bool) (mantissa scale : Nat) : Option Decimal :=
  if h : mantissa ≤ maxMantissa then some ⟨negative, mantissa, scale, h⟩ else none

/-- An integer as a decimal of scale 0. -/
def ofInt (n : Int) (h : n.natAbs ≤ maxMantissa) : Decimal := ⟨decide (n < 0), n.natAbs, 0, h⟩

def zero : Decimal := ⟨false, 0, 0, Nat.zero_le _⟩

instance : Inhabited Decimal := ⟨zero⟩

/-- The mantissa with its sign. -/
def coefficient (d : Decimal) : Int := if d.negative then -d.mantissa else d.mantissa

/-- Whether two decimals are one number. The sign of a zero and the scales do not matter. -/
def sameNumber (a b : Decimal) : Bool :=
  a.coefficient * 10 ^ b.scale == b.coefficient * 10 ^ a.scale

theorem sameNumber_refl (d : Decimal) : d.sameNumber d = true := by
  simp [sameNumber]

end Decimal
end Resultset
