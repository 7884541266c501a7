import Resultset.Decimal.Basic

/-! # The double of a decimal

Computed in double arithmetic: the whole part and the fraction are converted apart, added, and the
sum is rounded to the digits of the scale again.
-/

namespace Resultset.Decimal
set_option autoImplicit false

/-- The product `factor ^ n * product` by repeated squaring, rounded as it goes. -/
def powerBySquaring (product factor : Float) (n : Nat) : Float :=
  if h : n = 0 then product
  else
    let product := if n % 2 = 1 then product * factor else product
    if n / 2 = 0 then product else powerBySquaring product (factor * factor) (n / 2)
termination_by n
decreasing_by omega

/-- The double of the number without its sign. -/
def magnitudeToDouble (d : Decimal) : Float :=
  let whole := Float.ofNat (d.mantissa / 10 ^ d.scale)
  let fraction := d.mantissa % 10 ^ d.scale
  if fraction = 0 then whole
  else
    let shift := powerBySquaring 1.0 10.0 d.scale
    ((whole + Float.ofNat fraction / Float.ofNat (10 ^ d.scale)) * shift).round / shift

/-- The double of a decimal. An integer zero has no sign. -/
def toDouble (d : Decimal) : Float :=
  if d.negative && !(d.scale == 0 && d.mantissa == 0) then -d.magnitudeToDouble
  else d.magnitudeToDouble

end Resultset.Decimal
