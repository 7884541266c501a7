import Resultset.Decimal.Rounding
import Resultset.Floating.Format

/-! # The shortest decimal of a floating-point number

Every decimal in the interval around a floating-point number that rounds to it reads back as that
number. `shortest` looks for one on coarser and coarser grids of powers of ten in turn, from one
significant digit on: the two neighbours of the number on a grid are the only candidates there, the
nearer one wins, and what a tie does is a parameter. All arithmetic is exact.
-/

namespace Resultset
set_option autoImplicit false

/-- The number `coefficient * 10 ^ exponent`. -/
structure PowerOfTenMultiple where
  coefficient : Nat
  exponent : Int
deriving DecidableEq, Repr

namespace FloatFormat.Magnitude

def decimalLength (n : Nat) : Nat := (Nat.toDigits 10 n).length

/-- The exponent of the leading decimal digit of `n / d`. -/
def leadingExponent (n d : Nat) : Int :=
  if d ≤ n then (decimalLength (n / d) : Int) - 1
  else -(decimalLength ((d + n - 1) / n - 1) : Int)

/-- The coefficient on the grid of multiples of `10 ^ exponent` that reads back as `x`, if there is
one. In units of a quarter of the last place the number is `4 * significand`, and half way to its
neighbours lie `4 * significand - 2` (`- 1` with a close neighbour) and `4 * significand + 2`. These
two ends belong to the interval iff the significand is even. -/
def onGrid? (tie : Tie) (x : Magnitude) (exponent : Int) : Option Nat :=
  let unit := 2 ^ (x.exponent - 2).toNat * 10 ^ (-exponent).toNat
  let grid := 2 ^ (2 - x.exponent).toNat * 10 ^ exponent.toNat
  let value := 4 * x.significand * unit
  let low := (4 * x.significand - if x.closeBelow then 1 else 2) * unit
  let high := (4 * x.significand + 2) * unit
  let below := value / grid
  let closed := x.significand % 2 == 0
  let takesBelow := if closed then low ≤ below * grid else low < below * grid
  let takesAbove := if closed then (below + 1) * grid ≤ high else (below + 1) * grid < high
  if takesBelow then
    if takesAbove then some (roundDiv tie value grid) else some below
  else if takesAbove then some (below + 1)
  else none

/-- The first grid that has a coefficient, `digits` being the most that are tried. -/
def search (tie : Tie) (x : Magnitude) : (digits : Nat) → (exponent : Int) → PowerOfTenMultiple
  | 0, exponent => ⟨0, exponent⟩
  | digits + 1, exponent =>
    match x.onGrid? tie exponent with
    | some coefficient => ⟨coefficient, exponent⟩
    | none => search tie x digits (exponent - 1)

/-- No double needs more digits. -/
def maxDigits : Nat := 17

/-- The decimal with the fewest digits that reads back as `x`. Its coefficient ends in a zero only
where the upper neighbour on the first grid is the next power of ten, which is then written as
that. -/
def shortest (tie : Tie) (x : Magnitude) : PowerOfTenMultiple :=
  if x.significand = 0 then ⟨0, 0⟩
  else
    let found := x.search tie maxDigits
      (leadingExponent (x.significand * 2 ^ x.exponent.toNat) (2 ^ (-x.exponent).toNat))
    if found.coefficient % 10 = 0 then ⟨found.coefficient / 10, found.exponent + 1⟩ else found

example : shortest .toEven ⟨0x1999999999999A, -56, false⟩ = ⟨1, -1⟩ := by decide +kernel

/-- The number next to ten to the twenty-third lies below it. -/
example : shortest .toEven ⟨0x152D02C7E14AF6, 24, false⟩ = ⟨1, 23⟩ := by decide +kernel

example : shortest .toEven ⟨1, -1074, false⟩ = ⟨5, -324⟩ := by decide +kernel

/-- The number `2 ^ -25` lies half way between the two decimals of seventeen digits that read back
as it. -/
example : shortest .toEven ⟨2 ^ 52, -77, true⟩ = ⟨29802322387695312, -24⟩ ∧
    shortest .awayFromZero ⟨2 ^ 52, -77, true⟩ = ⟨29802322387695313, -24⟩ := by
  decide +kernel

end FloatFormat.Magnitude
end Resultset
