import Resultset.Floating.Text
import Resultset.Json

/-! # Numbers of JSON documents

What a numeral means to a reader of integers and to a reader of doubles, and the numerals of
doubles.

Integers are whole numerals within 64 bits. A double keeps as many leading digits as fit 64 bits and
is scaled by a power of ten in double arithmetic, so a long numeral may miss the nearest double by a
last bit. The other direction writes the shortest digits that read back.
-/

namespace Resultset
set_option autoImplicit false

namespace Numeral

/-! ## Integers -/

def isWhole (n : Numeral) : Bool := n.fraction.isEmpty && n.exponent.isNone

/-- The integer, signed or unsigned, of 64 bits. A zero with a minus sign is not one. -/
def integer? (n : Numeral) : Option Int :=
  let magnitude := Nat.ofDigitChars 10 n.whole 0
  if !n.isWhole then none
  else if n.negative then
    if 1 ≤ magnitude ∧ magnitude ≤ 2 ^ (63 : Nat) then some (-magnitude) else none
  else if magnitude < 2 ^ (64 : Nat) then some magnitude
  else none

/-! ## Doubles -/

/-- Appends digits to a significand until one does not fit 64 bits any more; the digits from that
one on are left. -/
def absorb : (significand : Nat) → List Char → Nat × List Char
  | significand, [] => (significand, [])
  | significand, c :: digits =>
    let next := 10 * significand + (c.toNat - '0'.toNat)
    if next < 2 ^ (64 : Nat) then absorb next digits else (significand, c :: digits)

def maxPower : Nat := 308

def powerOfTen (n : Nat) : Float := Floating.nearestDouble ⟨1, n⟩

/-- Divides by a power of ten, in more than one step if it is no double. -/
def divide (f : Float) (n : Nat) : Float :=
  if n ≤ maxPower then f / powerOfTen n
  else if f == 0.0 then f
  else divide (f / powerOfTen maxPower) (n - maxPower)
termination_by n
decreasing_by simp only [maxPower] at *; omega

/-- Scales a double by a power of ten, unless that takes it out of range. -/
def scale? (f : Float) : Int → Option Float
  | .ofNat n =>
    if n ≤ maxPower then
      let g := f * powerOfTen n
      if g.isInf then none else some g
    else if f == 0.0 then some f
    else none
  | .negSucc n => some (divide f (n + 1))

/-- The double of a numeral that is no integer. -/
def scaledDouble? (n : Numeral) : Option Float :=
  let (significand, wholeLeft) := absorb 0 n.whole
  let (significand, fractionLeft) := absorb significand n.fraction
  let exponent : Int := wholeLeft.length - (n.fraction.length - fractionLeft.length) +
    n.exponent.getD 0
  (scale? (Float.ofNat significand) exponent).map fun f => if n.negative then -f else f

def double? (n : Numeral) : Option Float :=
  match n.integer? with
  | some i => some (Float.ofInt i)
  | none => n.scaledDouble?

/-- The single: an integer is rounded once, any other number by way of its double. -/
def single? (n : Numeral) : Option Float32 :=
  match n.integer? with
  | some i => some (Float32.ofInt i)
  | none => n.scaledDouble?.map Float.toFloat32

/-! ## Numerals of doubles -/

/-- The exponents of the leading digit, first and last, that are written positionally. -/
structure Layout where
  lowest : Int
  highest : Int

def singleLayout : Layout := ⟨-6, 12⟩
def doubleLayout : Layout := ⟨-5, 15⟩

/-- A magnitude: of two nearest decimals the even one is taken, and a whole number keeps one digit
after the point in positional notation. -/
def ofMagnitude (layout : Layout) (negative : Bool) (x : FloatFormat.Magnitude) : Numeral :=
  let decimal := x.shortest .toEven
  let digits := Nat.toDigits 10 decimal.coefficient
  let leading := decimal.exponent + digits.length - 1
  if layout.lowest ≤ leading ∧ leading ≤ layout.highest then
    let fraction := if decimal.fraction.isEmpty then ['0'] else decimal.fraction
    ⟨negative, decimal.whole, fraction, none⟩
  else ⟨negative, digits.take 1, digits.drop 1, some leading⟩

end Numeral

namespace Json

/-- A floating-point number. JSON has no infinities and no NaN. -/
def ofDecoded (layout : Numeral.Layout) : FloatFormat.Decoded → Json
  | .finite negative x => number (.ofMagnitude layout negative x)
  | .infinite _ | .nan => null

def ofSingle (x : Float32) : Json := ofDecoded Numeral.singleLayout (decodeSingle x)

def ofDouble (x : Float) : Json := ofDecoded Numeral.doubleLayout (decodeDouble x)

end Json
end Resultset
