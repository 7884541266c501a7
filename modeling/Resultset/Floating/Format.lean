import Resultset.Text.Numeral

/-! # Binary floating-point words

`FloatFormat` gives the widths of the two fields below the sign bit of an IEEE 754 word, and
`FloatFormat.decode` takes a word apart into an infinity, a NaN or a sign and a number `m * 2 ^ q`.
-/

namespace Resultset
set_option autoImplicit false

structure FloatFormat where
  fractionBits : Nat
  exponentBits : Nat
deriving DecidableEq, Repr

namespace FloatFormat

def binary32 : FloatFormat := ⟨23, 8⟩
def binary64 : FloatFormat := ⟨52, 11⟩

/-- The number of a positive finite word, `significand * 2 ^ exponent`. -/
structure Magnitude where
  significand : Nat
  exponent : Int
  /-- The next smaller number is only half as far away as the next larger one. -/
  closeBelow : Bool
deriving DecidableEq, Repr

inductive Decoded where
  | nan
  | infinite (negative : Bool)
  | finite (negative : Bool) (magnitude : Magnitude)
deriving DecidableEq, Repr

/-- The parts of a word of the format. The lowest exponent belongs to the subnormal numbers, whose
significand has no hidden bit, the highest to infinities and NaNs. -/
def decode (format : FloatFormat) (word : Nat) : Decoded :=
  let fraction := word % 2 ^ format.fractionBits
  let field := word / 2 ^ format.fractionBits % 2 ^ format.exponentBits
  let negative := word / 2 ^ (format.fractionBits + format.exponentBits) % 2 == 1
  let offset : Int := 2 ^ (format.exponentBits - 1) - 1 + format.fractionBits
  if field = 2 ^ format.exponentBits - 1 then
    if fraction = 0 then .infinite negative else .nan
  else if field = 0 then .finite negative ⟨fraction, 1 - offset, false⟩
  else
    .finite negative
      ⟨2 ^ format.fractionBits + fraction, field - offset, fraction == 0 && decide (1 < field)⟩

/-- One and a half is `3 * 2 ^ 51 * 2 ^ -52`. -/
example : binary64.decode 0x3FF8000000000000 = .finite false ⟨3 * 2 ^ 51, -52, false⟩ := by
  decide

/-- Two is the lowest number of its binade. -/
example : binary32.decode 0x40000000 = .finite false ⟨2 ^ 23, -22, true⟩ := by decide

end FloatFormat

/-- The parts of a binary64 number. -/
def decodeDouble (x : Float) : FloatFormat.Decoded := FloatFormat.binary64.decode x.toBits.toNat

/-- The parts of a binary32 number. -/
def decodeSingle (x : Float32) : FloatFormat.Decoded := FloatFormat.binary32.decode x.toBits.toNat

end Resultset
