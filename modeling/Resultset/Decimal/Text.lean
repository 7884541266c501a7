import Resultset.Decimal.Basic
import Resultset.Text.Numeral

/-! # Decimals as text

A decimal is written with a minus sign if its sign is negative, also on a zero, at least one digit
before the point and exactly `scale` digits after it.
-/

namespace Resultset.Decimal
set_option autoImplicit false

/-- The text of the number without its sign. -/
def unsignedChars (d : Decimal) : List Char :=
  Nat.toDigits 10 (d.mantissa / 10 ^ d.scale) ++
    if d.scale = 0 then [] else '.' :: Text.fixedDigits d.scale d.mantissa

def chars (d : Decimal) : List Char :=
  if d.negative then '-' :: d.unsignedChars else d.unsignedChars

def text (d : Decimal) : String := String.ofList d.chars

/-- The longest number, its sign apart, that a message can show. -/
def textLimit : Nat := 32

/-- The text of a decimal within a message. A number that is longer than `textLimit`, which takes a
scale above 30, cannot be shown. -/
def text? (d : Decimal) : Option String :=
  if d.unsignedChars.length ≤ textLimit then some d.text else none

end Resultset.Decimal
