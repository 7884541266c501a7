import Resultset.Floating.Shortest

/-! # Floating-point numbers as text

A number is written with the shortest digits that read back as it, positionally however large or
small it is, and without a point if it is whole. Reading takes the usual decimal notation and the
words for infinity and NaN, and rounds once, straight to the width asked for.
-/

namespace Resultset
set_option autoImplicit false

namespace PowerOfTenMultiple

def whole (x : PowerOfTenMultiple) : List Char :=
  Nat.toDigits 10 (x.coefficient * 10 ^ x.exponent.toNat / 10 ^ (-x.exponent).toNat)

def fraction (x : PowerOfTenMultiple) : List Char :=
  Text.fixedDigits (-x.exponent).toNat x.coefficient

end PowerOfTenMultiple

namespace Floating

/-! ## Writing -/

/-- A magnitude in positional notation. Of two nearest decimals the larger is taken. -/
def magnitudeChars (x : FloatFormat.Magnitude) : List Char :=
  let decimal := x.shortest .awayFromZero
  if decimal.fraction.isEmpty then decimal.whole else decimal.whole ++ '.' :: decimal.fraction

def signChars (negative : Bool) : List Char := if negative then ['-'] else []

def chars : FloatFormat.Decoded → List Char
  | .nan => "NaN".toList
  | .infinite negative => signChars negative ++ "inf".toList
  | .finite negative x => signChars negative ++ magnitudeChars x

/-! ## Reading -/

/-- What a text of a number denotes, before it is rounded to a width. -/
inductive Literal where
  | nan
  | infinite
  | decimal (x : PowerOfTenMultiple)
deriving DecidableEq, Repr

inductive ReadError where
  | empty
  | invalid
deriving DecidableEq, Repr

def ReadError.message : ReadError → String
  | .empty => "cannot parse float from empty string"
  | .invalid => "invalid float literal"

/-- From here on an exponent does not grow with more digits: no width reaches as far. -/
def exponentLimit : Nat := 2 ^ (16 : Nat)

/-- The exponent `n` with more digits behind it, up to the first one that reaches the limit. -/
def growExponent (n : Nat) : List Char → Nat
  | [] => n
  | c :: digits =>
    growExponent (if n < exponentLimit then 10 * n + (c.toNat - '0'.toNat) else n) digits

/-- The power of ten written after the digits, if it is well formed. -/
def readExponent? : List Char → Option Int
  | [] => some 0
  | mark :: rest =>
    let (negative, digits) := Text.splitSign rest
    if (mark == 'e' || mark == 'E') && !digits.isEmpty && digits.all Char.isDigit then
      let n : Int := growExponent 0 digits
      some (if negative then -n else n)
    else none

/-- Digits with an optional point among or beside them and an optional exponent. -/
def readDecimal? (text : List Char) : Option PowerOfTenMultiple :=
  let whole := text.takeWhile Char.isDigit
  let afterWhole := text.dropWhile Char.isDigit
  let (fraction, rest) := match afterWhole with
    | '.' :: afterPoint => (afterPoint.takeWhile Char.isDigit, afterPoint.dropWhile Char.isDigit)
    | _ => ([], afterWhole)
  if whole.isEmpty && fraction.isEmpty then none
  else
    (readExponent? rest).map fun exponent =>
      ⟨Nat.ofDigitChars 10 (whole ++ fraction) 0, exponent - fraction.length⟩

def readLiteral (text : List Char) : Except ReadError (Bool × Literal) :=
  if text.isEmpty then .error .empty
  else
    let (negative, body) := Text.splitSign text
    let word := body.map Char.toLower
    if word = "inf".toList ∨ word = "infinity".toList then .ok (negative, .infinite)
    else if word = "nan".toList then .ok (negative, .nan)
    else
      match readDecimal? body with
      | some x => .ok (negative, .decimal x)
      | none => .error .invalid

/-! ## Rounding to a width -/

/-- The double nearest to `coefficient * 10 ^ exponent`. -/
def nearestDouble (x : PowerOfTenMultiple) : Float :=
  Float.ofScientific x.coefficient (decide (x.exponent < 0)) x.exponent.natAbs

/-- The single nearest to `coefficient * 10 ^ exponent`. -/
def nearestSingle (x : PowerOfTenMultiple) : Float32 :=
  Float32.ofScientific x.coefficient (decide (x.exponent < 0)) x.exponent.natAbs

def nanDouble : Float := 0.0 / 0.0
def infiniteDouble : Float := 1.0 / 0.0
def nanSingle : Float32 := 0.0 / 0.0
def infiniteSingle : Float32 := 1.0 / 0.0

def Literal.toDouble : Literal → Float
  | .nan => nanDouble
  | .infinite => infiniteDouble
  | .decimal x => nearestDouble x

def Literal.toSingle : Literal → Float32
  | .nan => nanSingle
  | .infinite => infiniteSingle
  | .decimal x => nearestSingle x

def readDouble (text : List Char) : Except ReadError Float :=
  (readLiteral text).map fun (negative, literal) =>
    if negative then -literal.toDouble else literal.toDouble

def readSingle (text : List Char) : Except ReadError Float32 :=
  (readLiteral text).map fun (negative, literal) =>
    if negative then -literal.toSingle else literal.toSingle

end Floating
end Resultset
