import Resultset.Decimal.Rounding
import Resultset.Text.Numeral

/-! # Reading decimals

`Decimal.read` takes plain notation: an optional sign, digits with at most one point among them, and
underscores anywhere after the first digit. Digits after the point that the mantissa or the scale
has no room for are dropped with one rounding step, decided by the first of them alone.
`Decimal.readScientific` takes plain notation followed by a power of ten. Neither trims its text.
-/

namespace Resultset.Decimal
set_option autoImplicit false

inductive ReadError where
  | empty
  | noDigits
  | secondPoint
  | leadingSeparator
  | unknownCharacter
  | tooManyDigits
  | roundedBeyondMantissa
  | malformedExponent
  | scaleTooLarge (scale : Nat)
  | beyondMantissa
deriving DecidableEq, Repr

def ReadError.message : ReadError → String
  | .empty => "Invalid decimal: empty"
  | .noDigits => "Invalid decimal: no digits found"
  | .secondPoint => "Invalid decimal: two decimal points"
  | .leadingSeparator => "Invalid decimal: must start lead with a number"
  | .unknownCharacter => "Invalid decimal: unknown character"
  | .tooManyDigits => "Invalid decimal: overflow from too many digits"
  | .roundedBeyondMantissa => "Invalid decimal: overflow from mantissa after rounding"
  | .malformedExponent => "Failed to parse"
  | .scaleTooLarge scale =>
    s!"Scale exceeds the maximum precision allowed: {scale} > {maxScale}"
  | .beyondMantissa => "Number exceeds maximum value that can be represented."

/-! ## Plain notation -/

/-- The fault of a character that cannot stand where it stands. -/
def misplaced (c : Char) : ReadError :=
  if c = '.' then .secondPoint
  else if c = '_' then .leadingSeparator
  else .unknownCharacter

structure Magnitude where
  mantissa : Nat
  scale : Nat
  mantissa_le : mantissa ≤ maxMantissa

/-- The first character of a text that is neither a digit nor an underscore. -/
def firstMisplaced? (text : List Char) : Option Char :=
  text.find? fun c => !(c.isDigit || c == '_')

/-- The magnitude rounded by the first dropped digit: five or more adds one to the mantissa. A
mantissa that this carries out of range gives up its last digit, if that stands after the point. -/
def Magnitude.roundUp (m : Magnitude) (dropped : Nat) : Except ReadError Magnitude :=
  if dropped < 5 then .ok m
  else if h : m.mantissa + 1 ≤ maxMantissa then .ok ⟨m.mantissa + 1, m.scale, h⟩
  else if m.scale = 0 then .error .roundedBeyondMantissa
  else .ok ⟨(m.mantissa + 5) / 10, m.scale - 1, by have := m.mantissa_le; omega⟩

/-- Ends the reading at the first dropped digit. The rest of the text only has to be well formed,
and is looked at after the rounding. -/
def Magnitude.drop (m : Magnitude) (dropped : Nat) (rest : List Char) :
    Except ReadError Magnitude := do
  let rounded ← m.roundUp dropped
  match firstMisplaced? rest with
  | some c => .error (misplaced c)
  | none => .ok rounded

/-- A mantissa from this one on is too long for a machine word with one more digit. -/
def wordLimit : Nat := 1844674407370954906

/-- Ends the reading after `maxScale` digits behind the point, with text left. An underscore there
stands for a dropped zero while the mantissa fits a machine word, and is skipped otherwise. -/
def Magnitude.stop (m : Magnitude) (wide : Bool) (rest : List Char) : Except ReadError Magnitude :=
  let rest := if wide then rest.dropWhile (· == '_') else rest
  match rest with
  | [] => .ok m
  | c :: rest =>
    if c = '_' then m.drop 0 rest
    else
      match Text.digitValue? c with
      | some d => m.drop d rest
      | none => .error (misplaced c)

/-- Reads on from the magnitude `m`: `started` once there was a digit, `fractional` once there was
the point. -/
def scan (started fractional : Bool) (m : Magnitude) : List Char → Except ReadError Magnitude
  | [] => if started then .ok m else .error .noDigits
  | c :: rest =>
    match Text.digitValue? c with
    | some d =>
      if h : 10 * m.mantissa + d ≤ maxMantissa then
        let next : Magnitude :=
          ⟨10 * m.mantissa + d, if fractional then m.scale + 1 else m.scale, h⟩
        if fractional && next.scale == maxScale && !rest.isEmpty then
          next.stop (wordLimit ≤ m.mantissa) rest
        else scan true fractional next rest
      else if fractional then m.drop d rest
      else .error .tooManyDigits
    | none =>
      if c = '.' ∧ fractional = false then scan started true m rest
      else if c = '_' ∧ started = true then scan started fractional m rest
      else .error (misplaced c)

/-- The decimal written in plain notation. Zero is read without its sign. -/
def read (text : List Char) : Except ReadError Decimal :=
  if text.isEmpty then .error .empty
  else
    let (negative, digits) := Text.splitSign text
    match scan false false ⟨0, 0, Nat.zero_le _⟩ digits with
    | .ok m => .ok ⟨negative && m.mantissa != 0, m.mantissa, m.scale, m.mantissa_le⟩
    | .error e => .error e

/-! ## Scientific notation -/

def isExponentMark (c : Char) : Bool := c == 'e' || c == 'E'

/-- The largest exponent that is looked at. -/
def maxExponent : Nat := 2 ^ (32 : Nat) - 1

/-- The quotient `d / 10 ^ n`, by raising the scale. Digits for which that leaves no room are
rounded away first, a tie away from zero. -/
def lower (d : Decimal) (n : Nat) : Except ReadError Decimal :=
  if maxScale < n then .error (.scaleTooLarge n)
  else
    let s := d.shorten .awayFromZero (maxScale - n)
    .ok { s with scale := s.scale + n }

/-- The product `d * 10 ^ n`, by lowering the scale and, once that is 0, raising the mantissa. -/
def raise (d : Decimal) (n : Nat) : Except ReadError Decimal :=
  if n ≤ d.scale then .ok { d with scale := d.scale - n }
  else if maxScale < n then .error (.scaleTooLarge n)
  else if d.mantissa = 0 then .ok zero
  else
    match of? d.negative (d.mantissa * 10 ^ (n - d.scale)) 0 with
    | some r => .ok r
    | none => .error .beyondMantissa

/-- The decimal written as plain notation, an exponent mark and an exponent. -/
def readScientific (text : List Char) : Except ReadError Decimal :=
  match text.dropWhile (!isExponentMark ·) with
  | [] => .error .malformedExponent
  | _ :: exponent => do
    let base ← read (text.takeWhile (!isExponentMark ·))
    match exponent with
    | '-' :: digits =>
      match Text.readUnsigned? maxExponent digits with
      | some n => base.lower n
      | none => .error .malformedExponent
    | _ =>
      match Text.readUnsigned? maxExponent exponent with
      | some n => base.raise n
      | none => .error .malformedExponent

/-- Plain notation if it is that, else scientific notation. What is neither is reported as the
latter. -/
def readAny (text : List Char) : Except ReadError Decimal :=
  match read text with
  | .ok d => .ok d
  | .error _ => readScientific text

end Resultset.Decimal
