import Resultset.Integer.Width
import Resultset.Text.Numeral

/-! # Integers as text

Printing writes a minus sign and the digits. Reading takes one optional sign and at least one digit,
any number of leading zeros included, and reports the first fault from the left.
-/

namespace Resultset.Integer
set_option autoImplicit false

def chars (n : Int) : List Char :=
  if n < 0 then '-' :: Nat.toDigits 10 n.natAbs else Nat.toDigits 10 n.natAbs

def text (n : Int) : String := String.ofList (chars n)

/-- Why a text is no integer of a width. -/
inductive ReadError where
  | empty
  | invalidDigit
  | tooLarge
  | tooSmall
deriving DecidableEq, Repr

def ReadError.message : ReadError → String
  | .empty => "cannot parse integer from empty string"
  | .invalidDigit => "invalid digit found in string"
  | .tooLarge => "number too large to fit in target type"
  | .tooSmall => "number too small to fit in target type"

/-- The integer that the text denotes, if it is one that the width holds. A sign alone is a faulty
digit. -/
def read (w : IntWidth) (text : List Char) : Except ReadError Int :=
  if text.isEmpty then .error .empty
  else
    let (negative, digits) := Text.splitSign text
    if digits.isEmpty then .error .invalidDigit
    else
      match Text.readDigits (if negative then w.half else w.half - 1) 0 digits with
      | .ok n => .ok (if negative then -n else n)
      | .error .notADigit => .error .invalidDigit
      | .error .overBound => .error (if negative then .tooSmall else .tooLarge)

/-- What is read at a width is in the range of the width. -/
theorem holds_of_read {w : IntWidth} {text : List Char} {n : Int} (h : read w text = .ok n) :
    w.Holds n := by
  have hpos : 0 < w.half := by cases w <;> decide
  simp only [read] at h
  split at h
  · exact absurd h nofun
  · split at h
    · exact absurd h nofun
    · split at h
      · next m hm =>
        have hle := Text.readDigits_le (Nat.zero_le _) hm
        simp only [Except.ok.injEq] at h
        subst h
        unfold IntWidth.Holds
        split at hle <;> split <;> simp_all <;> omega
      · exact absurd h nofun
      · exact absurd h nofun

/-- The number of width `w` that the text denotes. -/
def readNumber (w : IntWidth) (text : List Char) : Except ReadError w.Number :=
  match h : read w text with
  | .ok n => .ok ⟨n, holds_of_read h⟩
  | .error e => .error e

end Resultset.Integer
