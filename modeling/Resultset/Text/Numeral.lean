/-! # Runs of decimal digits

A numeral is a list of ASCII digits. Printing is `Nat.toDigits 10` (no leading zero) and
`fixedDigits` (a fixed number of places); reading is `readDigits`, which walks the digits from the
left and stops at the first one that is no digit or that would carry the number past a bound.
-/

namespace Resultset
set_option autoImplicit false

-- A power is the one of the core library, also where another library brings its own. For that a
-- literal exponent states its type.
attribute [scoped instance (high)] instPowNat

namespace Text

/-- The value of an ASCII digit. -/
def digitValue? (c : Char) : Option Nat :=
  if c.isDigit then some (c.toNat - '0'.toNat) else none

/-- The last `places` decimal digits of `n`, zeros in front included. -/
def fixedDigits : (places n : Nat) → List Char
  | 0, _ => []
  | places + 1, n => fixedDigits places (n / 10) ++ [(n % 10).digitChar]

/-- Why a run of characters is not a numeral within a bound. -/
inductive NumeralError where
  | notADigit
  | overBound
deriving DecidableEq, Repr

/-- Reads digits to the right of a number that is already `n`. At each character the digit test
comes before the bound, so the fault furthest to the left is the one reported. -/
def readDigits (bound : Nat) : (n : Nat) → List Char → Except NumeralError Nat
  | n, [] => .ok n
  | n, c :: rest =>
    match digitValue? c with
    | none => .error .notADigit
    | some d =>
      if 10 * n + d ≤ bound then readDigits bound (10 * n + d) rest else .error .overBound

/-- Whether the text starts with a minus sign, and the text after its optional sign. -/
def splitSign : List Char → Bool × List Char
  | '-' :: rest => (true, rest)
  | '+' :: rest => (false, rest)
  | text => (false, text)

/-- An unsigned numeral of at least one digit, with an optional plus sign, no larger than
`bound`. -/
def readUnsigned? (bound : Nat) (text : List Char) : Option Nat :=
  let digits := match text with
    | '+' :: rest => rest
    | _ => text
  if digits.isEmpty then none else (readDigits bound 0 digits).toOption

/-! ## Laws -/

theorem digitValue?_of_isDigit {c : Char} (h : c.isDigit = true) :
    digitValue? c = some (c.toNat - '0'.toNat) := by
  simp [digitValue?, h]

theorem digitValue?_eq_none_iff {c : Char} : digitValue? c = none ↔ c.isDigit = false := by
  simp [digitValue?]

theorem length_fixedDigits (places n : Nat) : (fixedDigits places n).length = places := by
  induction places generalizing n with
  | zero => rfl
  | succ places ih => simp [fixedDigits, ih]

theorem readDigits_le {bound n m : Nat} {digits : List Char} (hn : n ≤ bound)
    (h : readDigits bound n digits = .ok m) : m ≤ bound := by
  induction digits generalizing n with
  | nil =>
    simp only [readDigits, Except.ok.injEq] at h
    omega
  | cons c digits ih =>
    simp only [readDigits] at h
    split at h
    · exact absurd h nofun
    · split at h
      · exact ih (by assumption) h
      · exact absurd h nofun

end Text
end Resultset
