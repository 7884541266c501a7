import Resultset.Text.Numeral

/-! # Integer widths

The four signed widths that a column value can have, each with the range of numbers that it holds
and its SQL keyword. `w.Number` is a number of width `w`.
-/

namespace Resultset
set_option autoImplicit false

inductive IntWidth where
  | tiny
  | small
  | int
  | big
deriving DecidableEq, Repr

namespace IntWidth

def bits : IntWidth → Nat
  | tiny => 8
  | small => 16
  | int => 32
  | big => 64

/-- The keyword of the width in messages. -/
def name : IntWidth → String
  | tiny => "TINYINT"
  | small => "SMALLINT"
  | int => "INT"
  | big => "BIGINT"

/-- How many numbers below zero the width holds. -/
def half (w : IntWidth) : Nat := 2 ^ (w.bits - 1)

/-- Whether a number is in the two's complement range of the width. -/
def Holds (w : IntWidth) (n : Int) : Prop := -w.half ≤ n ∧ n < w.half

instance (w : IntWidth) (n : Int) : Decidable (w.Holds n) :=
  inferInstanceAs (Decidable (_ ∧ _))

/-- A number within the range of the width. -/
structure Number (w : IntWidth) where
  val : Int
  holds : w.Holds val
deriving DecidableEq

/-- The number at width `w`, if it is in range. -/
def number? (w : IntWidth) (n : Int) : Option w.Number :=
  if h : w.Holds n then some ⟨n, h⟩ else none

theorem half_le_half_big (w : IntWidth) : w.half ≤ big.half := by
  cases w <;> decide

theorem holds_zero (w : IntWidth) : w.Holds 0 := by
  cases w <;> decide

instance (w : IntWidth) : Inhabited w.Number := ⟨⟨0, w.holds_zero⟩⟩

/-- Every width fits into the widest. -/
theorem Holds.big {w : IntWidth} {n : Int} (h : w.Holds n) : IntWidth.big.Holds n := by
  have := w.half_le_half_big
  unfold Holds at h ⊢
  omega

theorem number?_val {w : IntWidth} (n : w.Number) : w.number? n.val = some n := by
  simp [number?, n.holds]

end IntWidth
end Resultset
