import Resultset.Decimal.Basic
import Resultset.Text.Numeral

/-! # Decimals at a given scale

`roundDiv` rounds a quotient to the nearest integer and takes the rule for a tie as a parameter.
`Decimal.round` drops digits by the same rule, with one half held in the width of a mantissa, so
that the two agree as long as at most 29 digits are dropped (`dropDigits_eq_roundDiv`).
`Decimal.pad` appends zeros as long as the mantissa has room, and `Decimal.quantize?` does whichever
is needed and answers only when the scale asked for was reached. `Decimal.fit?` adds a bound on the
number of digits.
-/

namespace Resultset
set_option autoImplicit false

/-! ## Rounding a quotient -/

/-- Where a quotient half way between two integers goes. -/
inductive Tie where
  | awayFromZero
  | toEven
deriving DecidableEq, Repr

/-- The integer that a quotient is rounded to: `floor` is the one below it, and its fraction
compares with one half as the ordering says. -/
def Tie.settle (tie : Tie) (floor : Nat) : Ordering → Nat
  | .lt => floor
  | .gt => floor + 1
  | .eq =>
    match tie with
    | .awayFromZero => floor + 1
    | .toEven => floor + floor % 2

/-- The quotient `n / d` rounded to the nearest integer. -/
def roundDiv (tie : Tie) (n d : Nat) : Nat := tie.settle (n / d) (compare (2 * (n % d)) d)

theorem Tie.settle_le_succ (tie : Tie) (floor : Nat) (order : Ordering) :
    tie.settle floor order ≤ floor + 1 := by
  cases order with
  | lt => exact Nat.le_succ floor
  | gt => exact Nat.le_refl _
  | eq => cases tie <;> simp only [settle] <;> omega

namespace Decimal

/-! ## Fewer digits -/

/-- Half a unit in the last place that is kept when `dropped` digits go, held in the width of a
mantissa. From 30 digits on it is too wide, and its low bits stand for it. -/
def halfUnit (dropped : Nat) : Nat := 5 * 10 ^ (dropped - 1) % (maxMantissa + 1)

/-- The mantissa without its last `dropped` digits, rounded. -/
def dropDigits (tie : Tie) (mantissa dropped : Nat) : Nat :=
  tie.settle (mantissa / 10 ^ dropped) (compare (mantissa % 10 ^ dropped) (halfUnit dropped))

theorem halfUnit_of_le {dropped : Nat} (h : dropped ≤ 29) :
    halfUnit dropped = 5 * 10 ^ (dropped - 1) := by
  have hpow : 10 ^ (dropped - 1) ≤ 10 ^ 28 := Nat.pow_le_pow_right (by decide) (by omega)
  refine Nat.mod_eq_of_lt (Nat.lt_of_le_of_lt (Nat.mul_le_mul_left 5 hpow) ?_)
  decide

/-- Where one half has its full width, dropping digits is rounding a quotient. -/
theorem dropDigits_eq_roundDiv (tie : Tie) (mantissa : Nat) {dropped : Nat} (hpos : 0 < dropped)
    (hle : dropped ≤ 29) :
    dropDigits tie mantissa dropped = roundDiv tie mantissa (10 ^ dropped) := by
  have hpow : 10 ^ dropped = 2 * (5 * 10 ^ (dropped - 1)) := by
    obtain ⟨k, rfl⟩ := Nat.exists_eq_succ_of_ne_zero (Nat.ne_of_gt hpos)
    rw [Nat.succ_sub_one, Nat.pow_succ]
    omega
  rw [dropDigits, roundDiv, halfUnit_of_le hle]
  congr 1
  generalize mantissa % 10 ^ dropped = r
  rw [hpow]
  simp only [Nat.compare_eq_ite_lt]
  grind

theorem dropDigits_le (tie : Tie) {mantissa dropped : Nat} (hm : mantissa ≤ maxMantissa)
    (hpos : 0 < dropped) : dropDigits tie mantissa dropped ≤ maxMantissa := by
  have hsettle := tie.settle_le_succ (mantissa / 10 ^ dropped)
    (compare (mantissa % 10 ^ dropped) (halfUnit dropped))
  have hten : 10 ^ 1 ≤ 10 ^ dropped := Nat.pow_le_pow_right (by decide) hpos
  have hdiv : mantissa / 10 ^ dropped ≤ mantissa / 10 := Nat.div_le_div_left hten (by decide)
  unfold dropDigits
  unfold maxMantissa at *
  omega

/-- Whether the decimal can be rounded to `scale`. Digits past `maxScale`, which only padding
appends, can be dropped all together, but not some of them alone. -/
abbrev Roundable (scale : Nat) (d : Decimal) : Prop := d.scale ≤ scale ∨ scale ≤ maxScale

theorem roundable_of_scale_le {d : Decimal} (h : d.scale ≤ maxScale) (scale : Nat) :
    d.Roundable scale := by
  unfold Roundable
  omega

/-- The decimal with at most `scale` digits after the point, its sign untouched. -/
def shorten (tie : Tie) (scale : Nat) (d : Decimal) : Decimal :=
  if h : d.scale ≤ scale then d
  else
    ⟨d.negative, dropDigits tie d.mantissa (d.scale - scale), scale,
      dropDigits_le tie d.mantissa_le (Nat.sub_pos_of_lt (Nat.lt_of_not_le h))⟩

theorem shorten_of_le {tie : Tie} {scale : Nat} {d : Decimal} (h : d.scale ≤ scale) :
    d.shorten tie scale = d := dif_pos h

theorem scale_shorten_le (tie : Tie) (scale : Nat) (d : Decimal) :
    (d.shorten tie scale).scale ≤ scale := by
  unfold shorten
  split
  · assumption
  · exact Nat.le_refl _

theorem negative_shorten (tie : Tie) (scale : Nat) (d : Decimal) :
    (d.shorten tie scale).negative = d.negative := by
  unfold shorten
  split <;> rfl

/-- The decimal with at most `scale` digits after the point. A number that is rounded to zero loses
its sign, whereas a zero keeps it. -/
def round (tie : Tie) (scale : Nat) (d : Decimal) : Decimal :=
  let s := d.shorten tie scale
  if d.mantissa ≠ 0 ∧ s.mantissa = 0 then { s with negative := false } else s

theorem round_of_le {tie : Tie} {scale : Nat} {d : Decimal} (h : d.scale ≤ scale) :
    d.round tie scale = d := by
  simp only [round, shorten_of_le h]
  exact if_neg fun hd => hd.1 hd.2

theorem scale_round (tie : Tie) (scale : Nat) (d : Decimal) :
    (d.round tie scale).scale = (d.shorten tie scale).scale := by
  simp only [round]
  split <;> rfl

theorem mantissa_round (tie : Tie) (scale : Nat) (d : Decimal) :
    (d.round tie scale).mantissa = (d.shorten tie scale).mantissa := by
  simp only [round]
  split <;> rfl

/-! ## More digits -/

/-- How many of `wanted` zeros can be appended to the mantissa, one after the other. -/
def room : (wanted mantissa : Nat) → Nat
  | 0, _ => 0
  | wanted + 1, mantissa =>
    if mantissa * 10 ≤ maxMantissa then room wanted (mantissa * 10) + 1 else 0

theorem mul_room_le {wanted mantissa : Nat} (h : mantissa ≤ maxMantissa) :
    mantissa * 10 ^ room wanted mantissa ≤ maxMantissa := by
  induction wanted generalizing mantissa with
  | zero => simpa [room] using h
  | succ wanted ih =>
    unfold room
    split
    · next hroom =>
      have := ih hroom
      rwa [Nat.pow_succ', ← Nat.mul_assoc]
    · simpa using h

/-- The decimal with zeros appended up to `scale` digits after the point, or up to the last one
that the mantissa has room for. A zero has no such limit of its own and stops at `maxScale`. -/
def pad (scale : Nat) (d : Decimal) : Decimal :=
  if d.scale = scale then d
  else if d.mantissa = 0 then { d with scale := min scale maxScale }
  else
    let zeros := room (scale - d.scale) d.mantissa
    ⟨d.negative, d.mantissa * 10 ^ zeros, d.scale + zeros, mul_room_le d.mantissa_le⟩

/-! ## An exact number of digits -/

/-- The decimal with exactly `scale` digits after the point, rounded or padded as needed, if its
mantissa has room for them. -/
def quantize? (tie : Tie) (scale : Nat) (d : Decimal) : Option Decimal :=
  let q := (d.round tie scale).pad scale
  if q.scale = scale then some q else none

def digitCount (d : Decimal) : Nat := (Nat.toDigits 10 d.mantissa).length

/-- The decimal with exactly `scale` digits after the point, a tie rounded away from zero, if it
then has at most `precision` digits in all. -/
def fit? (precision scale : Nat) (d : Decimal) : Option Decimal :=
  (d.quantize? .awayFromZero scale).filter fun q => q.digitCount ≤ precision

end Decimal
end Resultset
