import Mathlib.Algebra.Order.Field.Basic
import Resultset.Proofs.Fitting

/-! # Decimals brought to a scale

`Decimal.number` is the number of a decimal as a rational, and `Decimal.IsRounding` says that a
decimal is a number rounded to a scale by a rule. Whatever a decimal is quantized to is such a
rounding of its number (`isRounding_of_quantize?`), which bounds the error by half a unit in the last
place and leaves no error where the scale is fine enough. `toScale_exact` puts this together for ties
to even.
-/

namespace Resultset.Decimal
set_option autoImplicit false

/-! ## Numbers -/

def number (d : Decimal) : ℚ := d.coefficient / 10 ^ d.scale

theorem number_eq (d : Decimal) :
    d.number = if d.negative = true then -d.magnitude else d.magnitude := by
  rw [number, coefficient, magnitude]
  split
  · push_cast
    exact neg_div _ _
  · rfl

theorem magnitude_nonneg (d : Decimal) : 0 ≤ d.magnitude := by
  rw [magnitude]
  positivity

theorem abs_number (d : Decimal) : |d.number| = d.magnitude := by
  rw [number_eq]
  split
  · rw [abs_neg, abs_of_nonneg d.magnitude_nonneg]
  · rw [abs_of_nonneg d.magnitude_nonneg]

theorem magnitude_eq_zero_iff {d : Decimal} : d.magnitude = 0 ↔ d.mantissa = 0 := by
  rw [magnitude, div_eq_zero_iff, Nat.cast_eq_zero, or_iff_left (by positivity)]

theorem number_neg_iff {d : Decimal} :
    d.number < 0 ↔ d.negative = true ∧ d.mantissa ≠ 0 := by
  have hpos : 0 < d.magnitude ↔ d.mantissa ≠ 0 := by
    rw [d.magnitude_nonneg.lt_iff_ne', ne_eq, magnitude_eq_zero_iff]
  rw [number_eq]
  split
  · next hneg => rw [neg_lt_zero, hpos, and_iff_right hneg]
  · next hneg =>
    constructor
    · intro hlt
      exact absurd d.magnitude_nonneg (not_le_of_gt hlt)
    · intro h
      exact absurd h.1 hneg

theorem sameNumber_iff {a b : Decimal} : a.sameNumber b = true ↔ a.number = b.number := by
  have ha : (10 : ℚ) ^ a.scale ≠ 0 := by positivity
  have hb : (10 : ℚ) ^ b.scale ≠ 0 := by positivity
  rw [sameNumber, beq_iff_eq, number, number, div_eq_div_iff ha hb]
  exact_mod_cast Iff.rfl

/-! ## Roundings -/

/-- The decimal is the number `x` rounded to a scale by the rule. A zero has either sign. -/
structure IsRounding (tie : Tie) (x : ℚ) (scale : ℕ) (r : Decimal) : Prop where
  scale_eq : r.scale = scale
  rounds : tie.Rounds (|x| * 10 ^ scale) r.mantissa
  sign : r.mantissa ≠ 0 → (r.negative = true ↔ x < 0)

namespace IsRounding

variable {tie : Tie} {x : ℚ} {scale : ℕ} {r s : Decimal}

theorem number_eq (h : IsRounding tie x scale r) :
    r.number = if x < 0 then -(r.mantissa / 10 ^ scale : ℚ) else r.mantissa / 10 ^ scale := by
  rw [Decimal.number_eq, magnitude, h.scale_eq]
  by_cases hzero : r.mantissa = 0
  · simp [hzero]
  · simp only [h.sign hzero]

theorem abs_error (h : IsRounding tie x scale r) :
    |r.number - x| = |(|x| - r.mantissa / 10 ^ scale)| := by
  rw [h.number_eq]
  split
  · next hneg =>
    rw [abs_of_neg hneg]
    congr 1
    ring
  · next hneg =>
    rw [abs_of_nonneg (not_lt.mp hneg)]
    exact abs_sub_comm _ _

theorem abs_error_le (h : IsRounding tie x scale r) : |r.number - x| ≤ 1 / 10 ^ scale / 2 := by
  have hpos : (0 : ℚ) < 10 ^ scale := by positivity
  have herror : |x| - r.mantissa / 10 ^ scale = (|x| * 10 ^ scale - r.mantissa) / 10 ^ scale := by
    field_simp
  rw [h.abs_error, herror, abs_div, abs_of_pos hpos, div_right_comm]
  exact div_le_div_of_nonneg_right h.rounds.near hpos.le

/-- A number with at most `scale` digits after the point is left as it is. -/
theorem number_eq_self (h : IsRounding tie x scale r) {n : ℕ} (hx : |x| * 10 ^ scale = n) :
    r.number = x := by
  have hmantissa : r.mantissa = n := h.rounds.unique (hx ▸ .refl tie n)
  have hpos : (10 : ℚ) ^ scale ≠ 0 := by positivity
  have habs : |x| = r.mantissa / 10 ^ scale := by rw [hmantissa, ← hx, mul_div_cancel_right₀ _ hpos]
  rw [← sub_eq_zero, ← abs_eq_zero, h.abs_error, habs, sub_self, abs_zero]

theorem alike (hr : IsRounding tie x scale r) (hs : IsRounding tie x scale s) : r.Alike s := by
  refine ⟨hr.scale_eq.trans hs.scale_eq.symm, sameNumber_iff.mpr ?_⟩
  rw [hr.number_eq, hs.number_eq, hr.rounds.unique hs.rounds]

end IsRounding

theorem isRounding_of_rounds {tie : Tie} {d : Decimal} {scale q : ℕ}
    (hq : tie.Rounds (d.magnitude * 10 ^ scale) q) (hle : q ≤ maxMantissa) :
    IsRounding tie d.number scale ⟨d.signAt q, q, scale, hle⟩ where
  scale_eq := rfl
  rounds := by rwa [abs_number]
  sign := by
    intro hne
    have hmantissa : d.mantissa ≠ 0 := by
      intro hzero
      rw [magnitude_eq_zero_iff.mpr hzero, zero_mul] at hq
      exact hne (hq.unique (by exact_mod_cast Tie.Rounds.refl tie 0))
    -- what is left is that a number which is not zero has its sign
    rw [signAt_iff, number_neg_iff]
    tauto

theorem isRounding_of_quantize? {tie : Tie} {d r : Decimal} {scale : ℕ}
    (hd : d.scale ≤ scale + 29) (hscale : scale ≤ maxScale) (h : d.quantize? tie scale = some r) :
    IsRounding tie d.number scale r := by
  obtain ⟨q, hq⟩ := d.exists_rounds tie scale
  rw [quantize?_of_rounds hd hscale hq, of?] at h
  split at h
  · next hle =>
    rw [Option.some.injEq] at h
    exact h ▸ isRounding_of_rounds hq hle
  · contradiction

theorem isRounding_of_fit {d r : Decimal} {precision scale : ℕ} (hd : d.scale ≤ maxScale)
    (hscale : scale ≤ maxScale) (h : d.fit precision scale = .ok r) :
    IsRounding .awayFromZero d.number scale r := by
  have hfit := (fit_ok_iff hscale).mp h
  rw [fit?, Option.filter_eq_some_iff] at hfit
  exact isRounding_of_quantize? (scale_le_add hd scale) hscale hfit.1

/-! ## Ties to even -/

theorem toScale_ok_iff {d r : Decimal} {scale : ℕ} (hd : d.scale ≤ maxScale) :
    d.toScale scale = .ok r ↔ d.quantize? .toEven scale = some r := by
  rw [toScale, if_pos (roundable_of_scale_le hd scale)]
  cases d.quantize? .toEven scale with
  | none => exact ⟨nofun, nofun⟩
  | some q => rw [Except.ok.injEq, Option.some.injEq]

theorem toScale_of_rounds {d : Decimal} {scale q : ℕ} (hd : d.scale ≤ maxScale)
    (hscale : scale ≤ maxScale) (hq : Tie.toEven.Rounds (d.magnitude * 10 ^ scale) q) :
    d.toScale scale =
      if h : q ≤ maxMantissa then .ok ⟨d.signAt q, q, scale, h⟩
      else .error (.scaleOutOfRange d scale) := by
  rw [toScale, if_pos (Or.inr hscale), quantize?_of_rounds (scale_le_add hd scale) hscale hq, of?]
  by_cases hroom : q ≤ maxMantissa
  · rw [dif_pos hroom, dif_pos hroom]
  · rw [dif_neg hroom, dif_neg hroom]

theorem isRounding_of_toScale {d r : Decimal} {scale : ℕ} (hd : d.scale ≤ maxScale)
    (hscale : scale ≤ maxScale) (h : d.toScale scale = .ok r) :
    IsRounding .toEven d.number scale r :=
  isRounding_of_quantize? (scale_le_add hd scale) hscale ((toScale_ok_iff hd).mp h)

/-- Appended zeros leave the number as it is. -/
theorem number_of_toScale {d r : Decimal} {scale : ℕ} (hle : d.scale ≤ scale)
    (hscale : scale ≤ maxScale) (h : d.toScale scale = .ok r) : r.number = d.number := by
  have hinteger : |d.number| * 10 ^ scale = (d.mantissa * 10 ^ (scale - d.scale) : ℕ) := by
    rw [abs_number]
    exact magnitude_of_scale_le hle
  exact (isRounding_of_toScale (hle.trans hscale) hscale h).number_eq_self hinteger

/-- A decimal is brought to a scale exactly if the integer that its magnitude is rounded to there, a
tie to the even one, fits a mantissa. It is then that integer at exactly the scale, with the sign of
the decimal unless a number is rounded to zero. Padding keeps the number, and decimals of one number
have one result up to the sign of a zero. -/
theorem toScale_exact {d : Decimal} (hd : d.scale ≤ maxScale) {scale : ℕ}
    (hscale : scale ≤ maxScale) :
    (∃ q : ℕ, (∀ n : ℕ, Tie.toEven.Rounds (d.magnitude * 10 ^ scale) n ↔ n = q) ∧
      (∀ r, d.toScale scale = .ok r ↔ q ≤ maxMantissa ∧ r.mantissa = q ∧ r.scale = scale ∧
        (r.negative = true ↔ d.negative = true ∧ (q ≠ 0 ∨ d.mantissa = 0))) ∧
      (¬ q ≤ maxMantissa → d.toScale scale = .error (.scaleOutOfRange d scale))) ∧
    (d.scale ≤ scale → ∀ r, d.toScale scale = .ok r → r.sameNumber d = true) ∧
    ∀ e : Decimal, e.scale ≤ maxScale → d.sameNumber e = true →
      (∀ r, d.toScale scale = .ok r → ∃ s, e.toScale scale = .ok s ∧ r.Alike s) ∧
      (d.toScale scale = .error (.scaleOutOfRange d scale) →
        e.toScale scale = .error (.scaleOutOfRange e scale)) := by
  obtain ⟨q, hq⟩ := d.exists_rounds .toEven scale
  have hresult := toScale_of_rounds hd hscale hq
  refine ⟨⟨q, fun n => ⟨fun hn => hn.unique hq, fun hn => hn ▸ hq⟩, fun r => ?_, fun hnot => ?_⟩,
    fun hle r hr => sameNumber_iff.mpr (number_of_toScale hle hscale hr), fun e he hsame => ?_⟩
  · rw [hresult, ← signAt_iff, ← Bool.eq_iff_iff]
    by_cases hroom : q ≤ maxMantissa
    · rw [dif_pos hroom, and_iff_right hroom, Except.ok.injEq, mk_eq_iff]
    · rw [dif_neg hroom]
      exact ⟨nofun, fun h => absurd h.1 hroom⟩
  · rw [hresult, dif_neg hnot]
  · have hnumber : d.number = e.number := sameNumber_iff.mp hsame
    -- the magnitudes are one number too, so both are rounded to the same integer
    have heq : Tie.toEven.Rounds (e.magnitude * 10 ^ scale) q := by
      rwa [← abs_number, ← hnumber, abs_number]
    have hresult' := toScale_of_rounds he hscale heq
    by_cases hroom : q ≤ maxMantissa
    · rw [dif_pos hroom] at hresult hresult'
      refine ⟨fun r hr => ⟨_, hresult', ?_⟩, fun herror => absurd (hresult.symm.trans herror) nofun⟩
      exact (isRounding_of_toScale hd hscale hr).alike
        (hnumber ▸ isRounding_of_toScale he hscale hresult')
    · rw [dif_neg hroom] at hresult hresult'
      exact ⟨fun r hr => absurd (hresult.symm.trans hr) nofun, fun _ => hresult'⟩

/-- `2.345` lies half way between `2.34` and `2.35`, and the even digit is taken. -/
theorem toScale_exact_at_tie :
    (⟨false, 2345, 3, by decide⟩ : Decimal).scale ≤ maxScale ∧ 2 ≤ maxScale ∧
      (⟨false, 2345, 3, by decide⟩ : Decimal).toScale 2 = .ok ⟨false, 234, 2, by decide⟩ := by
  have hd : (⟨false, 2345, 3, by decide⟩ : Decimal).scale ≤ maxScale := by decide
  have hscale : 2 ≤ maxScale := by decide
  refine ⟨hd, hscale, ?_⟩
  obtain ⟨⟨q, hq, hok, _⟩, _⟩ := toScale_exact hd hscale
  have htie : Tie.toEven.Rounds
      ((⟨false, 2345, 3, by decide⟩ : Decimal).magnitude * 10 ^ 2) 234 := by
    constructor <;> norm_num [magnitude, Tie.Takes, abs_le]
  obtain rfl := (hq 234).mp htie
  exact (hok _).mpr (by decide)

/-- The number `-0.005` at two digits after the point is a zero without a sign. -/
theorem sign_lost_at_tie :
    (⟨true, 5, 3, by decide⟩ : Decimal).toScale 2 = .ok ⟨false, 0, 2, by decide⟩ ∧
      ¬ ∀ (d r : Decimal) (scale : ℕ), d.scale ≤ maxScale → scale ≤ maxScale →
        d.toScale scale = .ok r → r.negative = d.negative := by
  have hscaled : (⟨true, 5, 3, by decide⟩ : Decimal).toScale 2 =
    .ok ⟨false, 0, 2, by decide⟩ := rfl
  refine ⟨hscaled, fun hsigned => ?_⟩
  have := hsigned _ _ 2 (by decide) (by decide) hscaled
  contradiction

end Resultset.Decimal
