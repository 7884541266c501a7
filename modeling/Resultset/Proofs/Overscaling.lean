import Resultset.Decimal.Text
import Resultset.Proofs.Rescaling

/-! # Scales past the largest

A decimal is read with at most `maxScale` digits after the point, but is brought to a larger scale
all the same as long as it is not zero and its mantissa has room for the zeros (`Paddable`). That
reaches twice the largest scale, and what comes out can be shown up to 30 digits after the point. From
there it can be rounded to any scale up to `maxScale` (`toScale_of_maxScale_lt`), where from 30 dropped
digits on the result need not be the nearest.
-/

namespace Resultset.Decimal
set_option autoImplicit false

/-- Whether the mantissa has room for the zeros up to `scale`. A zero has none past `maxScale`. -/
def Paddable (d : Decimal) (scale : ℕ) : Prop :=
  d.mantissa ≠ 0 ∧ d.mantissa * 10 ^ (scale - d.scale) ≤ maxMantissa

def Paddable.padded {d : Decimal} {scale : ℕ} (h : d.Paddable scale) : Decimal :=
  ⟨d.negative, d.mantissa * 10 ^ (scale - d.scale), scale, h.2⟩

/-! ## Padding past the largest scale -/

/-- A number is brought to more digits exactly if there is room for the zeros. -/
theorem quantize?_of_ne_zero (tie : Tie) {d : Decimal} (hne : d.mantissa ≠ 0) {scale : ℕ}
    (hle : d.scale ≤ scale) :
    (∀ h : d.Paddable scale, d.quantize? tie scale = some h.padded) ∧
    (¬ d.Paddable scale → d.quantize? tie scale = none) := by
  rw [quantize?_of_mantissa_ne_zero tie hle hne, of?]
  exact ⟨fun h => dif_pos h.2, fun h => dif_neg fun hfits => h ⟨hne, hfits⟩⟩

theorem quantize?_of_maxScale_lt (tie : Tie) {d : Decimal} (hd : d.scale ≤ maxScale) {scale : ℕ}
    (hscale : maxScale < scale) :
    (∀ h : d.Paddable scale, d.quantize? tie scale = some h.padded) ∧
    (¬ d.Paddable scale → d.quantize? tie scale = none) := by
  have hle : d.scale ≤ scale := hd.trans hscale.le
  by_cases hzero : d.mantissa = 0
  · have hne : d.scale ≠ scale := (hd.trans_lt hscale).ne
    refine ⟨fun h => absurd hzero h.1, fun _ => ?_⟩
    simp only [quantize?, round_of_le hle, pad, if_neg hne, if_pos hzero,
      Nat.min_eq_right hscale.le, if_neg hscale.ne]
  · exact quantize?_of_ne_zero tie hzero hle

theorem digitCount_le_iff_of_ne_zero {d : Decimal} (h : d.mantissa ≠ 0) {precision : ℕ} :
    d.digitCount ≤ precision ↔ d.mantissa < 10 ^ precision := by
  rw [digitCount_le_iff, and_iff_right_iff_imp]
  intro hlt
  -- a number has a digit, which no precision of zero is enough for
  by_contra hzero
  rw [Nat.eq_zero_of_not_pos hzero, Nat.pow_zero, Nat.lt_one_iff] at hlt
  contradiction

theorem fit_of_quantize? {d r : Decimal} {scale : ℕ} (precision : ℕ) (hd : d.Roundable scale)
    (h : d.quantize? .awayFromZero scale = some r) :
    d.fit precision scale =
      if r.digitCount ≤ precision then .ok r
      else .error (.precisionExceeded d precision scale) := by
  rw [fit, if_pos hd, fit?, h, Option.filter_some]
  by_cases hdigits : r.digitCount ≤ precision
  · rw [if_pos (decide_eq_true hdigits), if_pos hdigits]
  · rw [if_neg (by simpa using hdigits), if_neg hdigits]

namespace Paddable

variable {d : Decimal} {scale : ℕ}

theorem mantissa_padded_ne_zero (h : d.Paddable scale) : h.padded.mantissa ≠ 0 :=
  Nat.mul_ne_zero h.1 (Nat.pow_pos (by decide)).ne'

theorem number_padded (h : d.Paddable scale) (hle : d.scale ≤ scale) :
    h.padded.number = d.number := by
  have hmagnitude : h.padded.magnitude = d.magnitude := by
    rw [magnitude, div_eq_iff (by positivity)]
    exact (magnitude_of_scale_le hle).symm
  rw [number_eq, number_eq, hmagnitude]
  rfl

theorem scale_le (h : d.Paddable scale) (hd : d.scale ≤ maxScale) : scale ≤ 2 * maxScale := by
  by_contra hlt
  have hpow : 10 ^ (maxScale + 1) ≤ 10 ^ (scale - d.scale) :=
    Nat.pow_le_pow_right (by decide) (by omega)
  have hmore : 10 ^ (scale - d.scale) ≤ d.mantissa * 10 ^ (scale - d.scale) :=
    Nat.le_mul_of_pos_left _ (Nat.pos_of_ne_zero h.1)
  exact absurd ((hpow.trans hmore).trans h.2) (by decide)

section
variable {next : ℕ} (h : d.Paddable scale) (hle : d.scale ≤ scale) (hnext : scale ≤ next)
include hle hnext

/-- Zeros that are appended in two steps are as many as in one. -/
theorem mantissa_mul :
    h.padded.mantissa * 10 ^ (next - scale) = d.mantissa * 10 ^ (next - d.scale) := by
  have hsum : next - d.scale = (scale - d.scale) + (next - scale) := by omega
  rw [hsum, Nat.pow_add, ← Nat.mul_assoc]
  rfl

theorem paddable_padded_iff : h.padded.Paddable next ↔ d.Paddable next := by
  have hmantissa : h.padded.mantissa * 10 ^ (next - h.padded.scale) =
      d.mantissa * 10 ^ (next - d.scale) := h.mantissa_mul hle hnext
  rw [Paddable, hmantissa, Paddable, and_iff_right h.mantissa_padded_ne_zero, and_iff_right h.1]

theorem padded_padded (hagain : h.padded.Paddable next) (hmore : d.Paddable next) :
    hagain.padded = hmore.padded := by
  rw [padded, mk_eq_iff]
  exact ⟨(h.mantissa_mul hle hnext).symm, rfl, rfl⟩

end

end Paddable

theorem fit_of_maxScale_lt {d : Decimal} (hd : d.scale ≤ maxScale) (precision : ℕ) {scale : ℕ}
    (hscale : maxScale < scale) :
    (∀ h : d.Paddable scale, d.fit precision scale =
      if h.padded.mantissa < 10 ^ precision then .ok h.padded
      else .error (.precisionExceeded d precision scale)) ∧
    (¬ d.Paddable scale → d.fit precision scale = .error (.precisionExceeded d precision scale)) := by
  have hroundable : d.Roundable scale := roundable_of_scale_le hd scale
  have hquantized := quantize?_of_maxScale_lt .awayFromZero hd hscale
  constructor
  · intro h
    rw [fit_of_quantize? precision hroundable (hquantized.1 h)]
    simp only [digitCount_le_iff_of_ne_zero h.mantissa_padded_ne_zero]
  · intro h
    rw [fit, if_pos hroundable, fit?, hquantized.2 h]
    rfl

/-! ## From past the largest scale -/

/-- A decimal cannot be rounded exactly where it would lose some of its digits past the largest scale
and keep others. -/
theorem toScale_unroundable_iff {d : Decimal} {scale : ℕ} :
    (∃ e next, d.toScale scale = .error (.unroundable e next)) ↔
      maxScale < scale ∧ scale < d.scale := by
  rw [toScale]
  by_cases hroundable : d.Roundable scale
  · rw [if_pos hroundable]
    constructor
    · rintro ⟨e, next, h⟩
      split at h <;> simp only [Except.error.injEq, reduceCtorEq] at h
    · unfold Roundable at hroundable
      omega
  · rw [if_neg hroundable]
    unfold Roundable at hroundable
    exact ⟨fun _ => by omega, fun _ => ⟨d, scale, rfl⟩⟩

/-- From 30 digits on all of a mantissa is dropped, and what its low bits leave of one half decides
between nothing and a unit. -/
theorem dropDigits_of_lt {mantissa dropped : ℕ} (hm : mantissa ≤ maxMantissa)
    (hdropped : 29 < dropped) :
    dropDigits .toEven mantissa dropped = if halfUnit dropped < mantissa then 1 else 0 := by
  have hpow : 10 ^ 29 ≤ 10 ^ dropped := Nat.pow_le_pow_right (by decide) hdropped.le
  have hlt : mantissa < 10 ^ dropped := (hm.trans_lt (by decide)).trans_le hpow
  rw [dropDigits, Nat.div_eq_of_lt hlt, Nat.mod_eq_of_lt hlt]
  by_cases hmore : halfUnit dropped < mantissa
  · rw [if_pos hmore, Nat.compare_eq_gt.mpr hmore]
    rfl
  · rw [if_neg hmore]
    rcases Nat.lt_or_eq_of_le (Nat.le_of_not_lt hmore) with hless | heq
    · rw [Nat.compare_eq_lt.mpr hless]
      rfl
    · rw [Nat.compare_eq_eq.mpr heq]
      rfl

/-- A number past the largest scale is rounded to every scale below, by its digits as long as no more
than 29 go. It is not brought to any other scale with fewer digits, and to more digits if there is
room. -/
theorem toScale_of_maxScale_lt {d : Decimal} (hne : d.mantissa ≠ 0) (hd : maxScale < d.scale)
    (scale : ℕ) :
    (scale ≤ maxScale → ∃ r : Decimal, d.toScale scale = .ok r ∧ r.scale = scale ∧
      (d.scale ≤ scale + 29 → IsRounding .toEven d.number scale r) ∧
      (scale + 29 < d.scale → r.negative = d.signAt r.mantissa ∧
        r.mantissa = if halfUnit (d.scale - scale) < d.mantissa then 1 else 0)) ∧
    (maxScale < scale → scale < d.scale → d.toScale scale = .error (.unroundable d scale)) ∧
    (d.scale ≤ scale →
      (∀ h : d.Paddable scale, d.toScale scale = .ok h.padded) ∧
      (¬ d.Paddable scale → d.toScale scale = .error (.scaleOutOfRange d scale))) := by
  refine ⟨fun hscale => ?_, fun hscale hlt => ?_, fun hle => ?_⟩
  · have hlt : scale < d.scale := hscale.trans_lt hd
    have hquantized := quantize?_eq_round .toEven hlt
    refine ⟨d.round .toEven scale, ?_, scale_round_of_lt .toEven hlt, fun hdropped => ?_,
      fun hdropped => ⟨negative_round .toEven scale d, ?_⟩⟩
    · rw [toScale, if_pos (Or.inr hscale), hquantized]
    · exact isRounding_of_quantize? hdropped hscale hquantized
    · rw [mantissa_round, shorten, dif_neg (Nat.not_le_of_lt hlt)]
      exact dropDigits_of_lt d.mantissa_le (by omega)
  · have hroundable : ¬ d.Roundable scale := by
      unfold Roundable
      omega
    rw [toScale, if_neg hroundable]
  · have hquantized := quantize?_of_ne_zero .toEven hne hle
    rw [toScale, if_pos (Or.inl hle)]
    refine ⟨fun h => ?_, fun h => ?_⟩
    · rw [hquantized.1 h]
    · rw [hquantized.2 h]

-- `-0.03` with 28 zeros appended is brought to `-1`, although `0` is nearer.
example : (⟨true, 3 * 10 ^ 28, 30, by decide⟩ : Decimal).toScale 0 = .ok ⟨true, 1, 0, by decide⟩ := by
  decide

/-! ## Texts -/

theorem text?_eq_none_iff {d : Decimal} (hd : maxScale < d.scale) : d.text? = none ↔ 30 < d.scale := by
  have hpow : 10 ^ (maxScale + 1) ≤ 10 ^ d.scale := Nat.pow_le_pow_right (by decide) hd
  have hbelow : d.mantissa < 10 ^ d.scale :=
    (d.mantissa_le.trans_lt (by decide : maxMantissa < 10 ^ (maxScale + 1))).trans_le hpow
  -- the number is below one, so all digits but one follow the point
  have hscale : d.scale ≠ 0 := Nat.ne_zero_of_lt hd
  have hlength : d.unsignedChars.length = d.scale + 2 := by
    rw [unsignedChars, Nat.div_eq_of_lt hbelow, if_neg hscale, List.length_append, List.length_cons,
      Text.length_fixedDigits, Nat.toDigits_zero, List.length_singleton]
    omega
  rw [text?, hlength, textLimit, ite_eq_right_iff]
  simp only [reduceCtorEq, imp_false]
  omega

/-- Past the largest scale a decimal is brought to a scale exactly if it is paddable, and fitted to it
if its digits also stay within the precision. The number is kept, the scale is at most twice the
largest, and from 31 digits after the point on the result cannot be shown. -/
theorem scaled_past_maxScale {d : Decimal} (hd : d.scale ≤ maxScale) (precision : ℕ) {scale : ℕ}
    (hscale : maxScale < scale) :
    (d.Paddable scale →
      scale ≤ 2 * maxScale ∧ ∃ r : Decimal, r.scale = scale ∧ r.number = d.number ∧
        (r.text? = none ↔ 30 < scale) ∧ d.toScale scale = .ok r ∧
        d.fit precision scale =
          if r.mantissa < 10 ^ precision then .ok r
          else .error (.precisionExceeded d precision scale)) ∧
    (¬ d.Paddable scale →
      d.toScale scale = .error (.scaleOutOfRange d scale) ∧
        d.fit precision scale = .error (.precisionExceeded d precision scale)) := by
  have hquantized := quantize?_of_maxScale_lt .toEven hd hscale
  have hfit := fit_of_maxScale_lt hd precision hscale
  constructor
  · intro hpad
    exact ⟨hpad.scale_le hd, hpad.padded, rfl, hpad.number_padded (hd.trans hscale.le),
      text?_eq_none_iff hscale, (toScale_ok_iff hd).mpr (hquantized.1 hpad), hfit.1 hpad⟩
  · intro hpad
    refine ⟨?_, hfit.2 hpad⟩
    rw [toScale, if_pos (roundable_of_scale_le hd scale), hquantized.2 hpad]

/-- The smallest number there is has room for 28 more digits. -/
theorem scaled_past_maxScale_at_smallest :
    (⟨false, 1, 28, by decide⟩ : Decimal).scale ≤ maxScale ∧ maxScale < 56 ∧
      ∃ r, (⟨false, 1, 28, by decide⟩ : Decimal).toScale 56 = .ok r ∧ r.scale = 56 ∧
        r.text? = none := by
  have hd : (⟨false, 1, 28, by decide⟩ : Decimal).scale ≤ maxScale := by decide
  have hscale : maxScale < 56 := by decide
  refine ⟨hd, hscale, ?_⟩
  have hpad : (⟨false, 1, 28, by decide⟩ : Decimal).Paddable 56 := ⟨by decide, by decide⟩
  obtain ⟨_, r, hr, _, htext, hscaled, _⟩ := (scaled_past_maxScale hd 38 hscale).1 hpad
  exact ⟨r, hscaled, hr, htext.mpr (by decide)⟩

/-- A number of 28 digits after the point is padded to 29, for a precision and for a caller. -/
theorem maxScale_passed :
    (⟨false, 1, 28, by decide⟩ : Decimal).fit 38 29 = .ok ⟨false, 10, 29, by decide⟩ ∧
      (⟨false, 1, 28, by decide⟩ : Decimal).toScale 29 = .ok ⟨false, 10, 29, by decide⟩ ∧
      (¬ ∀ (d : Decimal) (precision scale : ℕ), d.scale ≤ maxScale → maxScale < scale →
        d.fit precision scale = .error (.precisionExceeded d precision scale)) ∧
      ¬ ∀ (d : Decimal) (scale : ℕ), d.scale ≤ maxScale → maxScale < scale →
        d.toScale scale = .error (.scaleOutOfRange d scale) := by
  have hfit : (⟨false, 1, 28, by decide⟩ : Decimal).fit 38 29 = .ok ⟨false, 10, 29, by decide⟩ := rfl
  have hscaled : (⟨false, 1, 28, by decide⟩ : Decimal).toScale 29 =
    .ok ⟨false, 10, 29, by decide⟩ := rfl
  refine ⟨hfit, hscaled, fun hfails => ?_, fun hfails => ?_⟩
  · exact absurd (hfit.symm.trans (hfails _ 38 29 (by decide) (by decide))) nofun
  · exact absurd (hscaled.symm.trans (hfails _ 29 (by decide) (by decide))) nofun

end Resultset.Decimal
