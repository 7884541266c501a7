import Mathlib.Data.Rat.Floor
import Mathlib.Tactic.FieldSimp
import Mathlib.Tactic.Linarith
import Resultset.Proofs.Agreement

/-! # Decimals fitted exactly

A decimal at a scale has the mantissa that its magnitude, in units of the last place, is rounded to.
`Tie.Rounds` says which integer that is without the digits that are dropped or appended on the way,
and there is only one (`Tie.Rounds.unique`). What is left to the digits is whether the mantissa has
room for that integer (`quantize?_of_rounds`) and the precision has (`digitCount_le_iff`).
-/

namespace Resultset
set_option autoImplicit false

/-! ## The nearest integer -/

/-- Whether the rule settles a number half way between two integers on `q`. -/
def Tie.Takes (tie : Tie) (x : ℚ) (q : ℕ) : Prop :=
  match tie with
  | .awayFromZero => x < q
  | .toEven => q % 2 = 0

/-- A number that is not negative is rounded to the nearest integer, of two nearest ones to that of
the rule. -/
structure Tie.Rounds (tie : Tie) (x : ℚ) (q : ℕ) : Prop where
  near : |x - q| ≤ 1 / 2
  takes : |x - q| = 1 / 2 → tie.Takes x q

namespace Tie.Rounds

variable {tie : Tie} {x : ℚ} {p q : ℕ}

theorem of_lt (h : |x - q| < 1 / 2) : tie.Rounds x q := ⟨h.le, fun heq => absurd heq h.ne⟩

theorem refl (tie : Tie) (q : ℕ) : tie.Rounds q q := of_lt (by norm_num)

theorem le (hp : tie.Rounds x p) (hq : tie.Rounds x q) : p ≤ q := by
  by_contra hlt
  have hstep : (q : ℚ) + 1 ≤ p := by exact_mod_cast Nat.lt_of_not_le hlt
  have hbelow := (abs_le.mp hp.near).1
  have habove := (abs_le.mp hq.near).2
  -- the two are neighbours with `x` half way between them, and the rule would take both
  have hhalf : x = q + 1 / 2 := by linarith
  have hnext : p = q + 1 := by
    have : (p : ℚ) = q + 1 := by linarith
    exact_mod_cast this
  have hq := hq.takes (by rw [hhalf, add_sub_cancel_left]; norm_num)
  have hp := hp.takes (by rw [hhalf, hnext]; norm_num)
  cases tie with
  | awayFromZero =>
    have hq : x < q := hq
    linarith
  | toEven =>
    have hq : q % 2 = 0 := hq
    have hp : p % 2 = 0 := hp
    omega

theorem unique (hp : tie.Rounds x p) (hq : tie.Rounds x q) : p = q :=
  Nat.le_antisymm (hp.le hq) (hq.le hp)

theorem below_half {fraction : ℚ} (hlow : 0 ≤ fraction) (h : fraction < 1 / 2) :
    tie.Rounds (q + fraction) q := by
  refine of_lt ?_
  rwa [add_sub_cancel_left, abs_of_nonneg hlow]

theorem above_half {fraction : ℚ} (h : 1 / 2 < fraction) (hhigh : fraction < 1) :
    tie.Rounds (q + fraction) (q + 1 : ℕ) := by
  refine of_lt (abs_lt.mpr ⟨?_, ?_⟩) <;> push_cast <;> linarith

theorem half (tie : Tie) (q : ℕ) : tie.Rounds (q + 1 / 2) (tie.settle q .eq) := by
  cases tie with
  | awayFromZero =>
    have hnext : ((Tie.settle .awayFromZero q .eq : ℕ) : ℚ) = q + 1 := Nat.cast_succ q
    refine ⟨abs_le.mpr ⟨by linarith, by linarith⟩, fun _ => ?_⟩
    change (q + 1 / 2 : ℚ) < (Tie.settle .awayFromZero q .eq : ℕ)
    linarith
  | toEven =>
    have heven : ((Tie.settle .toEven q .eq : ℕ) : ℚ) = q + (q % 2 : ℕ) := Nat.cast_add q (q % 2)
    have hparity : ((q % 2 : ℕ) : ℚ) ≤ 1 := by
      exact_mod_cast Nat.le_of_lt_succ (Nat.mod_lt q two_pos)
    have hzero : (0 : ℚ) ≤ (q % 2 : ℕ) := Nat.cast_nonneg _
    refine ⟨abs_le.mpr ⟨by linarith, by linarith⟩, fun _ => ?_⟩
    change (q + q % 2) % 2 = 0
    omega

end Tie.Rounds

/-- The quotient is its whole part and a fraction of `d`. -/
theorem cast_div_eq (n : ℕ) {d : ℕ} (hd : 0 < d) :
    (n : ℚ) / d = (n / d : ℕ) + ((n % d : ℕ) : ℚ) / d := by
  have hne : (d : ℚ) ≠ 0 := by exact_mod_cast hd.ne'
  have hsplit : (n : ℚ) = d * (n / d : ℕ) + (n % d : ℕ) := by
    exact_mod_cast (Nat.div_add_mod n d).symm
  rw [div_eq_iff hne, add_mul, div_mul_cancel₀ _ hne, mul_comm _ (d : ℚ)]
  exact hsplit

theorem rounds_roundDiv (tie : Tie) (n : ℕ) {d : ℕ} (hd : 0 < d) :
    tie.Rounds (n / d) (roundDiv tie n d) := by
  have hpos : (0 : ℚ) < d := by exact_mod_cast hd
  rw [cast_div_eq n hd, roundDiv]
  rcases Nat.lt_trichotomy (2 * (n % d)) d with h | h | h
  · rw [Nat.compare_eq_lt.mpr h]
    refine .below_half (by positivity) ((div_lt_iff₀ hpos).mpr ?_)
    have : (2 : ℚ) * (n % d : ℕ) < d := by exact_mod_cast h
    linarith
  · rw [Nat.compare_eq_eq.mpr h]
    have hhalf : ((n % d : ℕ) : ℚ) / d = 1 / 2 := by
      have : (2 : ℚ) * (n % d : ℕ) = d := by exact_mod_cast h
      rw [div_eq_iff hpos.ne']
      linarith
    rw [hhalf]
    exact .half tie _
  · rw [Nat.compare_eq_gt.mpr h]
    have hrest : ((n % d : ℕ) : ℚ) < d := by exact_mod_cast Nat.mod_lt n hd
    refine .above_half ((lt_div_iff₀ hpos).mpr ?_) ((div_lt_one hpos).mpr hrest)
    have : (d : ℚ) < 2 * (n % d : ℕ) := by exact_mod_cast h
    linarith

theorem exists_rounds_scaled (tie : Tie) (n places scale : ℕ) :
    ∃ q, tie.Rounds ((n : ℚ) / 10 ^ places * 10 ^ scale) q := by
  refine ⟨roundDiv tie (n * 10 ^ scale) (10 ^ places), ?_⟩
  have hquotient : (n : ℚ) / 10 ^ places * 10 ^ scale =
      (n * 10 ^ scale : ℕ) / (10 ^ places : ℕ) := by
    push_cast
    ring
  rw [hquotient]
  exact rounds_roundDiv tie _ (Nat.pow_pos (by decide))

namespace Decimal

/-! ## At a scale -/

/-- The number without its sign. -/
def magnitude (d : Decimal) : ℚ := d.mantissa / 10 ^ d.scale

theorem magnitude_of_scale_le {d : Decimal} {scale : ℕ} (h : d.scale ≤ scale) :
    d.magnitude * 10 ^ scale = (d.mantissa * 10 ^ (scale - d.scale) : ℕ) := by
  have hpow : (10 : ℚ) ^ scale = 10 ^ (scale - d.scale) * 10 ^ d.scale := by
    rw [← pow_add, Nat.sub_add_cancel h]
  rw [magnitude, hpow]
  push_cast
  field_simp

theorem magnitude_of_le_scale {d : Decimal} {scale : ℕ} (h : scale ≤ d.scale) :
    d.magnitude * 10 ^ scale = d.mantissa / (10 ^ (d.scale - scale) : ℕ) := by
  have hpow : (10 : ℚ) ^ d.scale = 10 ^ (d.scale - scale) * 10 ^ scale := by
    rw [← pow_add, Nat.sub_add_cancel h]
  rw [magnitude, hpow]
  push_cast
  field_simp

/-- Every magnitude is rounded to some integer at every scale. -/
theorem exists_rounds (tie : Tie) (d : Decimal) (scale : ℕ) :
    ∃ q, tie.Rounds (d.magnitude * 10 ^ scale) q := exists_rounds_scaled tie _ _ _

theorem room_eq_iff {wanted mantissa : ℕ} (h : mantissa ≤ maxMantissa) :
    room wanted mantissa = wanted ↔ mantissa * 10 ^ wanted ≤ maxMantissa := by
  induction wanted generalizing mantissa with
  | zero => simpa [room] using h
  | succ wanted ih =>
    rw [room, Nat.pow_succ', ← Nat.mul_assoc]
    by_cases hroom : mantissa * 10 ≤ maxMantissa
    · rw [if_pos hroom, Nat.add_right_cancel_iff]
      exact ih hroom
    · have hgrow : mantissa * 10 ≤ mantissa * 10 * 10 ^ wanted :=
        Nat.le_mul_of_pos_right _ (Nat.pow_pos (by decide))
      rw [if_neg hroom]
      constructor
      · intro hzero
        contradiction
      · intro hle
        exact absurd (hgrow.trans hle) hroom

theorem pad_of_mantissa_ne_zero {d : Decimal} (scale : ℕ) (h : d.mantissa ≠ 0) :
    d.pad scale = ⟨d.negative, d.mantissa * 10 ^ room (scale - d.scale) d.mantissa,
      d.scale + room (scale - d.scale) d.mantissa, mul_room_le d.mantissa_le⟩ := by
  by_cases hscale : d.scale = scale
  · have hroom : room (scale - d.scale) d.mantissa = 0 := by
      rw [hscale, Nat.sub_self]
      rfl
    rw [pad, if_pos hscale]
    simp only [hroom, Nat.pow_zero, Nat.mul_one, Nat.add_zero]
  · rw [pad, if_neg hscale, if_neg h]

theorem of?_self (d : Decimal) : of? d.negative d.mantissa d.scale = some d := dif_pos d.mantissa_le

/-- Zeros are appended to a number all together or not at all. -/
theorem quantize?_of_mantissa_ne_zero (tie : Tie) {d : Decimal} {scale : ℕ} (hle : d.scale ≤ scale)
    (hne : d.mantissa ≠ 0) :
    d.quantize? tie scale = of? d.negative (d.mantissa * 10 ^ (scale - d.scale)) scale := by
  have hroom : room (scale - d.scale) d.mantissa = scale - d.scale ↔
      d.mantissa * 10 ^ (scale - d.scale) ≤ maxMantissa := room_eq_iff d.mantissa_le
  simp only [quantize?, round_of_le hle, pad_of_mantissa_ne_zero scale hne, of?]
  by_cases hfits : d.mantissa * 10 ^ (scale - d.scale) ≤ maxMantissa
  · have hzeros := hroom.mpr hfits
    rw [dif_pos hfits, if_pos (by omega)]
    simp only [hzeros, Nat.add_sub_cancel' hle]
  · have hzeros : room (scale - d.scale) d.mantissa ≠ scale - d.scale := fun h =>
      hfits (hroom.mp h)
    rw [dif_neg hfits, if_neg (by omega)]

theorem quantize?_of_scale_le (tie : Tie) {d : Decimal} {scale : ℕ} (hle : d.scale ≤ scale)
    (hscale : scale ≤ maxScale) :
    d.quantize? tie scale = of? d.negative (d.mantissa * 10 ^ (scale - d.scale)) scale := by
  by_cases hzero : d.mantissa = 0
  · rw [quantize?_of_mantissa_eq_zero tie hzero (hle.trans hscale) hscale, hzero, Nat.zero_mul]
    exact (of?_self ⟨d.negative, 0, scale, Nat.zero_le _⟩).symm
  · exact quantize?_of_mantissa_ne_zero tie hle hzero

/-- The sign that is left once the magnitude is rounded to `q`. A number loses it at zero, whereas a
zero keeps it. -/
def signAt (d : Decimal) (q : ℕ) : Bool := d.negative && (q != 0 || d.mantissa == 0)

theorem signAt_of_imp {d : Decimal} {q : ℕ} (h : q = 0 → d.mantissa = 0) :
    d.signAt q = d.negative := by
  have hkept : (q != 0 || d.mantissa == 0) = true := by
    by_cases hq : q = 0
    · simp [h hq]
    · simp [hq]
  rw [signAt, hkept, Bool.and_true]

theorem negative_round (tie : Tie) (scale : ℕ) (d : Decimal) :
    (d.round tie scale).negative = d.signAt (d.round tie scale).mantissa := by
  rw [mantissa_round]
  simp only [round]
  by_cases hlost : d.mantissa ≠ 0 ∧ (d.shorten tie scale).mantissa = 0
  · have hdropped : d.signAt (d.shorten tie scale).mantissa = false := by
      simp [signAt, hlost.1, hlost.2]
    rw [if_pos hlost, hdropped]
  · rw [if_neg hlost, negative_shorten, signAt_of_imp]
    tauto

theorem scale_round_of_lt (tie : Tie) {d : Decimal} {scale : ℕ} (hlt : scale < d.scale) :
    (d.round tie scale).scale = scale := by
  rw [scale_round, shorten, dif_neg (Nat.not_le_of_lt hlt)]

/-- Fewer digits always fit. -/
theorem quantize?_eq_round (tie : Tie) {d : Decimal} {scale : ℕ} (hlt : scale < d.scale) :
    d.quantize? tie scale = some (d.round tie scale) := by
  simp only [quantize?, pad, scale_round_of_lt tie hlt, if_true]

/-- From a scale that decimals are read with, at most 29 digits are dropped. -/
theorem scale_le_add {d : Decimal} (hd : d.scale ≤ maxScale) (scale : ℕ) : d.scale ≤ scale + 29 :=
  hd.trans (Nat.le_add_left_of_le (by decide))

theorem quantize?_of_lt_scale (tie : Tie) {d : Decimal} {scale : ℕ} (hlt : scale < d.scale)
    (hd : d.scale ≤ scale + 29) :
    d.quantize? tie scale =
      of? (d.signAt (roundDiv tie d.mantissa (10 ^ (d.scale - scale))))
        (roundDiv tie d.mantissa (10 ^ (d.scale - scale))) scale := by
  have hmantissa : (d.round tie scale).mantissa =
      roundDiv tie d.mantissa (10 ^ (d.scale - scale)) := by
    rw [mantissa_round, shorten, dif_neg (Nat.not_le_of_lt hlt)]
    exact dropDigits_eq_roundDiv tie d.mantissa (Nat.sub_pos_of_lt hlt)
      (Nat.sub_le_iff_le_add'.mpr hd)
  have hself := of?_self (d.round tie scale)
  rw [negative_round, hmantissa, scale_round_of_lt tie hlt] at hself
  rw [hself, quantize?_eq_round tie hlt]

/-- At a scale the magnitude is rounded to the nearest integer, and that is the mantissa if there is
room for it. -/
theorem quantize?_of_rounds {tie : Tie} {d : Decimal} {scale q : ℕ} (hd : d.scale ≤ scale + 29)
    (hscale : scale ≤ maxScale) (hq : tie.Rounds (d.magnitude * 10 ^ scale) q) :
    d.quantize? tie scale = of? (d.signAt q) q scale := by
  rcases Nat.lt_or_ge scale d.scale with hlt | hle
  · rw [magnitude_of_le_scale hlt.le] at hq
    rw [quantize?_of_lt_scale tie hlt hd,
      hq.unique (rounds_roundDiv tie d.mantissa (Nat.pow_pos (by decide)))]
  · rw [magnitude_of_scale_le hle] at hq
    obtain rfl := hq.unique (.refl tie _)
    rw [quantize?_of_scale_le tie hle hscale, signAt_of_imp]
    intro hzero
    exact (Nat.mul_eq_zero.mp hzero).resolve_right (Nat.pow_pos (by decide)).ne'

/-! ## Within a precision -/

theorem digitCount_le_iff (d : Decimal) (precision : ℕ) :
    d.digitCount ≤ precision ↔ 1 ≤ precision ∧ d.mantissa < 10 ^ precision := by
  rw [digitCount]
  rcases Nat.eq_zero_or_pos precision with rfl | hpos
  · have hdigits := List.length_pos_of_ne_nil (Nat.toDigits_ne_nil (n := d.mantissa) (b := 10))
    omega
  · rw [Nat.length_toDigits_le_iff (by decide) hpos]
    exact (and_iff_right hpos).symm

theorem fit_of_rounds {d : Decimal} {scale q : ℕ} (precision : ℕ) (hd : d.scale ≤ maxScale)
    (hscale : scale ≤ maxScale) (hq : Tie.awayFromZero.Rounds (d.magnitude * 10 ^ scale) q) :
    d.fit precision scale =
      if h : 1 ≤ precision ∧ q < 10 ^ precision ∧ q ≤ maxMantissa then
        .ok ⟨d.signAt q, q, scale, h.2.2⟩
      else .error (.precisionExceeded d precision scale) := by
  rw [fit, if_pos (Or.inr hscale), fit?,
    quantize?_of_rounds (scale_le_add hd scale) hscale hq, of?]
  by_cases hroom : q ≤ maxMantissa
  · rw [dif_pos hroom, Option.filter_some]
    simp only [digitCount_le_iff, decide_eq_true_eq]
    by_cases hdigits : 1 ≤ precision ∧ q < 10 ^ precision
    · rw [if_pos hdigits, dif_pos ⟨hdigits.1, hdigits.2, hroom⟩]
    · rw [if_neg hdigits, dif_neg fun h => hdigits ⟨h.1, h.2.1⟩]
  · rw [dif_neg hroom, dif_neg fun h => hroom h.2.2]
    rfl

theorem mk_eq_iff {negative : Bool} {mantissa scale : ℕ} {hle : mantissa ≤ maxMantissa}
    {d : Decimal} : (⟨negative, mantissa, scale, hle⟩ : Decimal) = d ↔
      d.mantissa = mantissa ∧ d.scale = scale ∧ d.negative = negative := by
  constructor
  · rintro rfl
    exact ⟨rfl, rfl, rfl⟩
  · obtain ⟨sign, digits, places, _⟩ := d
    rintro ⟨rfl, rfl, rfl⟩
    rfl

theorem signAt_iff {d : Decimal} {q : ℕ} :
    d.signAt q = true ↔ d.negative = true ∧ (q ≠ 0 ∨ d.mantissa = 0) := by
  simp [signAt]

/-- A decimal is fitted to `DECIMAL(precision, scale)` exactly if the precision is not zero and the
integer that its magnitude is rounded to at the scale, a tie away from zero, has at most that many
digits and fits a mantissa. It is then that integer at exactly the scale, with the sign of the
decimal unless a number is rounded to zero. -/
theorem fit_exact {d : Decimal} (hd : d.scale ≤ maxScale) (precision : ℕ) {scale : ℕ}
    (hscale : scale ≤ maxScale) :
    ∃ q : ℕ, (∀ n : ℕ, Tie.awayFromZero.Rounds (d.magnitude * 10 ^ scale) n ↔ n = q) ∧
      (∀ r, d.fit precision scale = .ok r ↔
        (1 ≤ precision ∧ q < 10 ^ precision ∧ q ≤ maxMantissa) ∧ r.mantissa = q ∧
          r.scale = scale ∧
          (r.negative = true ↔ d.negative = true ∧ (q ≠ 0 ∨ d.mantissa = 0))) ∧
      (¬ (1 ≤ precision ∧ q < 10 ^ precision ∧ q ≤ maxMantissa) →
        d.fit precision scale = .error (.precisionExceeded d precision scale)) := by
  obtain ⟨q, hq⟩ := d.exists_rounds .awayFromZero scale
  refine ⟨q, fun n => ⟨fun hn => hn.unique hq, fun hn => hn ▸ hq⟩, fun r => ?_, fun hnot => ?_⟩
  · rw [fit_of_rounds precision hd hscale hq, ← signAt_iff, ← Bool.eq_iff_iff]
    by_cases hfits : 1 ≤ precision ∧ q < 10 ^ precision ∧ q ≤ maxMantissa
    · rw [dif_pos hfits, and_iff_right hfits, Except.ok.injEq, mk_eq_iff]
    · rw [dif_neg hfits]
      exact ⟨nofun, fun h => absurd h.1 hfits⟩
  · rw [fit_of_rounds precision hd hscale hq, dif_neg hnot]

/-- `9.995` is rounded to `10.00`, which is a digit too long for `DECIMAL(3, 2)`. -/
theorem fit_exact_at_carry :
    (⟨false, 9995, 3, by decide⟩ : Decimal).scale ≤ maxScale ∧ 2 ≤ maxScale ∧
      (⟨false, 9995, 3, by decide⟩ : Decimal).fit 3 2 =
        .error (.precisionExceeded ⟨false, 9995, 3, by decide⟩ 3 2) := by
  have hd : (⟨false, 9995, 3, by decide⟩ : Decimal).scale ≤ maxScale := by decide
  have hscale : 2 ≤ maxScale := by decide
  refine ⟨hd, hscale, ?_⟩
  obtain ⟨q, hq, _, hexceeded⟩ := fit_exact hd 3 hscale
  have hcarry : Tie.awayFromZero.Rounds
      ((⟨false, 9995, 3, by decide⟩ : Decimal).magnitude * 10 ^ 2) 1000 := by
    constructor <;> norm_num [magnitude, Tie.Takes, abs_le]
  obtain rfl := (hq 1000).mp hcarry
  exact hexceeded (by decide)

/-- The number `-0.004` at two digits after the point is a zero without a sign. -/
theorem sign_lost_at_zero :
    (⟨true, 4, 3, by decide⟩ : Decimal).fit 5 2 = .ok ⟨false, 0, 2, by decide⟩ ∧
      ¬ ∀ (d r : Decimal) (precision scale : ℕ), d.scale ≤ maxScale → scale ≤ maxScale →
        d.fit precision scale = .ok r → r.negative = d.negative := by
  have hfit : (⟨true, 4, 3, by decide⟩ : Decimal).fit 5 2 = .ok ⟨false, 0, 2, by decide⟩ := rfl
  refine ⟨hfit, fun hsigned => ?_⟩
  have := hsigned _ _ 5 2 (by decide) (by decide) hfit
  contradiction

end Decimal
end Resultset
