import Resultset.Extraction
import Resultset.Proofs.DecimalLiterals

/-! # Decimal texts rounded

The textual converter rounds a number that is written out twice: to the digits that a decimal has
room for, and from there to the scale of the column. Together that is one rounding of the number, a
tie away from zero, unless the first takes it to a tie from below (`Literal.ShortOfTie`).
`rounded_from_text` says so for literals of any length.
-/

namespace Resultset
set_option autoImplicit false

namespace Decimal.Literal

variable {l : Literal} {scale : ℕ}

/-- The number lies below a tie at the scale, the one above `n`, by at most half a unit of the last
digit that is kept. -/
def ShortOfTie (l : Literal) (scale n : ℕ) : Prop :=
  scale < l.kept ∧ ShortOfHalf (l.magnitude * 10 ^ scale) (1 / 10 ^ (l.kept - scale)) n

/-- The integer that the magnitude is rounded to at the scale, a tie and what is short of one away
from zero. -/
structure RoundsAt (l : Literal) (scale q : ℕ) : Prop where
  up : ∀ n, l.ShortOfTie scale n → q = n + 1
  nearest : (∀ n, ¬ l.ShortOfTie scale n) → Tie.awayFromZero.Rounds (l.magnitude * 10 ^ scale) q

/-- At the scale the literal and the decimal are rounded to one integer, or both to more than a
mantissa has room for. -/
def Matches (l : Literal) (d : Decimal) (scale : ℕ) : Prop :=
  ∃ p q, Tie.awayFromZero.Rounds (d.magnitude * 10 ^ scale) p ∧ l.RoundsAt scale q ∧
    (p = q ∨ maxMantissa < p ∧ maxMantissa < q)

/-! ## Scales below the digits kept -/

theorem exists_half_ten_pow {n : ℕ} (hn : 0 < n) : ∃ half, 0 < half ∧ 10 ^ n = 2 * half := by
  refine ⟨5 * 10 ^ (n - 1), Nat.mul_pos (by decide) (Nat.pow_pos (by decide)), ?_⟩
  rw [← Nat.mul_assoc, ← Nat.pow_succ', Nat.succ_eq_add_one, Nat.sub_add_cancel hn]

theorem magnitude_div_of_le (hle : scale ≤ l.kept) :
    l.magnitude * 10 ^ l.kept / (10 ^ (l.kept - scale) : ℕ) = l.magnitude * 10 ^ scale := by
  have hpow : (10 : ℚ) ^ l.kept = 10 ^ scale * 10 ^ (l.kept - scale) := by
    rw [← pow_add, Nat.add_sub_cancel' hle]
  rw [hpow]
  push_cast
  field_simp

theorem shortOfTie_iff {n : ℕ} : l.ShortOfTie scale n ↔ scale < l.kept ∧
    ShortOfHalf (l.magnitude * 10 ^ l.kept / (10 ^ (l.kept - scale) : ℕ))
      (1 / (10 ^ (l.kept - scale) : ℕ)) n := by
  refine and_congr_right fun hlt => ?_
  rw [magnitude_div_of_le hlt.le]
  push_cast
  rfl

theorem roundsAt_of_lt (hlt : scale < l.kept) {m : ℕ}
    (hm : Tie.awayFromZero.Rounds (l.magnitude * 10 ^ l.kept) m) :
    l.RoundsAt scale (roundDiv .awayFromZero m (10 ^ (l.kept - scale))) := by
  obtain ⟨half, hhalf, hten⟩ := exists_half_ten_pow (Nat.sub_pos_of_lt hlt)
  have hnonneg : 0 ≤ l.magnitude * 10 ^ l.kept := mul_nonneg l.magnitude_nonneg (by positivity)
  have hrounds := rounds_roundDiv .awayFromZero m (Nat.mul_pos two_pos hhalf)
  obtain ⟨hup, hnearest⟩ := rounds_of_rounds hnonneg hhalf hm hrounds
  rw [← hten] at hup hnearest
  refine ⟨fun n hn => hup n (shortOfTie_iff.mp hn).2, fun hnone => ?_⟩
  rw [← magnitude_div_of_le hlt.le]
  exact hnearest fun n hn => hnone n (shortOfTie_iff.mpr ⟨hlt, hn⟩)

/-- Where one more than the largest mantissa gives up its last digit, it does not come to another
integer at any scale that is left. -/
theorem roundDiv_carried : ∀ dropped < 28,
    roundDiv .awayFromZero (maxMantissa + 1) (10 ^ (dropped + 1)) =
      roundDiv .awayFromZero ((maxMantissa + 5) / 10) (10 ^ dropped) := by
  decide

/-! ## Other scales -/

theorem roundsAt_iff_of_not_shortOfTie (hnone : ∀ n, ¬ l.ShortOfTie scale n) {q : ℕ} :
    l.RoundsAt scale q ↔ Tie.awayFromZero.Rounds (l.magnitude * 10 ^ scale) q :=
  ⟨fun h => h.nearest hnone, fun h => ⟨fun n hn => absurd hn (hnone n), fun _ => h⟩⟩

theorem roundsAt_iff_of_le (hle : l.kept ≤ scale) {q : ℕ} :
    l.RoundsAt scale q ↔ Tie.awayFromZero.Rounds (l.magnitude * 10 ^ scale) q :=
  roundsAt_iff_of_not_shortOfTie fun _ hn => absurd hn.1 hle.not_gt

theorem exists_roundsAt_of_le (hle : l.kept ≤ scale) : ∃ q, l.RoundsAt scale q := by
  simp only [roundsAt_iff_of_le hle]
  exact l.exists_rounds _ _

theorem le_magnitude_of_le {places : ℕ} {x : ℚ} (h : x ≤ l.magnitude * 10 ^ places)
    (hle : places ≤ scale) : x ≤ l.magnitude * 10 ^ scale :=
  h.trans (mul_le_mul_of_nonneg_left (pow_le_pow_right₀ (by norm_num) hle) l.magnitude_nonneg)

theorem exists_roundsAt_of_lt_magnitude (hle : l.kept ≤ scale) {places : ℕ}
    (hplaces : places ≤ scale) (hlt : (maxMantissa : ℚ) + 1 / 2 ≤ l.magnitude * 10 ^ places) :
    ∃ q, l.RoundsAt scale q ∧ maxMantissa < q := by
  obtain ⟨q, hq⟩ := exists_roundsAt_of_le hle
  refine ⟨q, hq, ?_⟩
  have hscaled := le_magnitude_of_le hlt hplaces
  have habove := (Tie.rounds_awayFromZero_iff.mp ((roundsAt_iff_of_le hle).mp hq)).2
  have hcast : (maxMantissa : ℚ) < q := by linarith
  exact_mod_cast hcast

theorem upTo_le_magnitude {places : ℕ} (hplaces : places ≤ l.fraction.length) :
    (l.upTo places : ℚ) ≤ l.magnitude * 10 ^ places := by
  have hsplit := l.upTo_split places
  have hpow : 10 ^ l.fraction.length = 10 ^ (l.fraction.drop places).length * 10 ^ places := by
    rw [List.length_drop, ← Nat.pow_add, Nat.sub_add_cancel hplaces]
  have hle : l.upTo places * 10 ^ l.fraction.length ≤ l.upTo l.fraction.length * 10 ^ places := by
    rw [hsplit, hpow, Nat.mul_left_comm, ← Nat.mul_assoc]
    exact Nat.mul_le_mul_right _ (Nat.le_add_right _ _)
  rw [magnitude, div_mul_eq_mul_div, le_div_iff₀ (by positivity)]
  exact_mod_cast hle

/-! ## What is read -/

section
variable {m : ℕ} (hm : Tie.awayFromZero.Rounds (l.magnitude * 10 ^ l.kept) m)
include hm

theorem eq_of_kept_eq_length (hlength : l.kept = l.fraction.length) : m = l.upTo l.kept := by
  rw [magnitude_of_kept_eq_length hlength] at hm
  exact hm.unique (.refl _ _)

theorem le_upTo_kept_succ : m ≤ l.upTo l.kept + 1 := by
  rcases Nat.lt_or_eq_of_le l.kept_le_length with hlt | heq
  · obtain ⟨c, rest, hdrop⟩ :=
      List.exists_cons_of_ne_nil (List.drop_eq_nil_iff.not.mpr hlt.not_ge)
    rw [hm.unique (rounds_dropped hdrop)]
    split <;> omega
  · rw [eq_of_kept_eq_length hm heq]
    exact Nat.le_succ _

/-- Once a digit is dropped for want of room in the mantissa, there is no room at the scales behind
it either, before and after rounding. -/
theorem lt_of_kept_lt (hlength : l.kept < l.fraction.length) (hlt : l.kept < scale)
    (hscale : scale ≤ maxScale) :
    maxMantissa < m * 10 ^ (scale - l.kept) ∧ ∃ q, l.RoundsAt scale q ∧ maxMantissa < q := by
  obtain ⟨c, rest, hdrop⟩ :=
    List.exists_cons_of_ne_nil (List.drop_eq_nil_iff.not.mpr hlength.not_ge)
  have hfull := lt_upTo_kept_succ (hlt.trans_le hscale) hlength
  have hnine := Text.digit_le_nine (isDigit_dropped hdrop).1
  constructor
  · have hgrow : 10 * m ≤ m * 10 ^ (scale - l.kept) := by
      rw [Nat.mul_comm]
      exact Nat.mul_le_mul_left m (Nat.le_self_pow (by omega) 10)
    -- the largest mantissa ends in 5, so what the dropped digit is rounded to makes no difference
    have hlast : maxMantissa < 10 * m := by
      rw [upTo_succ hdrop] at hfull
      rw [hm.unique (rounds_dropped hdrop)]
      simp only [maxMantissa] at hfull ⊢
      split <;> omega
    exact hlast.trans_le hgrow
  · have hcast : (maxMantissa : ℚ) + 1 ≤ l.upTo (l.kept + 1) := by exact_mod_cast hfull
    have hscaled : (l.upTo (l.kept + 1) : ℚ) ≤ l.magnitude * 10 ^ (l.kept + 1) :=
      upTo_le_magnitude hlength
    have hlarge : (maxMantissa : ℚ) + 1 / 2 ≤ l.magnitude * 10 ^ (l.kept + 1) := by linarith
    exact exists_roundsAt_of_lt_magnitude hlt.le hlt hlarge

theorem lt_of_carried (hlarge : maxMantissa < m) (hle : l.kept ≤ scale) :
    ∃ q, l.RoundsAt scale q ∧ maxMantissa < q := by
  have hcast : (maxMantissa : ℚ) + 1 ≤ m := by exact_mod_cast hlarge
  have hlow := (Tie.rounds_awayFromZero_iff.mp hm).1
  have hscaled : (maxMantissa : ℚ) + 1 / 2 ≤ l.magnitude * 10 ^ l.kept := by linarith
  exact exists_roundsAt_of_lt_magnitude hle hle hscaled

variable {d : Decimal}

theorem matches_of_kept (hmantissa : d.mantissa = m) (hplaces : d.scale = l.kept)
    (hscale : scale ≤ maxScale) : l.Matches d scale := by
  rcases Nat.lt_trichotomy scale l.kept with hlt | rfl | hlt
  · refine ⟨_, _, ?_, roundsAt_of_lt hlt hm, .inl rfl⟩
    rw [magnitude_of_le_scale (by omega), hmantissa, hplaces]
    exact rounds_roundDiv _ _ (Nat.pow_pos (by decide))
  · refine ⟨m, m, ?_, (roundsAt_iff_of_le le_rfl).mpr hm, .inl rfl⟩
    rw [magnitude_of_scale_le hplaces.le, hmantissa, hplaces, Nat.sub_self, Nat.pow_zero,
      Nat.mul_one]
    exact .refl _ _
  · have hp : Tie.awayFromZero.Rounds (d.magnitude * 10 ^ scale)
        (m * 10 ^ (scale - l.kept) : ℕ) := by
      rw [magnitude_of_scale_le (by omega), hmantissa, hplaces]
      exact .refl _ _
    rcases Nat.lt_or_eq_of_le l.kept_le_length with hlength | hlength
    · obtain ⟨hroom, q, hq, hlarge⟩ := lt_of_kept_lt hm hlength hlt hscale
      exact ⟨_, q, hp, hq, .inr ⟨hroom, hlarge⟩⟩
    · -- no digit is dropped, so the two numbers are one
      have hnumber : l.magnitude = d.magnitude := by
        rw [magnitude, Decimal.magnitude, hmantissa, hplaces, eq_of_kept_eq_length hm hlength,
          hlength]
      refine ⟨_, _, hp, (roundsAt_iff_of_le hlt.le).mpr ?_, .inl rfl⟩
      rwa [hnumber]

theorem matches_of_carried (hm' : m = maxMantissa + 1) (hkept : l.kept ≠ 0)
    (hmantissa : d.mantissa = (maxMantissa + 5) / 10) (hplaces : d.scale = l.kept - 1) :
    l.Matches d scale := by
  rcases Nat.lt_or_ge scale l.kept with hlt | hle
  · have hkept := l.kept_le_maxScale
    simp only [maxScale] at hkept
    have hdropped : l.kept - scale = l.kept - 1 - scale + 1 := by omega
    refine ⟨_, _, ?_, roundsAt_of_lt hlt hm, .inl rfl⟩
    rw [hm', hdropped, roundDiv_carried _ (by omega), magnitude_of_le_scale (by omega), hmantissa,
      hplaces]
    exact rounds_roundDiv _ _ (Nat.pow_pos (by decide))
  · obtain ⟨q, hq, hlarge⟩ := lt_of_carried hm (by omega) hle
    refine ⟨d.mantissa * 10 ^ (scale - d.scale), q, ?_, hq, .inr ⟨?_, hlarge⟩⟩
    · rw [magnitude_of_scale_le (by omega)]
      exact .refl _ _
    · have hgrow : d.mantissa * 10 ≤ d.mantissa * 10 ^ (scale - d.scale) :=
        Nat.mul_le_mul_left _ (Nat.le_self_pow (by omega) 10)
      have hlast : maxMantissa < d.mantissa * 10 := by
        rw [hmantissa]
        decide
      exact hlast.trans_le hgrow

end

theorem matches_of_read {d : Decimal} (hread : read l.chars = .ok d) (hscale : scale ≤ maxScale) :
    l.Matches d scale ∧ d.scale ≤ maxScale ∧ d.negative = (l.negative && d.mantissa != 0) := by
  have hkept := l.kept_le_maxScale
  rw [read_chars_eq] at hread
  rcases Nat.lt_or_ge maxMantissa (l.upTo 0) with hwhole | hwhole
  · rw [scan_unsignedChars_of_lt hwhole] at hread
    contradiction
  · obtain ⟨m, hm⟩ := l.exists_rounds .awayFromZero l.kept
    have hle := le_upTo_kept_succ hm
    have htaken := upTo_kept_le hwhole
    rw [scan_unsignedChars hwhole hm, scanned] at hread
    split at hread
    · obtain rfl := Except.ok.inj hread
      exact ⟨matches_of_kept hm rfl rfl hscale, hkept, rfl⟩
    · split at hread
      · contradiction
      · next hkept' =>
        obtain rfl := Except.ok.inj hread
        exact ⟨matches_of_carried hm (by omega) hkept' rfl rfl, (Nat.sub_le _ _).trans hkept, rfl⟩

theorem roundsAt_of_read_error {e : ReadError} (hread : read l.chars = .error e) (scale : ℕ) :
    ∃ q, l.RoundsAt scale q ∧ maxMantissa < q := by
  rw [read_chars_eq] at hread
  rcases Nat.lt_or_ge maxMantissa (l.upTo 0) with hwhole | hwhole
  · have hcast : (maxMantissa : ℚ) + 1 ≤ l.upTo 0 := by exact_mod_cast hwhole
    have hscaled : (l.upTo 0 : ℚ) ≤ l.magnitude * 10 ^ 0 := upTo_le_magnitude (Nat.zero_le _)
    have hkept := kept_eq_zero hwhole
    exact exists_roundsAt_of_lt_magnitude (by omega) (Nat.zero_le _) (by linarith)
  · obtain ⟨m, hm⟩ := l.exists_rounds .awayFromZero l.kept
    rw [scan_unsignedChars hwhole hm, scanned] at hread
    split at hread
    · contradiction
    · next hlarge =>
      split at hread
      · next hkept => exact lt_of_carried hm (Nat.lt_of_not_le hlarge) (by omega)
      · contradiction

theorem exists_roundsAt (l : Literal) (hscale : scale ≤ maxScale) : ∃ q, l.RoundsAt scale q := by
  cases hread : read l.chars with
  | error e =>
    obtain ⟨q, hq, _⟩ := roundsAt_of_read_error hread scale
    exact ⟨q, hq⟩
  | ok d =>
    obtain ⟨⟨_, q, _, hq, _⟩, _⟩ := matches_of_read hread hscale
    exact ⟨q, hq⟩

theorem roundsAt_iff_of_kept_eq_length (hlength : l.kept = l.fraction.length) {q : ℕ} :
    l.RoundsAt scale q ↔ Tie.awayFromZero.Rounds (l.magnitude * 10 ^ scale) q := by
  -- no digit is dropped, and so the literal is rounded once
  refine roundsAt_iff_of_not_shortOfTie fun n hn => ?_
  obtain ⟨hlt, hshort⟩ := shortOfTie_iff.mp hn
  obtain ⟨half, hhalf, hten⟩ := exists_half_ten_pow (Nat.sub_pos_of_lt hlt)
  rw [magnitude_of_kept_eq_length hlength, hten] at hshort
  exact not_shortOfHalf_div hhalf n hshort

theorem RoundsAt.unique {p q : ℕ} (hp : l.RoundsAt scale p) (hq : l.RoundsAt scale q) : p = q := by
  by_cases hshort : ∃ n, l.ShortOfTie scale n
  · obtain ⟨n, hn⟩ := hshort
    exact (hp.up n hn).trans (hq.up n hn).symm
  · rw [not_exists] at hshort
    exact (hp.nearest hshort).unique (hq.nearest hshort)

end Decimal.Literal

theorem Decimal.signAt_of_rounds {d : Decimal} {negative : Bool} {tie : Tie} {scale q : ℕ}
    (hsign : d.negative = (negative && d.mantissa != 0))
    (hq : tie.Rounds (d.magnitude * 10 ^ scale) q) : d.signAt q = (negative && q != 0) := by
  by_cases hzero : d.mantissa = 0
  · rw [magnitude_eq_zero_iff.mpr hzero, zero_mul] at hq
    have hq : q = 0 := hq.unique (by exact_mod_cast Tie.Rounds.refl tie 0)
    simp [signAt, hsign, hzero, hq]
  · have hne : (d.mantissa != 0) = true := bne_iff_ne.mpr hzero
    have hne' : (d.mantissa == 0) = false := beq_eq_false_iff_ne.mpr hzero
    rw [signAt, hsign, hne, hne', Bool.and_true, Bool.or_false]

/-! ## Texts -/

namespace Textual

variable {text : String} {l : Decimal.Literal} {precision scale : ℕ}

theorem decimal_of_literal (htext : Text.trim text.toList = l.chars) (hprecision : 1 ≤ precision)
    (hscale : scale ≤ maxScale) {q : ℕ} (hq : l.RoundsAt scale q) :
    (∀ hfits : q < 10 ^ precision ∧ q ≤ maxMantissa,
      decimal precision scale (.string text) =
        .ok (some ⟨l.negative && q != 0, q, scale, hfits.2⟩)) ∧
      (¬ (q < 10 ^ precision ∧ q ≤ maxMantissa) →
        ∃ e, decimal precision scale (.string text) = .error e) := by
  have htrimmed : trimmed (.string text) = l.chars := htext
  rw [decimal, htrimmed]
  cases hread : Decimal.read l.chars with
  | error e =>
    obtain ⟨p, hp, hlarge⟩ := Decimal.Literal.roundsAt_of_read_error hread scale
    obtain rfl := hp.unique hq
    rw [Decimal.Literal.readAny_chars_of_error hread]
    exact ⟨fun hfits => absurd hfits.2 hlarge.not_ge, fun _ => ⟨_, rfl⟩⟩
  | ok d =>
    obtain ⟨⟨p, p', hp, hp', hsame⟩, hd, hsign⟩ := Decimal.Literal.matches_of_read hread hscale
    obtain rfl := hp'.unique hq
    have hreadAny : Decimal.readAny l.chars = .ok d := by rw [Decimal.readAny, hread]
    simp only [hreadAny, Decimal.fit_of_rounds precision hd hscale hp,
      Decimal.signAt_of_rounds hsign hp]
    rcases hsame with rfl | ⟨hlarge, hlarge'⟩
    · by_cases hfits : p < 10 ^ precision ∧ p ≤ maxMantissa
      · rw [dif_pos ⟨hprecision, hfits⟩]
        exact ⟨fun _ => rfl, fun hnot => absurd hfits hnot⟩
      · rw [dif_neg fun h => hfits h.2]
        exact ⟨fun h => absurd h hfits, fun _ => ⟨_, rfl⟩⟩
    · rw [dif_neg fun h => h.2.2.not_gt hlarge]
      exact ⟨fun h => absurd h.2 hlarge'.not_ge, fun _ => ⟨_, rfl⟩⟩

end Textual

namespace Converter

/-- A number written out is rounded to the scale, a tie and what is short of one away from zero. That
is what the textual converter answers if it has at most as many digits as the precision and fits a
mantissa, and no decimal is answered otherwise. -/
theorem rounded_from_text {row : Row} {position : ℕ} {text : String} {l : Decimal.Literal}
    (hvalue : row.get? position = some (.string text)) (htext : Text.trim text.toList = l.chars)
    {precision scale : ℕ} (hprecision : 1 ≤ precision) (hscale : scale ≤ maxScale) :
    ∃ q : ℕ, (∀ n, l.RoundsAt scale n ↔ n = q) ∧
      (∀ hfits : q < 10 ^ precision ∧ q ≤ maxMantissa,
        textual.read (.decimal precision scale) row position =
          .ok (some ⟨l.negative && q != 0, q, scale, hfits.2⟩)) ∧
      (¬ (q < 10 ^ precision ∧ q ≤ maxMantissa) →
        ∃ e, textual.read (.decimal precision scale) row position = .error e) := by
  obtain ⟨q, hq⟩ := l.exists_roundsAt hscale
  have hread : textual.read (.decimal precision scale) row position =
      Textual.decimal precision scale (.string text) := by
    rw [read, hvalue]
    rfl
  rw [hread]
  exact ⟨q, fun n => ⟨fun hn => hn.unique hq, fun hn => hn ▸ hq⟩,
    Textual.decimal_of_literal htext hprecision hscale hq⟩

def signedTie : Decimal.Literal where
  sign := some '+'
  whole := ['2']
  fraction := ['3', '4', '5']
  sign_mem := by decide
  whole_ne_nil := by decide
  isDigit_whole := List.all_eq_true.mp (by decide)
  isDigit_fraction := List.all_eq_true.mp (by decide)

/-- `2.345` among blanks and with a sign comes to `2.35`. -/
theorem rounded_from_text_at_tie :
    (⟨[.string " +2.345 "]⟩ : Row).get? 0 = some (.string " +2.345 ") ∧
      Text.trim " +2.345 ".toList = signedTie.chars ∧ 1 ≤ 3 ∧ 2 ≤ maxScale ∧
      textual.read (.decimal 3 2) ⟨[.string " +2.345 "]⟩ 0 =
        .ok (some ⟨false, 235, 2, by decide⟩) := by
  have hvalue : (⟨[.string " +2.345 "]⟩ : Row).get? 0 = some (.string " +2.345 ") := rfl
  have htext : Text.trim " +2.345 ".toList = signedTie.chars := by decide +kernel
  have hscale : 2 ≤ maxScale := by decide
  refine ⟨hvalue, htext, by decide, hscale, ?_⟩
  obtain ⟨q, hq, hfits, _⟩ := rounded_from_text hvalue htext (by decide : 1 ≤ 3) hscale
  have hkept : signedTie.kept = signedTie.fraction.length := by decide +kernel
  have hmagnitude : signedTie.magnitude = (2345 : ℕ) / 10 ^ 3 := rfl
  have hrounds : signedTie.RoundsAt 2 235 := by
    rw [Decimal.Literal.roundsAt_iff_of_kept_eq_length hkept, hmagnitude]
    constructor <;> norm_num [Tie.Takes, abs_le]
  obtain rfl := (hq 235).mp hrounds
  exact hfits (by decide)

def belowHalf : Decimal.Literal where
  sign := none
  whole := ['0']
  fraction := '4' :: List.replicate 28 '9'
  sign_mem := by decide
  whole_ne_nil := by decide
  isDigit_whole := List.all_eq_true.mp (by decide)
  isDigit_fraction := List.all_eq_true.mp (by decide)

/-- A half less a unit of the 29th digit is rounded to a half first, and then up. -/
theorem rounded_twice_below_half :
    textual.read (.decimal 5 0) ⟨[.string "0.49999999999999999999999999999"]⟩ 0 =
        .ok (some ⟨false, 1, 0, by decide⟩) ∧
      ¬ ∀ (row : Row) (position : ℕ) (text : String) (l : Decimal.Literal)
          (precision scale q : ℕ),
        row.get? position = some (.string text) → Text.trim text.toList = l.chars →
        1 ≤ precision → scale ≤ maxScale →
        Tie.awayFromZero.Rounds (l.magnitude * 10 ^ scale) q →
        ∀ hfits : q < 10 ^ precision ∧ q ≤ maxMantissa,
          textual.read (.decimal precision scale) row position =
            .ok (some ⟨l.negative && q != 0, q, scale, hfits.2⟩) := by
  have hread : textual.read (.decimal 5 0) ⟨[.string "0.49999999999999999999999999999"]⟩ 0 =
      .ok (some ⟨false, 1, 0, by decide⟩) := by
    decide +kernel
  have htext : Text.trim "0.49999999999999999999999999999".toList = belowHalf.chars := by
    decide +kernel
  refine ⟨hread, fun honce => ?_⟩
  have hmagnitude : belowHalf.magnitude = (49999999999999999999999999999 : ℕ) / 10 ^ 29 := rfl
  have hrounds : Tie.awayFromZero.Rounds (belowHalf.magnitude * 10 ^ 0) 0 := by
    rw [hmagnitude]
    constructor <;> norm_num [Tie.Takes, abs_le]
  have hzero := honce ⟨[.string "0.49999999999999999999999999999"]⟩ 0 _ belowHalf 5 0 0 rfl htext
    (by decide) (by decide) hrounds (by decide)
  rw [hread] at hzero
  exact absurd hzero (by decide)

end Converter
end Resultset
