import Resultset.Proofs.Fitting

/-! # Rounding twice

A number rounded half away from zero to some digits and then once more to fewer is the number rounded
to those at once, unless it lies below the middle between two neighbours by so little that the first
rounding takes it there (`ShortOfHalf`). It then goes up instead of down (`rounds_of_rounds`).
-/

namespace Resultset
set_option autoImplicit false

namespace Tie

theorem rounds_awayFromZero_iff {x : ℚ} {q : ℕ} :
    Tie.awayFromZero.Rounds x q ↔ q - 1 / 2 ≤ x ∧ x < q + 1 / 2 := by
  constructor
  · intro h
    obtain ⟨hlow, hhigh⟩ := abs_le.mp h.near
    refine ⟨by linarith, lt_of_le_of_ne (by linarith) ?_⟩
    rintro rfl
    have habove : (q + 1 / 2 : ℚ) < q := h.takes (by norm_num)
    linarith
  · rintro ⟨hlow, hhigh⟩
    refine ⟨abs_le.mpr ⟨by linarith, by linarith⟩, fun hhalf => ?_⟩
    change x < q
    rcases abs_eq (by norm_num) |>.mp hhalf with h | h <;> linarith

end Tie

/-- The number lies below the middle between `n` and its successor, by at most half of `unit`. -/
def ShortOfHalf (x unit : ℚ) (n : ℕ) : Prop := n + 1 / 2 - unit / 2 ≤ x ∧ x < n + 1 / 2

section
variable {x : ℚ} {m half q : ℕ}

/-- With `m` the first rounding of `x`, the second one to units of `2 * half` is too high by at most
half a unit of the first, and never too low. -/
theorem bounds_of_rounds_rounds (hhalf : 0 < half) (hm : Tie.awayFromZero.Rounds x m)
    (hq : Tie.awayFromZero.Rounds (m / (2 * half : ℕ)) q) :
    q - 1 / 2 - 1 / (2 * half : ℕ) / 2 ≤ x / (2 * half : ℕ) ∧
      x / (2 * half : ℕ) < q + 1 / 2 - 1 / (2 * half : ℕ) / 2 := by
  have hpos : (0 : ℚ) < (2 * half : ℕ) := by exact_mod_cast Nat.mul_pos two_pos hhalf
  obtain ⟨hxlow, hxhigh⟩ := Tie.rounds_awayFromZero_iff.mp hm
  obtain ⟨hqlow, hqhigh⟩ := Tie.rounds_awayFromZero_iff.mp hq
  rw [le_div_iff₀ hpos] at hqlow ⊢
  rw [div_lt_iff₀ hpos] at hqhigh ⊢
  have hunit : (1 : ℚ) / (2 * half : ℕ) / 2 * (2 * half : ℕ) = 1 / 2 := by
    field_simp
  push_cast at *
  -- the middle above `q` is a whole number of units, so `m` stays a unit below it
  have hstep : m + 1 ≤ 2 * half * q + half := by
    have hbelow : (m : ℚ) < (2 * half * q + half : ℕ) := by
      push_cast
      linarith
    exact_mod_cast hbelow
  have hstep : (m : ℚ) + 1 ≤ 2 * half * q + half := by exact_mod_cast hstep
  constructor <;> linarith

theorem rounds_of_rounds (hx : 0 ≤ x) (hhalf : 0 < half) (hm : Tie.awayFromZero.Rounds x m)
    (hq : Tie.awayFromZero.Rounds (m / (2 * half : ℕ)) q) :
    (∀ n, ShortOfHalf (x / (2 * half : ℕ)) (1 / (2 * half : ℕ)) n → q = n + 1) ∧
      ((∀ n, ¬ ShortOfHalf (x / (2 * half : ℕ)) (1 / (2 * half : ℕ)) n) →
        Tie.awayFromZero.Rounds (x / (2 * half : ℕ)) q) := by
  obtain ⟨hlow, hhigh⟩ := bounds_of_rounds_rounds hhalf hm hq
  have hunit : (0 : ℚ) < 1 / (2 * half : ℕ) ∧ (1 : ℚ) / (2 * half : ℕ) < 1 := by
    have htwo : (1 : ℚ) < (2 * half : ℕ) := by exact_mod_cast (by omega : 1 < 2 * half)
    exact ⟨by positivity, (div_lt_one (by positivity)).mpr htwo⟩
  have hnonneg : 0 ≤ x / (2 * half : ℕ) := by positivity
  generalize x / (2 * half : ℕ) = y at *
  generalize (1 : ℚ) / (2 * half : ℕ) = unit at *
  constructor
  · rintro n ⟨hshort, hbelow⟩
    have hlt : n < q := by
      have : (n : ℚ) < q := by linarith
      exact_mod_cast this
    have hle : q < n + 2 := by
      have : (q : ℚ) < (n + 2 : ℕ) := by
        push_cast
        linarith
      exact_mod_cast this
    omega
  · intro hnone
    refine Tie.rounds_awayFromZero_iff.mpr ⟨?_, by linarith⟩
    by_contra hbelow
    -- otherwise the number is short of the middle below `q`
    cases q with
    | zero =>
      push_cast at hbelow
      linarith
    | succ n =>
      refine hnone n ⟨?_, ?_⟩ <;> push_cast at hlow hbelow <;> linarith

theorem not_shortOfHalf_div (hhalf : 0 < half) (n : ℕ) :
    ¬ ShortOfHalf (m / (2 * half : ℕ)) (1 / (2 * half : ℕ)) n := by
  rintro ⟨hshort, hbelow⟩
  have hpos : (0 : ℚ) < (2 * half : ℕ) := by exact_mod_cast Nat.mul_pos two_pos hhalf
  have hunit : (1 : ℚ) / (2 * half : ℕ) / 2 * (2 * half : ℕ) = 1 / 2 := by
    field_simp
  rw [le_div_iff₀ hpos, sub_mul, hunit] at hshort
  rw [div_lt_iff₀ hpos] at hbelow
  push_cast at hshort hbelow
  -- the middle is a whole number of units too, so nothing lies less than one unit below it
  have hlow : 2 * half * n + half < m + 1 := by
    have : (2 * half * n + half : ℚ) < m + 1 := by linarith
    exact_mod_cast this
  have hhigh : m < 2 * half * n + half := by
    have : (m : ℚ) < 2 * half * n + half := by linarith
    exact_mod_cast this
  omega

end

end Resultset
