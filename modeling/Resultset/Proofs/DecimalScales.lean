import Resultset.Proofs.Readings

/-! # The scale of a decimal that is read

No text is read as a decimal of more than `maxScale` digits after the point (`scale_readAny`). Plain
notation stops there, and the rounding of what is left takes a digit off rather than adding one; an
exponent lowers the scale, or raises it within the room that it has made for itself. A decimal that
was read can therefore be rounded to any scale, so that the one way left to fail a type is to have
too many digits (`fit_failed`).
-/

namespace Resultset
set_option autoImplicit false

namespace Decimal

/-! ## Plain notation -/

namespace Magnitude
variable {m r : Magnitude}

theorem scale_roundUp {dropped : Nat} (h : m.roundUp dropped = .ok r) : r.scale ≤ m.scale := by
  rw [roundUp] at h
  split at h
  · obtain rfl := Except.ok.inj h
    exact Nat.le_refl _
  · split at h
    · obtain rfl := Except.ok.inj h
      exact Nat.le_refl _
    · split at h
      · contradiction
      · obtain rfl := Except.ok.inj h
        exact Nat.sub_le _ _

theorem scale_drop {dropped : Nat} {rest : List Char} (h : m.drop dropped rest = .ok r) :
    r.scale ≤ m.scale := by
  obtain ⟨rounded, hround, hrest⟩ := ok_of_bind h
  split at hrest
  · contradiction
  · obtain rfl := Except.ok.inj hrest
    exact scale_roundUp hround

theorem scale_stop {wide : Bool} {rest : List Char} (h : m.stop wide rest = .ok r) :
    r.scale ≤ m.scale := by
  simp only [stop] at h
  split at h
  · obtain rfl := Except.ok.inj h
    exact Nat.le_refl _
  · split at h
    · exact scale_drop h
    · split at h
      · exact scale_drop h
      · contradiction

end Magnitude

/-- The scan stops once there are `maxScale` digits after the point and text behind them, so before
each character it has fewer. -/
theorem scale_scan {started fractional : Bool} {m r : Magnitude} {text : List Char}
    (hm : m.scale < maxScale ∨ m.scale = maxScale ∧ text = [])
    (h : scan started fractional m text = .ok r) : r.scale ≤ maxScale := by
  induction text generalizing started fractional m with
  | nil =>
    rw [scan] at h
    split at h
    · obtain rfl := Except.ok.inj h
      omega
    · contradiction
  | cons c text ih =>
    have hlt : m.scale < maxScale := by simpa using hm
    rw [scan] at h
    split at h
    · split at h
      · cases fractional with
        | false =>
          simp only [Bool.false_and, Bool.false_eq_true, if_false] at h
          refine ih ?_ h
          exact .inl hlt
        | true =>
          simp only [Bool.true_and, if_true] at h
          split at h
          · exact Nat.le_trans (Magnitude.scale_stop h) hlt
          · next hmore =>
            refine ih ?_ h
            by_cases hfull : m.scale + 1 = maxScale
            · have hempty : text = [] := by simpa [hfull] using hmore
              exact .inr ⟨hfull, hempty⟩
            · exact .inl (by simp only; omega)
      · split at h
        · exact Nat.le_trans (Magnitude.scale_drop h) (Nat.le_of_lt hlt)
        · contradiction
    · split at h
      · exact ih (.inl hlt) h
      · split at h
        · exact ih (.inl hlt) h
        · contradiction

theorem scale_read {text : List Char} {d : Decimal} (h : read text = .ok d) :
    d.scale ≤ maxScale := by
  simp only [read] at h
  split at h
  · contradiction
  · split at h
    · next m hscan =>
      obtain rfl := Except.ok.inj h
      exact scale_scan (.inl (by decide)) hscan
    · contradiction

/-! ## Scientific notation -/

theorem scale_lower {d r : Decimal} {n : Nat} (h : d.lower n = .ok r) : r.scale ≤ maxScale := by
  rw [lower] at h
  split at h
  · contradiction
  · obtain rfl := Except.ok.inj h
    have hshort := scale_shorten_le .awayFromZero (maxScale - n) d
    simp only
    omega

theorem scale_raise {d r : Decimal} (hd : d.scale ≤ maxScale) {n : Nat} (h : d.raise n = .ok r) :
    r.scale ≤ maxScale := by
  rw [raise] at h
  split at h
  · obtain rfl := Except.ok.inj h
    exact Nat.le_trans (Nat.sub_le _ _) hd
  · split at h
    · contradiction
    · split at h
      · obtain rfl := Except.ok.inj h
        exact Nat.zero_le _
      · split at h
        · next product hproduct =>
          obtain rfl := Except.ok.inj h
          rw [of?] at hproduct
          split at hproduct
          · obtain rfl := Option.some.inj hproduct
            exact Nat.zero_le _
          · contradiction
        · contradiction

theorem scale_readScientific {text : List Char} {d : Decimal} (h : readScientific text = .ok d) :
    d.scale ≤ maxScale := by
  rw [readScientific] at h
  split at h
  · contradiction
  · obtain ⟨base, hbase, hraised⟩ := ok_of_bind h
    split at hraised
    · split at hraised
      · exact scale_lower hraised
      · contradiction
    · split at hraised
      · exact scale_raise (scale_read hbase) hraised
      · contradiction

/-! ## Either notation -/

theorem scale_readAny {text : List Char} {d : Decimal} (h : readAny text = .ok d) :
    d.scale ≤ maxScale := by
  rw [readAny] at h
  split at h
  · next hread =>
    obtain rfl := Except.ok.inj h
    exact scale_read hread
  · exact scale_readScientific h

/-- A decimal that was read can be rounded, so it either fits or has too many digits. -/
theorem fit_failed {d : Decimal} (hd : d.scale ≤ maxScale) {precision scale : Nat}
    {e : ExtractionError} (h : d.fit precision scale = .error e) :
    e = .precisionExceeded d precision scale := by
  rw [fit, if_pos (roundable_of_scale_le hd scale)] at h
  split at h
  · contradiction
  · exact (Except.error.inj h).symm

end Decimal
end Resultset
