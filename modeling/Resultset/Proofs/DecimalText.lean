import Resultset.Decimal.Reader
import Resultset.Decimal.Text
import Resultset.Proofs.Numerals

/-! # Printed decimals read back

A decimal of at most `maxScale` digits after the point is read back from its text with its mantissa
and its scale (`readAny_chars`); all that can be lost is the sign of a zero. The scan has room for
each digit on its way, because the digits read so far never exceed the mantissa.
-/

namespace Resultset.Decimal
set_option autoImplicit false

/-! ## Scanning digits -/

theorem scan_whole {started : Bool} {digits rest : List Char} {m : Magnitude}
    (hdigits : ∀ c ∈ digits, c.isDigit = true)
    (hle : Nat.ofDigitChars 10 digits m.mantissa ≤ maxMantissa) :
    scan started false m (digits ++ rest) =
      scan (started || !digits.isEmpty) false
        ⟨Nat.ofDigitChars 10 digits m.mantissa, m.scale, hle⟩ rest := by
  induction digits generalizing started m with
  | nil => simp only [List.isEmpty_nil, Bool.not_true, Bool.or_false]; rfl
  | cons c digits ih =>
    have hc := Text.digitValue?_of_isDigit (hdigits c List.mem_cons_self)
    have hrest : ∀ c ∈ digits, c.isDigit = true := fun c hc =>
      hdigits c (List.mem_cons_of_mem _ hc)
    rw [Nat.ofDigitChars_cons] at hle
    have hroom := Nat.le_trans (Text.le_ofDigitChars digits _) hle
    rw [List.cons_append, scan, hc]
    simp only [dif_pos hroom, Bool.false_and, Bool.false_eq_true, if_false]
    rw [ih hrest hle]
    simp only [List.isEmpty_cons, Bool.not_false, Bool.or_true, Bool.true_or,
      Nat.ofDigitChars_cons]

/-- Digits after the point extend the mantissa and the scale, up to `maxScale`. -/
theorem scan_fraction {digits : List Char} {m : Magnitude}
    (hdigits : ∀ c ∈ digits, c.isDigit = true) (hscale : m.scale + digits.length ≤ maxScale)
    (hle : Nat.ofDigitChars 10 digits m.mantissa ≤ maxMantissa) :
    scan true true m digits =
      .ok ⟨Nat.ofDigitChars 10 digits m.mantissa, m.scale + digits.length, hle⟩ := by
  induction digits generalizing m with
  | nil => rfl
  | cons c digits ih =>
    have hc := Text.digitValue?_of_isDigit (hdigits c List.mem_cons_self)
    have hrest : ∀ c ∈ digits, c.isDigit = true := fun c hc =>
      hdigits c (List.mem_cons_of_mem _ hc)
    rw [Nat.ofDigitChars_cons] at hle
    have hroom := Nat.le_trans (Text.le_ofDigitChars digits _) hle
    rw [List.length_cons] at hscale
    have hmore : (true && m.scale + 1 == maxScale && !digits.isEmpty) = false := by
      cases digits with
      | nil => simp
      | cons d digits =>
        rw [List.length_cons] at hscale
        have hne : m.scale + 1 ≠ maxScale := by omega
        simp [hne]
    rw [scan, hc]
    simp only [dif_pos hroom, if_true, hmore, Bool.false_eq_true, if_false]
    rw [ih hrest (by simp only; omega) hle]
    simp only [List.length_cons, Nat.ofDigitChars_cons, Nat.add_assoc, Nat.add_comm 1]

/-! ## Reading printed decimals -/

/-- The decimal without the sign of a zero. -/
def unsignZero (d : Decimal) : Decimal :=
  { d with negative := d.negative && d.mantissa != 0 }

theorem unsignZero_of_ne_zero {d : Decimal} (h : d.mantissa ≠ 0) : d.unsignZero = d := by
  have hne : (d.mantissa != 0) = true := by simpa using h
  rw [unsignZero, hne, Bool.and_true]

theorem scan_unsignedChars {d : Decimal} (hscale : d.scale ≤ maxScale) :
    scan false false ⟨0, 0, Nat.zero_le _⟩ d.unsignedChars =
      .ok ⟨d.mantissa, d.scale, d.mantissa_le⟩ := by
  have hwhole : Nat.ofDigitChars 10 (Nat.toDigits 10 (d.mantissa / 10 ^ d.scale)) 0 =
    d.mantissa / 10 ^ d.scale := Nat.ofDigitChars_ten_toDigits
  have hroom : d.mantissa / 10 ^ d.scale ≤ maxMantissa :=
    Nat.le_trans (Nat.div_le_self _ _) d.mantissa_le
  have hstarted : (Nat.toDigits 10 (d.mantissa / 10 ^ d.scale)).isEmpty = false := by
    rw [List.isEmpty_eq_false_iff]
    exact Nat.toDigits_ne_nil
  rw [unsignedChars, scan_whole (fun _ => Text.isDigit_of_mem_toDigits) (by rwa [hwhole])]
  simp only [hwhole, hstarted, Bool.not_false, Bool.or_true]
  by_cases hzero : d.scale = 0
  · rw [if_pos hzero, scan, if_pos rfl]
    simp only [hzero, Nat.pow_zero, Nat.div_one]
  · have hvalue : Nat.ofDigitChars 10 (Text.fixedDigits d.scale d.mantissa)
        (d.mantissa / 10 ^ d.scale) = d.mantissa := by
      rw [Text.ofDigitChars_fixedDigits, Nat.mul_comm]
      exact Nat.div_add_mod _ _
    have hpoint : Text.digitValue? '.' = none := by decide
    rw [if_neg hzero, scan, hpoint]
    simp only [true_and, if_true]
    rw [scan_fraction (fun _ => Text.isDigit_of_mem_fixedDigits)
      (by simpa [Text.length_fixedDigits] using hscale)
      (by simpa only [hvalue] using d.mantissa_le)]
    simp only [hvalue, Text.length_fixedDigits, Nat.zero_add]

theorem unsignedChars_ne_nil (d : Decimal) : d.unsignedChars ≠ [] := by
  rw [unsignedChars]
  exact List.append_ne_nil_of_left_ne_nil Nat.toDigits_ne_nil _

theorem splitSign_chars (d : Decimal) :
    Text.splitSign d.chars = (d.negative, d.unsignedChars) := by
  cases hneg : d.negative with
  | true =>
    rw [chars, if_pos hneg]
    rfl
  | false =>
    rw [chars, if_neg (by simp [hneg]), unsignedChars]
    exact Text.splitSign_toDigits_append _ _

theorem read_chars {d : Decimal} (hscale : d.scale ≤ maxScale) :
    read d.chars = .ok d.unsignZero := by
  have hne : d.chars ≠ [] := by
    intro hnil
    have hsplit := d.splitSign_chars
    rw [hnil] at hsplit
    exact d.unsignedChars_ne_nil (congrArg Prod.snd hsplit).symm
  rw [read, if_neg (by simpa using hne), splitSign_chars]
  simp only [scan_unsignedChars hscale]
  rfl

/-- A printed decimal is read back with its mantissa and its scale. -/
theorem readAny_chars {d : Decimal} (hscale : d.scale ≤ maxScale) :
    readAny d.chars = .ok d.unsignZero := by
  rw [readAny, read_chars hscale]

theorem not_isBlank_chars (d : Decimal) : ∀ c ∈ d.chars, Text.isBlank c = false := by
  have hunsigned : ∀ c ∈ d.unsignedChars, Text.isBlank c = false := by
    intro c hc
    rw [unsignedChars, List.mem_append] at hc
    rcases hc with hc | hc
    · exact Text.isBlank_of_isDigit (Text.isDigit_of_mem_toDigits hc)
    · split at hc
      · exact absurd hc List.not_mem_nil
      · rcases List.mem_cons.mp hc with rfl | hc
        · decide
        · exact Text.isBlank_of_isDigit (Text.isDigit_of_mem_fixedDigits hc)
  intro c hc
  rw [chars] at hc
  split at hc
  · rcases List.mem_cons.mp hc with rfl | hc
    · decide
    · exact hunsigned c hc
  · exact hunsigned c hc

theorem chars_ofInt (n : Int) (h : n.natAbs ≤ maxMantissa) : (ofInt n h).chars = Integer.chars n := by
  have hunsigned : (ofInt n h).unsignedChars = Nat.toDigits 10 n.natAbs := by
    simp [unsignedChars, ofInt]
  rw [chars, Integer.chars, hunsigned]
  simp only [ofInt, decide_eq_true_eq]

end Resultset.Decimal
