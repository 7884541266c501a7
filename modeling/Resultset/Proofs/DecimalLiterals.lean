import Mathlib.Data.List.TakeWhile
import Mathlib.Data.Nat.Find
import Resultset.Proofs.Rescaling
import Resultset.Proofs.TwoRoundings

/-! # Numbers written out

A `Literal` is a number in plain notation with any number of digits. A mantissa has room for some of
them (`Literal.kept`), and the scan rounds there, half away from zero, by the first digit that it drops
(`read_chars`).
-/

namespace Resultset
set_option autoImplicit false

/-! ## Digits -/

namespace Text

theorem digit_le_nine {c : Char} (h : c.isDigit = true) : c.toNat - '0'.toNat ≤ 9 := by
  obtain ⟨-, hhigh⟩ := Char.isDigit_iff_toNat.mp h
  change c.toNat ≤ 57 at hhigh
  change c.toNat - 48 ≤ 9
  omega

theorem ofDigitChars_lt {digits : List Char} (h : ∀ c ∈ digits, c.isDigit = true) :
    Nat.ofDigitChars 10 digits 0 < 10 ^ digits.length := by
  induction digits with
  | nil => rw [Nat.ofDigitChars_nil]; decide
  | cons c digits ih =>
    have hc := digit_le_nine (h c List.mem_cons_self)
    have hrest := ih fun c hc => h c (List.mem_cons_of_mem _ hc)
    have hscaled := Nat.mul_le_mul_left (10 ^ digits.length) hc
    rw [Nat.ofDigitChars_cons, Nat.ofDigitChars_eq_ofDigitChars_zero, List.length_cons,
      Nat.pow_succ, Nat.mul_zero, Nat.zero_add]
    omega

end Text

namespace Decimal

/-! ## Scanning more digits than there is room for -/

theorem scan_whole_of_lt {started : Bool} {digits rest : List Char} {m : Magnitude}
    (hdigits : ∀ c ∈ digits, c.isDigit = true)
    (hlt : maxMantissa < Nat.ofDigitChars 10 digits m.mantissa) :
    scan started false m (digits ++ rest) = .error .tooManyDigits := by
  induction digits generalizing started m with
  | nil =>
    rw [Nat.ofDigitChars_nil] at hlt
    exact absurd m.mantissa_le (Nat.not_le_of_lt hlt)
  | cons c digits ih =>
    have hc := Text.digitValue?_of_isDigit (hdigits c List.mem_cons_self)
    have hrest : ∀ c ∈ digits, c.isDigit = true := fun c hc =>
      hdigits c (List.mem_cons_of_mem _ hc)
    rw [Nat.ofDigitChars_cons] at hlt
    rw [List.cons_append, scan, hc]
    by_cases hroom : 10 * m.mantissa + (c.toNat - '0'.toNat) ≤ maxMantissa
    · simp only [dif_pos hroom, Bool.false_and, Bool.false_eq_true, if_false]
      exact ih hrest hlt
    · simp only [dif_neg hroom, Bool.false_eq_true, if_false]

theorem drop_of_isDigit {m : Magnitude} {dropped : ℕ} {rest : List Char}
    (hrest : ∀ c ∈ rest, c.isDigit = true) : m.drop dropped rest = m.roundUp dropped := by
  have hnone : firstMisplaced? rest = none := by
    rw [firstMisplaced?, List.find?_eq_none]
    intro c hc
    simp [hrest c hc]
  rw [Magnitude.drop, hnone]
  cases m.roundUp dropped <;> rfl

theorem stop_of_isDigit {m : Magnitude} (wide : Bool) {c : Char} {rest : List Char}
    (hc : c.isDigit = true) (hrest : ∀ c ∈ rest, c.isDigit = true) :
    m.stop wide (c :: rest) = m.roundUp (c.toNat - '0'.toNat) := by
  have hne : c ≠ '_' := by
    rintro rfl
    exact absurd hc (by decide)
  have hkept : (c == '_') = false := beq_eq_false_iff_ne.mpr hne
  simp only [Magnitude.stop, List.dropWhile_cons, hkept, Bool.false_eq_true, if_false, ite_self,
    hne, Text.digitValue?_of_isDigit hc]
  exact drop_of_isDigit hrest

/-- After the point the scan stops with the last digit that there is room for, be it in the scale or
in the mantissa, and rounds by the next one. -/
theorem scan_fraction_dropped {digits rest : List Char} {c : Char} {m : Magnitude}
    (hdigits : ∀ c ∈ digits, c.isDigit = true) (hc : c.isDigit = true)
    (hrest : ∀ c ∈ rest, c.isDigit = true) (hscale : m.scale < maxScale)
    (hfits : m.scale + digits.length ≤ maxScale)
    (hle : Nat.ofDigitChars 10 digits m.mantissa ≤ maxMantissa)
    (hfull : m.scale + digits.length < maxScale →
      maxMantissa < 10 * Nat.ofDigitChars 10 digits m.mantissa + (c.toNat - '0'.toNat)) :
    scan true true m (digits ++ c :: rest) =
      Magnitude.roundUp ⟨Nat.ofDigitChars 10 digits m.mantissa, m.scale + digits.length, hle⟩
        (c.toNat - '0'.toNat) := by
  -- on the digits kept; reading one of them leaves the others the room that they need
  induction digits generalizing m with
  | nil =>
    have hroom := Nat.not_le_of_lt (hfull hscale)
    rw [Nat.ofDigitChars_nil] at hroom
    rw [List.nil_append, scan, Text.digitValue?_of_isDigit hc]
    simp only [dif_neg hroom, if_true]
    exact drop_of_isDigit hrest
  | cons d digits ih =>
    have hd := Text.digitValue?_of_isDigit (hdigits d List.mem_cons_self)
    have hdigits : ∀ c ∈ digits, c.isDigit = true := fun c hc =>
      hdigits c (List.mem_cons_of_mem _ hc)
    simp only [Nat.ofDigitChars_cons] at hle hfull
    rw [List.length_cons] at hfits hfull
    have hroom := Nat.le_trans (Text.le_ofDigitChars digits _) hle
    rw [List.cons_append, scan, hd]
    simp only [dif_pos hroom, if_true]
    by_cases hlast : m.scale + 1 = maxScale
    · -- the scale has no room for another digit
      obtain rfl : digits = [] := List.eq_nil_of_length_eq_zero (by omega)
      simp only [List.nil_append, hlast, beq_self_eq_true, List.isEmpty_cons, Bool.not_false,
        Bool.and_self, if_true, stop_of_isDigit _ hc hrest, List.length_singleton,
        Nat.ofDigitChars_cons, Nat.ofDigitChars_nil]
    · have hmore : (true && m.scale + 1 == maxScale && !(digits ++ c :: rest).isEmpty) = false := by
        simp [hlast]
      simp only [hmore, Bool.false_eq_true, if_false]
      rw [ih hdigits (by simp only; omega) (by simp only; omega) hle (by
        intro hlt
        exact hfull (by simp only at hlt; omega))]
      simp only [List.length_cons, Nat.ofDigitChars_cons, Nat.add_assoc, Nat.add_comm 1]

/-! ## Literals -/

/-- A number in plain notation: an optional sign, digits and, if there are any in `fraction`, a point
and those. -/
structure Literal where
  sign : Option Char
  whole : List Char
  fraction : List Char
  sign_mem : sign ∈ [none, some '+', some '-']
  whole_ne_nil : whole ≠ []
  isDigit_whole : ∀ c ∈ whole, c.isDigit = true
  isDigit_fraction : ∀ c ∈ fraction, c.isDigit = true

namespace Literal

variable (l : Literal)

def unsignedChars : List Char := l.whole ++ if l.fraction = [] then [] else '.' :: l.fraction

def chars : List Char := l.sign.toList ++ l.unsignedChars

def negative : Bool := l.sign == some '-'

/-- The integer that the digits denote up to the `places`-th after the point. -/
def upTo (places : ℕ) : ℕ := Nat.ofDigitChars 10 (l.whole ++ l.fraction.take places) 0

def magnitude : ℚ := l.upTo l.fraction.length / 10 ^ l.fraction.length

/-- How many digits after the point are kept: as many as a scale and a mantissa have room for. -/
def kept : ℕ :=
  Nat.findGreatest (fun places => l.upTo places ≤ maxMantissa) (min maxScale l.fraction.length)

theorem magnitude_nonneg : 0 ≤ l.magnitude := by
  rw [magnitude]
  positivity

theorem exists_rounds (tie : Tie) (scale : ℕ) : ∃ q, tie.Rounds (l.magnitude * 10 ^ scale) q :=
  exists_rounds_scaled tie _ _ _

theorem splitSign_chars : Text.splitSign l.chars = (l.negative, l.unsignedChars) := by
  obtain ⟨c, digits, hwhole⟩ := List.exists_cons_of_ne_nil l.whole_ne_nil
  have hc : c.isDigit = true := l.isDigit_whole c (by rw [hwhole]; exact List.mem_cons_self)
  rw [chars, negative, unsignedChars, hwhole]
  exact Text.splitSign_append l.sign_mem hc _

/-! ## Digits kept and dropped -/

theorem upTo_eq (places : ℕ) :
    l.upTo places = Nat.ofDigitChars 10 (l.fraction.take places) (l.upTo 0) := by
  simp only [upTo, List.take_zero, List.append_nil, Nat.ofDigitChars_append]

theorem upTo_split (places : ℕ) :
    l.upTo l.fraction.length = 10 ^ (l.fraction.drop places).length * l.upTo places +
      Nat.ofDigitChars 10 (l.fraction.drop places) 0 := by
  rw [upTo, upTo, List.take_length, ← Nat.ofDigitChars_eq_ofDigitChars_zero,
    ← Nat.ofDigitChars_append, List.append_assoc, List.take_append_drop]

theorem kept_le_maxScale : l.kept ≤ maxScale :=
  (Nat.findGreatest_le _).trans (Nat.min_le_left _ _)

theorem kept_le_length : l.kept ≤ l.fraction.length :=
  (Nat.findGreatest_le _).trans (Nat.min_le_right _ _)

variable {l}

theorem upTo_kept_le (h : l.upTo 0 ≤ maxMantissa) : l.upTo l.kept ≤ maxMantissa :=
  Nat.findGreatest_spec (P := fun places => l.upTo places ≤ maxMantissa) (Nat.zero_le _) h

theorem lt_upTo_kept_succ (hscale : l.kept < maxScale) (hlength : l.kept < l.fraction.length) :
    maxMantissa < l.upTo (l.kept + 1) :=
  Nat.lt_of_not_le (Nat.findGreatest_is_greatest (P := fun places => l.upTo places ≤ maxMantissa)
    (Nat.lt_succ_self _) (Nat.le_min.mpr ⟨hscale, hlength⟩))

theorem upTo_zero_le (places : ℕ) : l.upTo 0 ≤ l.upTo places := by
  rw [l.upTo_eq places]
  exact Text.le_ofDigitChars _ _

theorem kept_eq_zero (h : maxMantissa < l.upTo 0) : l.kept = 0 := by
  rw [kept, Nat.findGreatest_eq_zero_iff]
  intro places _ _
  exact Nat.not_le_of_lt (h.trans_le (upTo_zero_le places))

section
variable {places : ℕ} {c : Char} {rest : List Char} (hdrop : l.fraction.drop places = c :: rest)
include hdrop

theorem isDigit_dropped : c.isDigit = true ∧ ∀ c ∈ rest, c.isDigit = true := by
  have hmem : ∀ d ∈ c :: rest, d.isDigit = true := by
    intro d hd
    rw [← hdrop] at hd
    exact l.isDigit_fraction d (List.mem_of_mem_drop hd)
  exact ⟨hmem c List.mem_cons_self, fun d hd => hmem d (List.mem_cons_of_mem _ hd)⟩

theorem upTo_succ : l.upTo (places + 1) = 10 * l.upTo places + (c.toNat - '0'.toNat) := by
  have hget : l.fraction[places]? = some c := by
    rw [← List.head?_drop, hdrop]
    rfl
  rw [upTo, upTo, List.take_add_one, hget, ← List.append_assoc, Nat.ofDigitChars_append]
  exact Nat.ofDigitChars_cons

/-- The first digit that is dropped decides which way the digits before it are rounded. -/
theorem rounds_dropped :
    Tie.awayFromZero.Rounds (l.magnitude * 10 ^ places)
      (l.upTo places + if 5 ≤ c.toNat - '0'.toNat then 1 else 0 : ℕ) := by
  obtain ⟨hc, hrest⟩ := isDigit_dropped hdrop
  have hnine := Text.digit_le_nine hc
  have hlt := Text.ofDigitChars_lt hrest
  have hsplit := l.upTo_split places
  have hlength : l.fraction.length = places + (rest.length + 1) := by
    have := congrArg List.length hdrop
    rw [List.length_drop, List.length_cons] at this
    omega
  rw [hdrop, List.length_cons, Nat.ofDigitChars_cons, Nat.ofDigitChars_eq_ofDigitChars_zero,
    Nat.mul_zero, Nat.zero_add] at hsplit
  have hvalue : l.magnitude * 10 ^ places = l.upTo places +
      ((c.toNat - '0'.toNat : ℕ) + Nat.ofDigitChars 10 rest 0 / 10 ^ rest.length) / 10 := by
    have hpow : (10 : ℚ) ^ l.fraction.length = 10 ^ places * (10 ^ rest.length * 10) := by
      rw [hlength, pow_add, pow_succ]
    rw [magnitude, hsplit, hpow, Nat.pow_succ]
    push_cast
    field_simp
  have hpos : (0 : ℚ) < 10 ^ rest.length := by positivity
  have hlow : (0 : ℚ) ≤ Nat.ofDigitChars 10 rest 0 / 10 ^ rest.length := by positivity
  have hhigh : (Nat.ofDigitChars 10 rest 0 / 10 ^ rest.length : ℚ) < 1 := by
    rw [div_lt_one hpos]
    exact_mod_cast hlt
  rw [hvalue, Tie.rounds_awayFromZero_iff]
  generalize (Nat.ofDigitChars 10 rest 0 / 10 ^ rest.length : ℚ) = others at hlow hhigh
  generalize c.toNat - '0'.toNat = digit at hnine
  by_cases hfive : 5 ≤ digit
  · have hfive' : (5 : ℚ) ≤ digit := by exact_mod_cast hfive
    have hnine' : (digit : ℚ) ≤ 9 := by exact_mod_cast hnine
    rw [if_pos hfive]
    push_cast
    constructor <;> linarith
  · have hfour : (digit : ℚ) ≤ 4 := by exact_mod_cast Nat.le_of_lt_succ (Nat.lt_of_not_le hfive)
    have hzero : (0 : ℚ) ≤ digit := by positivity
    rw [if_neg hfive]
    push_cast
    constructor <;> linarith

end

theorem magnitude_of_kept_eq_length (h : l.kept = l.fraction.length) :
    l.magnitude * 10 ^ l.kept = l.upTo l.kept := by
  rw [magnitude, h]
  field_simp

/-! ## Reading -/

/-- The magnitude that is read where the digits kept round to `m`. One past the largest mantissa gives
up its last digit, to which `4` is nearest. -/
def scanned (m : ℕ) : Except ReadError Magnitude :=
  if h : m ≤ maxMantissa then .ok ⟨m, l.kept, h⟩
  else if l.kept = 0 then .error .roundedBeyondMantissa
  else .ok ⟨(maxMantissa + 5) / 10, l.kept - 1, by decide⟩

theorem roundUp_kept (h : l.upTo l.kept ≤ maxMantissa) (dropped : ℕ) :
    Magnitude.roundUp ⟨l.upTo l.kept, l.kept, h⟩ dropped =
      l.scanned (l.upTo l.kept + if 5 ≤ dropped then 1 else 0) := by
  rw [Magnitude.roundUp, scanned]
  by_cases hfive : 5 ≤ dropped
  · rw [if_neg (Nat.not_lt_of_le hfive)]
    simp only [if_pos hfive]
    by_cases hroom : l.upTo l.kept + 1 ≤ maxMantissa
    · rw [dif_pos hroom, dif_pos hroom]
    · have hlargest : l.upTo l.kept = maxMantissa := by omega
      rw [dif_neg hroom, dif_neg hroom]
      simp only [hlargest]
  · rw [if_pos (Nat.lt_of_not_le hfive)]
    simp only [if_neg hfive, Nat.add_zero, dif_pos h]

theorem scan_fraction_kept (hwhole : l.upTo 0 ≤ maxMantissa) {m : ℕ}
    (hm : Tie.awayFromZero.Rounds (l.magnitude * 10 ^ l.kept) m) :
    scan true true ⟨l.upTo 0, 0, hwhole⟩ l.fraction = l.scanned m := by
  have hkept := upTo_kept_le hwhole
  have hle : Nat.ofDigitChars 10 (l.fraction.take l.kept) (l.upTo 0) ≤ maxMantissa := by
    rwa [← l.upTo_eq]
  have hlength : (l.fraction.take l.kept).length = l.kept := by
    rw [List.length_take, Nat.min_eq_left l.kept_le_length]
  rcases Nat.lt_or_eq_of_le l.kept_le_length with hlt | heq
  · obtain ⟨c, rest, hdrop⟩ :=
      List.exists_cons_of_ne_nil (List.drop_eq_nil_iff.not.mpr hlt.not_ge)
    obtain ⟨hc, hrest⟩ := isDigit_dropped hdrop
    have htaken : ∀ c ∈ l.fraction.take l.kept, c.isDigit = true := fun c hc =>
      l.isDigit_fraction c (List.mem_of_mem_take hc)
    have hfull : 0 + (l.fraction.take l.kept).length < maxScale →
        maxMantissa < 10 * Nat.ofDigitChars 10 (l.fraction.take l.kept) (l.upTo 0) +
          (c.toNat - '0'.toNat) := by
      intro hscale
      rw [hlength, Nat.zero_add] at hscale
      rw [← l.upTo_eq, ← upTo_succ hdrop]
      exact lt_upTo_kept_succ hscale hlt
    have hscan := scan_fraction_dropped (m := ⟨l.upTo 0, 0, hwhole⟩) htaken hc hrest Nat.succ_pos'
      (by rw [hlength, Nat.zero_add]; exact l.kept_le_maxScale) hle hfull
    rw [← hdrop, List.take_append_drop] at hscan
    rw [hm.unique (rounds_dropped hdrop), ← roundUp_kept hkept, hscan]
    simp only [hlength, ← l.upTo_eq, Nat.zero_add]
  · have htaken : l.fraction.take l.kept = l.fraction := by rw [heq, List.take_length]
    rw [htaken] at hle hlength
    have hexact : Tie.awayFromZero.Rounds (l.magnitude * 10 ^ l.kept) (l.upTo l.kept) := by
      rw [magnitude_of_kept_eq_length heq]
      exact .refl _ _
    have hscan := scan_fraction (m := ⟨l.upTo 0, 0, hwhole⟩) l.isDigit_fraction
      (by rw [hlength, Nat.zero_add]; exact l.kept_le_maxScale) hle
    rw [hscan, hm.unique hexact, scanned, dif_pos hkept]
    simp only [l.upTo_eq l.kept, htaken, hlength, Nat.zero_add]

theorem ofDigitChars_whole : Nat.ofDigitChars 10 l.whole 0 = l.upTo 0 := by
  rw [upTo, List.take_zero, List.append_nil]

theorem scan_unsignedChars (hwhole : l.upTo 0 ≤ maxMantissa) {m : ℕ}
    (hm : Tie.awayFromZero.Rounds (l.magnitude * 10 ^ l.kept) m) :
    scan false false ⟨0, 0, Nat.zero_le _⟩ l.unsignedChars = l.scanned m := by
  have hstarted : l.whole.isEmpty = false := List.isEmpty_eq_false_iff.mpr l.whole_ne_nil
  have hfraction := scan_fraction_kept hwhole hm
  rw [unsignedChars, scan_whole l.isDigit_whole (by rwa [ofDigitChars_whole])]
  simp only [hstarted, ofDigitChars_whole, Bool.not_false, Bool.or_true]
  by_cases hnone : l.fraction = []
  · rw [hnone] at hfraction
    rw [if_pos hnone, ← hfraction]
    rfl
  · have hpoint : Text.digitValue? '.' = none := by decide
    rw [if_neg hnone, scan, hpoint]
    simp only [true_and, if_true]
    exact hfraction

theorem scan_unsignedChars_of_lt (hwhole : maxMantissa < l.upTo 0) :
    scan false false ⟨0, 0, Nat.zero_le _⟩ l.unsignedChars = .error .tooManyDigits := by
  rw [unsignedChars]
  exact scan_whole_of_lt l.isDigit_whole (by rwa [ofDigitChars_whole])

theorem read_chars_eq :
    read l.chars = (scan false false ⟨0, 0, Nat.zero_le _⟩ l.unsignedChars).map fun m =>
      ⟨l.negative && m.mantissa != 0, m.mantissa, m.scale, m.mantissa_le⟩ := by
  have hne : l.chars ≠ [] := by
    rw [chars, unsignedChars]
    exact List.append_ne_nil_of_right_ne_nil _ (List.append_ne_nil_of_left_ne_nil l.whole_ne_nil _)
  rw [read, if_neg (by simpa using hne), splitSign_chars]
  cases hscan : scan false false ⟨0, 0, Nat.zero_le _⟩ l.unsignedChars <;> simp only [hscan] <;> rfl

theorem not_isExponentMark {c : Char} (h : c ∈ l.chars) : isExponentMark c = false := by
  have hdigit : ∀ d : Char, d.isDigit = true → isExponentMark d = false := by
    intro d hd
    rw [isExponentMark, Bool.or_eq_false_iff, beq_eq_false_iff_ne, beq_eq_false_iff_ne]
    constructor <;> rintro rfl <;> exact absurd hd (by decide)
  rw [chars, unsignedChars, List.mem_append, List.mem_append] at h
  rcases h with hsign | hwhole | hfraction
  · have hmem := l.sign_mem
    simp only [List.mem_cons, List.not_mem_nil, or_false] at hmem
    rcases hmem with heq | heq | heq <;> rw [heq] at hsign
    · exact absurd hsign List.not_mem_nil
    · rw [List.mem_singleton.mp hsign]; rfl
    · rw [List.mem_singleton.mp hsign]; rfl
  · exact hdigit c (l.isDigit_whole c hwhole)
  · split at hfraction
    · exact absurd hfraction List.not_mem_nil
    · rcases List.mem_cons.mp hfraction with rfl | hfraction
      · rfl
      · exact hdigit c (l.isDigit_fraction c hfraction)

theorem readAny_chars_of_error {e : ReadError} (h : read l.chars = .error e) :
    readAny l.chars = .error .malformedExponent := by
  have hnone : l.chars.dropWhile (!isExponentMark ·) = [] := by
    rw [List.dropWhile_eq_nil_iff]
    intro c hc
    rw [not_isExponentMark hc]
    rfl
  -- without an exponent mark there is nothing that scientific notation could save
  rw [readAny, h]
  simp only [readScientific, hnone]

end Literal
end Decimal
end Resultset
