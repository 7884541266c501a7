import Resultset.Integer.Text
import Resultset.Text.Blank

/-! # Printed numerals read back

`Nat.ofDigitChars 10` is the number that a run of digits denotes. `readDigits_of_digits` says that
reading finds this number or the bound in its way, and the printers `Nat.toDigits 10` and
`fixedDigits` are right about it. An integer is therefore read back from its text exactly at the
widths that hold it (`read_chars`).
-/

namespace Resultset.Text
set_option autoImplicit false

/-! ## Blanks -/

theorem isBlank_of_isDigit {c : Char} (h : c.isDigit = true) : isBlank c = false := by
  obtain ⟨hlow, hhigh⟩ := Char.isDigit_iff_toNat.mp h
  change 48 ≤ c.toNat at hlow
  change c.toNat ≤ 57 at hhigh
  simp only [isBlank, blankRanges, List.any_cons, List.any_nil, Bool.or_false, Bool.or_eq_false_iff,
    Bool.and_eq_false_iff, decide_eq_false_iff_not, Nat.not_le]
  omega

theorem trim_of_not_isBlank {text : List Char} (h : ∀ c ∈ text, isBlank c = false) :
    trim text = text := by
  have hkept : ∀ {l : List Char}, (∀ c ∈ l, isBlank c = false) → l.dropWhile isBlank = l := by
    intro l hl
    cases l with
    | nil => rfl
    | cons c l => exact List.dropWhile_cons_of_neg (by simp [hl c])
  rw [trim, hkept h, hkept (by simpa using h), List.reverse_reverse]

/-! ## Reading digits -/

theorem le_ofDigitChars (digits : List Char) (n : Nat) : n ≤ Nat.ofDigitChars 10 digits n := by
  rw [Nat.ofDigitChars_eq_ofDigitChars_zero]
  have hpos : 0 < 10 ^ digits.length := Nat.pow_pos (by decide)
  have hle : n ≤ 10 ^ digits.length * n := Nat.le_mul_of_pos_left n hpos
  omega

/-- Digits are read as the number that they denote, if that is within the bound. -/
theorem readDigits_of_digits {bound n : Nat} {digits : List Char} (hn : n ≤ bound)
    (hdigits : ∀ c ∈ digits, c.isDigit = true) :
    readDigits bound n digits =
      if Nat.ofDigitChars 10 digits n ≤ bound then .ok (Nat.ofDigitChars 10 digits n)
      else .error .overBound := by
  induction digits generalizing n with
  | nil => rw [readDigits, Nat.ofDigitChars_nil, if_pos hn]
  | cons c digits ih =>
    rw [readDigits, digitValue?_of_isDigit (hdigits c List.mem_cons_self), Nat.ofDigitChars_cons]
    have hrest : ∀ c ∈ digits, c.isDigit = true := fun c hc =>
      hdigits c (List.mem_cons_of_mem _ hc)
    by_cases hle : 10 * n + (c.toNat - '0'.toNat) ≤ bound
    · simp only [hle, if_true]
      exact ih hle hrest
    · have hmore := le_ofDigitChars digits (10 * n + (c.toNat - '0'.toNat))
      simp only [hle, if_false]
      rw [if_neg (by omega)]

/-- What is read as a number is digits that denote it. -/
theorem readDigits_inv {bound n m : Nat} {digits : List Char}
    (h : readDigits bound n digits = .ok m) :
    (∀ c ∈ digits, c.isDigit = true) ∧ Nat.ofDigitChars 10 digits n = m := by
  induction digits generalizing n with
  | nil => exact ⟨nofun, Except.ok.inj h⟩
  | cons c digits ih =>
    rw [readDigits] at h
    cases hdigit : c.isDigit with
    | false => simp only [digitValue?_eq_none_iff.mpr hdigit, reduceCtorEq] at h
    | true =>
      simp only [digitValue?_of_isDigit hdigit] at h
      split at h
      · obtain ⟨hdigits, hvalue⟩ := ih h
        rw [Nat.ofDigitChars_cons]
        exact ⟨List.forall_mem_cons.mpr ⟨hdigit, hdigits⟩, hvalue⟩
      · contradiction

/-! ## Printed digits -/

theorem isDigit_of_mem_toDigits {n : Nat} {c : Char} (h : c ∈ Nat.toDigits 10 n) :
    c.isDigit = true := Nat.isDigit_of_mem_toDigits (by decide) (by decide) h

theorem isDigit_of_mem_fixedDigits {places n : Nat} {c : Char} (h : c ∈ fixedDigits places n) :
    c.isDigit = true := by
  induction places generalizing n with
  | zero => exact absurd h List.not_mem_nil
  | succ places ih =>
    rw [fixedDigits, List.mem_append, List.mem_singleton] at h
    rcases h with h | rfl
    · exact ih h
    · rw [Nat.isDigit_digitChar, decide_eq_true_eq]
      exact Nat.mod_lt n (by decide)

/-- Fixed places hold a number modulo their power of ten. -/
theorem ofDigitChars_fixedDigits (places n init : Nat) :
    Nat.ofDigitChars 10 (fixedDigits places n) init = init * 10 ^ places + n % 10 ^ places := by
  induction places generalizing n with
  | zero => rw [fixedDigits, Nat.ofDigitChars_nil, Nat.pow_zero, Nat.mod_one, Nat.mul_one, Nat.add_zero]
  | succ places ih =>
    have hlast : n % 10 < 10 := Nat.mod_lt n (by decide)
    rw [fixedDigits, Nat.ofDigitChars_append, ih, Nat.ofDigitChars_cons_digitChar_of_lt_ten hlast,
      Nat.ofDigitChars_nil, Nat.pow_succ, Nat.mul_comm (10 ^ places) 10, Nat.mod_mul,
      Nat.mul_add, Nat.mul_left_comm]
    omega

theorem splitSign_of_isDigit {c : Char} (h : c.isDigit = true) (rest : List Char) :
    splitSign (c :: rest) = (false, c :: rest) := by
  unfold splitSign
  split
  · next heq =>
    obtain ⟨rfl, -⟩ := List.cons.inj heq
    exact absurd h (by decide)
  · next heq =>
    obtain ⟨rfl, -⟩ := List.cons.inj heq
    exact absurd h (by decide)
  · rfl

def signs : List (Option Char) := [none, some '+', some '-']

/-- A sign in front of digits is split off. -/
theorem splitSign_append {sign : Option Char} (hsign : sign ∈ signs) {c : Char}
    (hc : c.isDigit = true) (rest : List Char) :
    splitSign (sign.toList ++ c :: rest) = (sign == some '-', c :: rest) := by
  simp only [signs, List.mem_cons, List.not_mem_nil, or_false] at hsign
  rcases hsign with rfl | rfl | rfl
  · exact splitSign_of_isDigit hc rest
  · rfl
  · rfl

theorem splitSign_inv {text digits : List Char} {negative : Bool}
    (h : splitSign text = (negative, digits)) :
    ∃ sign ∈ signs, text = sign.toList ++ digits ∧ negative = (sign == some '-') := by
  unfold splitSign at h
  split at h <;> obtain ⟨rfl, rfl⟩ := Prod.mk.inj h
  · exact ⟨some '-', by decide, rfl, rfl⟩
  · exact ⟨some '+', by decide, rfl, rfl⟩
  · exact ⟨none, by decide, rfl, rfl⟩

theorem splitSign_toDigits_append (n : Nat) (rest : List Char) :
    splitSign (Nat.toDigits 10 n ++ rest) = (false, Nat.toDigits 10 n ++ rest) := by
  obtain ⟨c, digits, hdigits⟩ := List.exists_cons_of_ne_nil (Nat.toDigits_ne_nil (n := n) (b := 10))
  have hc : c.isDigit = true := isDigit_of_mem_toDigits (n := n) (by rw [hdigits]; simp)
  rw [hdigits]
  exact splitSign_of_isDigit hc _

end Resultset.Text

namespace Resultset.Integer
set_option autoImplicit false

/-! ## Integers -/

def signed (negative : Bool) (n : Nat) : Int := if negative then -n else n

/-- A sign and digits are read as the integer that they denote, if the width holds it. -/
theorem read_of_splitSign {w : IntWidth} {text digits : List Char} {negative : Bool}
    (hsplit : Text.splitSign text = (negative, digits)) (hne : digits ≠ [])
    (hdigits : ∀ c ∈ digits, c.isDigit = true) :
    read w text =
      if w.Holds (signed negative (Nat.ofDigitChars 10 digits 0)) then
        .ok (signed negative (Nat.ofDigitChars 10 digits 0))
      else .error (if negative then .tooSmall else .tooLarge) := by
  have htext : text ≠ [] := by
    rintro rfl
    exact hne (congrArg Prod.snd hsplit).symm
  have hhalf : 0 < w.half := by cases w <;> decide
  rw [read, if_neg (by simpa using htext), hsplit]
  simp only [List.isEmpty_iff, hne, if_false]
  rw [Text.readDigits_of_digits (Nat.zero_le _) hdigits]
  generalize Nat.ofDigitChars 10 digits 0 = n
  cases negative with
  | true =>
    simp only [signed, if_true, IntWidth.Holds]
    by_cases hle : n ≤ w.half
    · rw [if_pos hle, if_pos (by omega)]
    · rw [if_neg hle, if_neg (by omega)]
  | false =>
    simp only [signed, Bool.false_eq_true, if_false, IntWidth.Holds]
    by_cases hle : n ≤ w.half - 1
    · rw [if_pos hle, if_pos (by omega)]
    · rw [if_neg hle, if_neg (by omega)]

theorem splitSign_chars (n : Int) :
    Text.splitSign (chars n) = (decide (n < 0), Nat.toDigits 10 n.natAbs) := by
  by_cases hneg : n < 0
  · rw [chars, if_pos hneg, decide_eq_true hneg]
    rfl
  · have hsplit := Text.splitSign_toDigits_append n.natAbs []
    rw [List.append_nil] at hsplit
    rw [chars, if_neg hneg, decide_eq_false hneg, hsplit]

/-- A printed integer is read back by the widths that hold it, and by no other. -/
theorem read_chars (w : IntWidth) (n : Int) :
    read w (chars n) =
      if w.Holds n then .ok n else .error (if decide (n < 0) then .tooSmall else .tooLarge) := by
  have hvalue : signed (decide (n < 0)) (Nat.ofDigitChars 10 (Nat.toDigits 10 n.natAbs) 0) = n := by
    rw [Nat.ofDigitChars_ten_toDigits, signed]
    simp only [decide_eq_true_eq]
    omega
  rw [read_of_splitSign (splitSign_chars n) Nat.toDigits_ne_nil
    (fun _ => Text.isDigit_of_mem_toDigits), hvalue]

theorem not_isBlank_chars (n : Int) : ∀ c ∈ chars n, Text.isBlank c = false := by
  intro c hc
  rw [chars] at hc
  split at hc
  · rcases List.mem_cons.mp hc with rfl | hc
    · decide
    · exact Text.isBlank_of_isDigit (Text.isDigit_of_mem_toDigits hc)
  · exact Text.isBlank_of_isDigit (Text.isDigit_of_mem_toDigits hc)

theorem readNumber_of_ok {w : IntWidth} {text : List Char} {n : w.Number}
    (h : read w text = .ok n.val) : readNumber w text = .ok n := by
  unfold readNumber
  split
  · next m hm =>
    rw [h, Except.ok.injEq] at hm
    subst hm
    rfl
  · next e he => exact absurd (h.symm.trans he) nofun

theorem readNumber_of_error {w : IntWidth} {text : List Char} {e : ReadError}
    (h : read w text = .error e) : readNumber w text = .error e := by
  unfold readNumber
  split
  · next m hm => exact absurd (h.symm.trans hm) nofun
  · next e' he =>
    rw [h, Except.error.injEq] at he
    rw [he]

end Resultset.Integer
