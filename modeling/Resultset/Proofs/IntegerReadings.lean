import Resultset.Extraction
import Resultset.Proofs.Numerals

/-! # Integers that columns denote

`Converter.Denotes` says which integer a value denotes to each converter: the one that it is, or the
one that its text writes out as a `Literal`. The widths have no part in it, so a reading at a width
answers the integer if the width holds it and fails otherwise (`integer_denoted`). For texts this is
`read_ok_iff`: the reader accepts the literals in range, of any length, and nothing else.
-/

namespace Resultset
set_option autoImplicit false

theorem IntWidth.number?_eq_some_iff {w : IntWidth} {n : Int} {m : w.Number} :
    w.number? n = some m ↔ m.val = n := by
  constructor
  · intro h
    rw [number?] at h
    split at h
    · exact (congrArg Number.val (Option.some.inj h)).symm
    · contradiction
  · rintro rfl
    exact number?_val m

theorem IntWidth.number?_eq_none_iff {w : IntWidth} {n : Int} :
    w.number? n = none ↔ ¬ w.Holds n := by
  rw [number?]
  split <;> simp [*]

namespace Integer

/-! ## Literals -/

/-- An integer written out: an optional sign and digits, zeros in front included. -/
structure Literal where
  sign : Option Char
  digits : List Char
  sign_mem : sign ∈ Text.signs
  digits_ne_nil : digits ≠ []
  isDigit_digits : ∀ c ∈ digits, c.isDigit = true

namespace Literal

def chars (l : Literal) : List Char := l.sign.toList ++ l.digits

/-- The integer that the literal denotes. -/
def value (l : Literal) : Int := signed (l.sign == some '-') (Nat.ofDigitChars 10 l.digits 0)

theorem splitSign_chars (l : Literal) :
    Text.splitSign l.chars = (l.sign == some '-', l.digits) := by
  obtain ⟨c, rest, hdigits⟩ := List.exists_cons_of_ne_nil l.digits_ne_nil
  have hc : c.isDigit = true := l.isDigit_digits c (by rw [hdigits]; exact List.mem_cons_self)
  rw [chars, hdigits]
  exact Text.splitSign_append l.sign_mem hc rest

/-- A literal is read as the integer that it denotes, if the width holds it. -/
theorem read_chars (w : IntWidth) (l : Literal) :
    read w l.chars =
      if w.Holds l.value then .ok l.value
      else .error (if l.sign == some '-' then .tooSmall else .tooLarge) :=
  read_of_splitSign l.splitSign_chars l.digits_ne_nil l.isDigit_digits

end Literal

theorem exists_literal_of_read {w : IntWidth} {text : List Char} {n : Int}
    (h : read w text = .ok n) : ∃ l : Literal, text = l.chars ∧ l.value = n := by
  rw [read] at h
  split at h
  · contradiction
  · rcases hsplit : Text.splitSign text with ⟨negative, digits⟩
    obtain ⟨sign, hsign, htext, rfl⟩ := Text.splitSign_inv hsplit
    simp only [hsplit] at h
    split at h
    · contradiction
    · next hne =>
      split at h
      · next m hread =>
        obtain ⟨hdigits, hm⟩ := Text.readDigits_inv hread
        refine ⟨⟨sign, digits, hsign, by simpa using hne, hdigits⟩, htext, ?_⟩
        rw [← Except.ok.inj h, ← hm]
        rfl
      · contradiction
      · contradiction

theorem read_ok_iff {w : IntWidth} {text : List Char} {n : Int} :
    read w text = .ok n ↔ w.Holds n ∧ ∃ l : Literal, text = l.chars ∧ l.value = n := by
  constructor
  · exact fun h => ⟨holds_of_read h, exists_literal_of_read h⟩
  · rintro ⟨hholds, l, rfl, rfl⟩
    rw [l.read_chars, if_pos hholds]

theorem readNumber_ok_iff {w : IntWidth} {text : List Char} {n : w.Number} :
    readNumber w text = .ok n ↔ ∃ l : Literal, text = l.chars ∧ l.value = n.val := by
  constructor
  · intro h
    cases hread : read w text with
    | error e => exact absurd ((readNumber_of_error hread).symm.trans h) nofun
    | ok m =>
      have hnumber := readNumber_of_ok (n := ⟨m, holds_of_read hread⟩) hread
      obtain rfl := Except.ok.inj (hnumber.symm.trans h)
      exact exists_literal_of_read hread
  · exact fun hliteral => readNumber_of_ok (read_ok_iff.mpr ⟨n.holds, hliteral⟩)

end Integer

/-! ## Readings of a value -/

/-- Whether a value denotes an integer to a converter: it is one, or its text writes one out. -/
def Converter.Denotes (v : Value) (n : Int) : Converter → Prop
  | .typed => ∃ (u : IntWidth) (m : u.Number), v = .integer u m ∧ m.val = n
  | .textual => ∃ l : Integer.Literal, Text.trim v.chars = l.chars ∧ l.value = n

namespace Typed
variable {w : IntWidth}

theorem integer_of_number {u : IntWidth} (m : u.Number) :
    integer w (.integer u m) =
      match w.number? m.val with
      | some n => .ok n
      | none => .error (.outOfRange m.val (.scalar (.integer w))) := rfl

theorem integer_of_other {v : Value} (h : ∀ (u : IntWidth) (m : u.Number), v ≠ .integer u m) :
    integer w v = .error (.incompatible v.typeName (.scalar (.integer w))) := by
  cases v with
  | integer u m => exact absurd rfl (h u m)
  | _ => rfl

theorem integer_ok_iff {v : Value} {n : w.Number} :
    integer w v = .ok n ↔ Converter.typed.Denotes v n.val := by
  constructor
  · intro h
    cases v with
    | integer u m =>
      rw [integer_of_number] at h
      cases hnumber : w.number? m.val with
      | none => simp only [hnumber, reduceCtorEq] at h
      | some k =>
        simp only [hnumber, Except.ok.injEq] at h
        exact ⟨u, m, rfl, by rw [← h, IntWidth.number?_eq_some_iff.mp hnumber]⟩
    | _ => exact absurd h nofun
  · rintro ⟨u, m, rfl, hm⟩
    rw [integer_of_number, IntWidth.number?_eq_some_iff.mpr hm.symm]

end Typed

namespace Textual
variable {w : IntWidth} {v : Value}

theorem integer_ok_iff {n : w.Number} :
    integer w v = .ok n ↔ Converter.textual.Denotes v n.val := by
  rw [integer, Converter.Denotes, ← trimmed, ← Integer.readNumber_ok_iff]
  cases Integer.readNumber w (trimmed v) with
  | error e => exact ⟨nofun, nofun⟩
  | ok m =>
    exact ⟨fun h => congrArg Except.ok (Except.ok.inj h),
      fun h => congrArg Except.ok (Except.ok.inj h)⟩

theorem integer_error_of_not_ok (h : ∀ n, integer w v ≠ .ok n) :
    ∃ e, integer w v = .error (.unreadable v.text (.scalar (.integer w)) (.notInteger e)) := by
  rw [integer] at h ⊢
  cases hread : Integer.readNumber w (trimmed v) with
  | error e => exact ⟨e, rfl⟩
  | ok n => exact absurd (by rw [hread]; rfl) (h n)

end Textual

namespace Converter
variable {v : Value}

theorem convert_ok_iff (converter : Converter) (hv : v ≠ .null) {w : IntWidth} {n : w.Number} :
    converter.convert (.scalar (.integer w)) v = .ok n ↔ converter.Denotes v n.val := by
  cases converter with
  | typed =>
    rw [typed_convert hv]
    exact Typed.integer_ok_iff
  | textual =>
    rw [textual_convert hv]
    exact Textual.integer_ok_iff

/-- A NULL is read as zero. Of any other value a width answers the integer that it denotes, if it
holds it. Otherwise the typed converter tells an integer out of range from a value of another type,
and the textual one reports the text as it was before trimming. So the widths that answer at all
answer the same integer, and each answers it that holds it. -/
theorem integer_denoted {row : Row} {position : Nat} (hvalue : row.get? position = some v) :
    (v = .null → ∀ (converter : Converter) (w : IntWidth),
      converter.read (.scalar (.integer w)) row position = .ok ⟨0, w.holds_zero⟩) ∧
      (v ≠ .null →
        (∀ (converter : Converter) (w : IntWidth) (n : w.Number),
          converter.read (.scalar (.integer w)) row position = .ok n ↔
            converter.Denotes v n.val) ∧
          (∀ w n, typed.Denotes v n → ¬ w.Holds n →
            typed.read (.scalar (.integer w)) row position =
              .error (.outOfRange n (.scalar (.integer w)))) ∧
          (∀ w, (∀ n, ¬ typed.Denotes v n) →
            typed.read (.scalar (.integer w)) row position =
              .error (.incompatible v.typeName (.scalar (.integer w)))) ∧
          (∀ w, (∀ n, textual.Denotes v n → ¬ w.Holds n) →
            ∃ e, textual.read (.scalar (.integer w)) row position =
              .error (.unreadable v.text (.scalar (.integer w)) (.notInteger e))) ∧
          ∀ (converter : Converter) (w : IntWidth) (n : w.Number),
            converter.read (.scalar (.integer w)) row position = .ok n →
              ∀ u : IntWidth, u.Holds n.val ↔
                ∃ m : u.Number, m.val = n.val ∧
                  converter.read (.scalar (.integer u)) row position = .ok m) := by
  simp only [read_of_some hvalue]
  refine ⟨?_, fun hv => ⟨fun converter w n => converter.convert_ok_iff hv, ?_, ?_, ?_, ?_⟩⟩
  · rintro rfl converter w
    rfl
  · rintro w _ ⟨u, m, rfl, rfl⟩ hout
    rw [typed_convert hv, Typed.ofValue, Typed.integer_of_number,
      IntWidth.number?_eq_none_iff.mpr hout]
  · intro w hnone
    rw [typed_convert hv]
    exact Typed.integer_of_other fun u m hvalue => hnone m.val ⟨u, m, hvalue, rfl⟩
  · intro w hnone
    rw [textual_convert hv]
    exact Textual.integer_error_of_not_ok fun n hok =>
      hnone n.val (Textual.integer_ok_iff.mp hok) n.holds
  · intro converter w n hok u
    have hdenotes := (converter.convert_ok_iff hv).mp hok
    constructor
    · exact fun hholds => ⟨⟨n.val, hholds⟩, rfl, (converter.convert_ok_iff hv).mpr hdenotes⟩
    · rintro ⟨m, hm, -⟩
      exact hm ▸ m.holds

/-- The lowest number of the narrowest width, with zeros and blanks around it: no integer to the
typed converter, and the same one at every width to the textual converter. -/
theorem integer_denoted_of_padded_lowest :
    let row : Row := ⟨[.string " -000128 "]⟩
    row.get? 0 = some (.string " -000128 ") ∧
      typed.read (.scalar (.integer .tiny)) row 0 =
        .error (.incompatible "STRING" (.scalar (.integer .tiny))) ∧
      textual.read (.scalar (.integer .tiny)) row 0 = .ok ⟨-128, by decide⟩ ∧
      ∀ u : IntWidth, ∃ m : u.Number, m.val = -128 ∧
        textual.read (.scalar (.integer u)) row 0 = .ok m := by
  intro row
  have hvalue : row.get? 0 = some (.string " -000128 ") := rfl
  obtain ⟨hok, -, hother, -, hwidths⟩ := (integer_denoted hvalue).2 nofun
  have hdenotes : textual.Denotes (.string " -000128 ") (-128) :=
    ⟨⟨some '-', "000128".toList, by decide, by decide, by simp⟩, rfl, rfl⟩
  have htiny := (hok textual .tiny ⟨-128, by decide⟩).mpr hdenotes
  refine ⟨hvalue, hother .tiny ?_, htiny, fun u => ?_⟩
  · rintro n ⟨w, m, hinteger, -⟩
    contradiction
  · exact (hwidths textual .tiny _ htiny u).mp (by cases u <;> decide)

end Converter
end Resultset
