import Mathlib.Data.List.Forall2
import Mathlib.Data.List.TakeWhile
import Resultset.Proofs.DecimalScales

/-! # Blanks around a text

The textual converter reads every target but strings and bytes from what `Text.trim` leaves of a
text, and trimming takes off any blanks put around a text, also where the text has blanks at its own
ends or nothing else (`trim_padded`). The text as it stands only shows in the error of one that
cannot be read (`ExtractionError.withInput`). So a reading of a padded text is that of the text,
that error apart (`same_within_blanks`).

A decimal can be read and then have too many digits for its type. No text is at fault there, and the
error is the one for the number.
-/

namespace Resultset
set_option autoImplicit false

namespace Text

/-! ## Trimming -/

section
variable {before after : List Char}

theorem trim_append_left (hbefore : ∀ c ∈ before, isBlank c = true) (text : List Char) :
    trim (before ++ text) = trim text := by
  rw [trim, List.dropWhile_append_of_pos hbefore, ← trim]

/-- Blanks behind a text go by themselves, or with a text that is blank from end to end. -/
theorem trim_append_right (hafter : ∀ c ∈ after, isBlank c = true) (text : List Char) :
    trim (text ++ after) = trim text := by
  have hreverse : ∀ c ∈ after.reverse, isBlank c = true := fun c hc =>
    hafter c (List.mem_reverse.mp hc)
  rw [trim, trim, List.dropWhile_append]
  split
  · next hblank =>
    rw [List.isEmpty_iff.mp hblank, List.dropWhile_eq_nil_iff.mpr hafter]
  · rw [List.reverse_append, List.dropWhile_append_of_pos hreverse]

theorem trim_padded (hbefore : ∀ c ∈ before, isBlank c = true)
    (hafter : ∀ c ∈ after, isBlank c = true) (text : List Char) :
    trim (before ++ text ++ after) = trim text := by
  rw [trim_append_right hafter, trim_append_left hbefore]

end

/-! ## Words in any case -/

/-- Whether the text is the word, each letter small or capital. -/
def Spells (word text : List Char) : Prop :=
  List.Forall₂ (fun letter c => c = letter ∨ c = letter.toUpper) word text

theorem toLower_eq_iff {letter : Char} (hletter : letter.isLower = true) (c : Char) :
    c.toLower = letter ↔ c = letter ∨ c = letter.toUpper := by
  have ha : 'a'.val.toNat = 97 := rfl
  have hz : 'z'.val.toNat = 122 := rfl
  have hA : 'A'.val.toNat = 65 := rfl
  have hZ : 'Z'.val.toNat = 90 := rfl
  delta Char.isLower at hletter
  simp only [Bool.and_eq_true, decide_eq_true_eq, ge_iff_le, UInt32.le_iff_toNat_le, ha, hz]
    at hletter
  delta Char.toLower Char.toUpper
  simp only [ge_iff_le, UInt32.le_iff_toNat_le, ha, hz, hA, hZ]
  rw [dif_pos hletter]
  split
  · simp only [Char.ext_iff, ← UInt32.toNat_inj, UInt32.toNat_add, UInt32.toNat_sub, ha, hA]
    omega
  · simp only [Char.ext_iff, ← UInt32.toNat_inj, UInt32.toNat_add, UInt32.toNat_sub, ha, hA]
    omega

theorem map_toLower_eq_iff {word : List Char} (hword : ∀ c ∈ word, c.isLower = true)
    (text : List Char) : text.map Char.toLower = word ↔ Spells word text := by
  induction word generalizing text with
  | nil => simp [Spells]
  | cons letter word ih =>
    rw [List.forall_mem_cons] at hword
    cases text with
    | nil => simp [Spells]
    | cons c text =>
      rw [Spells, List.forall₂_cons, ← toLower_eq_iff hword.1, List.map_cons, List.cons.injEq,
        ih hword.2, Spells]

end Text

/-! ## Errors and the text they show -/

namespace ExtractionError

/-- The error with the input replaced, if it shows one. -/
def withInput (input : String) : ExtractionError → ExtractionError
  | unreadable _ target reason => unreadable input target reason
  | e => e

end ExtractionError

/-- Whether the target is what a text denotes, and not the text or its bytes. -/
def Target.isParsed : Target → Bool
  | .scalar .string | .scalar .binary => false
  | _ => true

namespace Textual
variable {v w : Value}

/-- Of two values that are the same text once trimmed, the one answers as the other. -/
theorem ofValue_of_trimmed (h : trimmed w = trimmed v) {t : Target} (ht : t.isParsed = true) :
    ofValue t w = (ofValue t v).mapError (ExtractionError.withInput w.text) := by
  cases t with
  | scalar s =>
    cases s with
    | string => contradiction
    | binary => contradiction
    | boolean =>
      simp only [ofValue, boolean, h]
      split
      · rfl
      · split <;> rfl
    | integer width =>
      rw [ofValue, ofValue, integer, integer, h]
      cases Integer.readNumber width (trimmed v) <;> rfl
    | float =>
      rw [ofValue, ofValue, float, float, h]
      cases Floating.readSingle (trimmed v) <;> rfl
    | double =>
      rw [ofValue, ofValue, double, double, h]
      cases Floating.readDouble (trimmed v) <;> rfl
  | decimal precision scale =>
    rw [ofValue, ofValue, decimal, decimal, h]
    cases hread : Decimal.readAny (trimmed v) with
    | error e => rfl
    | ok d =>
      simp only
      cases hfit : d.fit precision scale with
      | ok q => rfl
      | error e =>
        rw [Decimal.fit_failed (Decimal.scale_readAny hread) hfit]
        rfl

/-- A text is no answer because it cannot be read, or because it is read as a decimal that has too
many digits. -/
inductive Failed (v : Value) : Target → ExtractionError → Prop
  | unreadable {t : Target} (reason : Unreadable) : Failed v t (.unreadable v.text t reason)
  | unfit {precision scale : Nat} (d : Decimal) (hread : Decimal.readAny (trimmed v) = .ok d) :
      Failed v (.decimal precision scale) (.precisionExceeded d precision scale)

theorem ofValue_failed {t : Target} {e : ExtractionError} (h : ofValue t v = .error e) :
    Failed v t e := by
  cases t with
  | scalar s =>
    cases s with
    | string => contradiction
    | binary => contradiction
    | boolean =>
      simp only [ofValue, boolean] at h
      split at h
      · contradiction
      · split at h
        · contradiction
        · obtain rfl := Except.error.inj h
          exact .unreadable .notBoolean
    | integer width =>
      obtain ⟨cause, -, rfl⟩ := error_of_mapError h
      exact .unreadable (.notInteger cause)
    | float =>
      obtain ⟨cause, -, rfl⟩ := error_of_mapError h
      exact .unreadable (.notFloating cause)
    | double =>
      obtain ⟨cause, -, rfl⟩ := error_of_mapError h
      exact .unreadable (.notFloating cause)
  | decimal precision scale =>
    rw [ofValue, decimal] at h
    split at h
    · next d hread =>
      rw [Decimal.fit_failed (Decimal.scale_readAny hread) (error_of_map h)]
      exact .unfit d hread
    · next cause _ =>
      obtain rfl := Except.error.inj h
      exact .unreadable (.notDecimal cause)

theorem boolean_ok_iff {b : Bool} :
    boolean v = .ok b ↔ Text.Spells (Value.boolean b).chars (trimmed v) := by
  have hsmall : ∀ c ∈ (Value.boolean b).chars, c.isLower = true := by
    cases b <;> exact List.all_eq_true.mp rfl
  rw [← Text.map_toLower_eq_iff hsmall]
  constructor
  · intro hok
    simp only [boolean] at hok
    split at hok
    · next htrue =>
      obtain rfl := Except.ok.inj hok
      exact htrue
    · split at hok
      · next hfalse =>
        obtain rfl := Except.ok.inj hok
        exact hfalse
      · contradiction
  · intro hword
    cases b with
    | true => exact if_pos hword
    | false =>
      have hwords : "false".toList ≠ "true".toList := by decide
      exact (if_neg (hword.trans_ne hwords)).trans (if_pos hword)

end Textual

/-! ## Padded texts -/

theorem Textual.trimmed_padded {before after : String}
    (hbefore : ∀ c ∈ before.toList, Text.isBlank c = true)
    (hafter : ∀ c ∈ after.toList, Text.isBlank c = true) (text : String) :
    trimmed (.string (before ++ text ++ after)) = trimmed (.string text) := by
  simp only [trimmed, Value.chars, String.toList_append]
  exact Text.trim_padded hbefore hafter text.toList

namespace Converter

theorem textual_read_string {row : Row} {position : Nat} {text : String}
    (h : row.get? position = some (.string text)) (t : Target) :
    textual.read t row position = Textual.ofValue t (.string text) := by
  have hsome : Value.string text ≠ .null := nofun
  rw [read_of_some h, textual_convert hsome]

/-- Blanks around a text change none of its readings: a target that the text is read for is answered
as without them, or the text cannot be read for the same reason, and the error shows it with its
blanks, or it is read as the same decimal, which does not fit the type. A string target keeps the
blanks, and so does a binary one. What is read as a boolean is one of the two words, in any
case. -/
theorem same_within_blanks {before after text : String}
    (hbefore : ∀ c ∈ before.toList, Text.isBlank c = true)
    (hafter : ∀ c ∈ after.toList, Text.isBlank c = true) {row padded : Row} {position : Nat}
    (hrow : row.get? position = some (.string text))
    (hpadded : padded.get? position = some (.string (before ++ text ++ after))) :
    (∀ t : Target, t.isParsed = true →
      (∃ x, textual.read t row position = .ok x ∧ textual.read t padded position = .ok x) ∨
      (∃ reason, textual.read t row position = .error (.unreadable text t reason) ∧
        textual.read t padded position =
          .error (.unreadable (before ++ text ++ after) t reason)) ∨
      ∃ d precision scale, t = .decimal precision scale ∧
        Decimal.readAny (Text.trim text.toList) = .ok d ∧
        textual.read t row position = .error (.precisionExceeded d precision scale) ∧
        textual.read t padded position = .error (.precisionExceeded d precision scale)) ∧
      textual.read (.scalar .string) padded position = .ok (some (before ++ text ++ after)) ∧
      textual.read (.scalar .binary) padded position =
        .ok (some (before ++ text ++ after).toUTF8.toList) ∧
      ∀ b : Bool, textual.read (.scalar .boolean) row position = .ok b ↔
        Text.Spells (Value.boolean b).chars (Text.trim text.toList) := by
  simp only [textual_read_string hrow, textual_read_string hpadded]
  refine ⟨fun t ht => ?_, ?_, ?_, fun b => Textual.boolean_ok_iff⟩
  · have hsame := Textual.ofValue_of_trimmed (Textual.trimmed_padded hbefore hafter text) ht
    rw [hsame, Value.text_string]
    cases hanswer : Textual.ofValue t (.string text) with
    | ok x => exact .inl ⟨x, rfl, rfl⟩
    | error e =>
      cases Textual.ofValue_failed hanswer with
      | unreadable reason =>
        rw [Value.text_string]
        exact .inr (.inl ⟨reason, rfl, rfl⟩)
      | unfit d hread => exact .inr (.inr ⟨d, _, _, rfl, hread, rfl, rfl⟩)
  · rw [Textual.ofValue, Value.text_string]
  · change Except.ok (some (Value.string (before ++ text ++ after)).text.toUTF8.toList) = _
    rw [Value.text_string]

/-- A text with a blank of its own, between blanks of two other kinds. -/
theorem same_within_blanks_at_word :
    (∀ c ∈ "\u3000".toList, Text.isBlank c = true) ∧ (∀ c ∈ "\t\n".toList, Text.isBlank c = true) ∧
      textual.read (.scalar .boolean) ⟨[.string ("\u3000" ++ " TrUe" ++ "\t\n")]⟩ 0 = .ok true := by
  have hbefore : ∀ c ∈ "\u3000".toList, Text.isBlank c = true := List.all_eq_true.mp rfl
  have hafter : ∀ c ∈ "\t\n".toList, Text.isBlank c = true := List.all_eq_true.mp rfl
  refine ⟨hbefore, hafter, ?_⟩
  obtain ⟨hparsed, -, -, hboolean⟩ := same_within_blanks hbefore hafter
    (rfl : (⟨[.string " TrUe"]⟩ : Row).get? 0 = some (.string " TrUe"))
    (rfl : (⟨[.string ("\u3000" ++ " TrUe" ++ "\t\n")]⟩ : Row).get? 0 = _)
  have hword : textual.read (.scalar .boolean) ⟨[.string " TrUe"]⟩ 0 = .ok true :=
    (hboolean true).mpr (by
      refine .cons ?_ (.cons ?_ (.cons ?_ (.cons ?_ .nil))) <;> decide)
  obtain ⟨x, hx, hpadded⟩ | ⟨reason, herror, -⟩ | ⟨d, p, s, htarget, -⟩ :=
    hparsed (.scalar .boolean) rfl
  · rw [hpadded, ← hx, hword]
  · exact absurd (hword.symm.trans herror) nofun
  · exact absurd htarget nofun

/-- The text `123` is read as a number, but not as one of two digits. -/
theorem readable_but_unfit :
    textual.read (.decimal 2 0) ⟨[.string " 123 "]⟩ 0 =
        .error (.precisionExceeded ⟨false, 123, 0, by decide⟩ 2 0) ∧
      ¬ ∀ (before text after : String) (row padded : Row) (t : Target),
        (∀ c ∈ before.toList, Text.isBlank c = true) →
        (∀ c ∈ after.toList, Text.isBlank c = true) → t.isParsed = true →
        row.get? 0 = some (.string text) →
        padded.get? 0 = some (.string (before ++ text ++ after)) →
        (∃ x, textual.read t row 0 = .ok x ∧ textual.read t padded 0 = .ok x) ∨
          ∃ reason, textual.read t row 0 = .error (.unreadable text t reason) ∧
            textual.read t padded 0 =
              .error (.unreadable (before ++ text ++ after) t reason) := by
  have hunfit : textual.read (.decimal 2 0) ⟨[.string " 123 "]⟩ 0 =
      .error (.precisionExceeded ⟨false, 123, 0, by decide⟩ 2 0) := rfl
  have hblank : ∀ c ∈ " ".toList, Text.isBlank c = true := List.all_eq_true.mp rfl
  refine ⟨hunfit, fun hall => ?_⟩
  obtain ⟨x, -, hx⟩ | ⟨reason, -, hreason⟩ :=
    hall " " "123" " " ⟨[.string "123"]⟩ ⟨[.string " 123 "]⟩ (.decimal 2 0) hblank hblank rfl rfl
      rfl
  · exact absurd (hunfit.symm.trans hx) nofun
  · exact absurd (hunfit.symm.trans hreason) nofun

end Converter
end Resultset
