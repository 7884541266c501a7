import Resultset.Proofs.DecimalScales
import Resultset.Proofs.Overscaling
import Resultset.Proofs.Rereading

/-! # Columns declared past the largest scale

A column may be declared with more than `maxScale` digits after the point. Its numbers are read with
that many where there is room for them, and nothing else is: every other number exceeds the precision
(`get_past_maxScale`). A number that was read is brought to the scale of a caller from there.
-/

namespace Resultset
set_option autoImplicit false

/-! ## The number behind a value -/

namespace Converter

/-- The number that a decimal reading shapes. -/
def exactDecimal? : Converter → Value → Option Decimal
  | typed, v => Typed.exactDecimal? v
  | textual, v => (Decimal.readAny (Textual.trimmed v)).toOption

variable {converter : Converter} {v : Value} {stored : Decimal}

theorem readAny_of_exactDecimal? (h : textual.exactDecimal? v = some stored) :
    Decimal.readAny (Textual.trimmed v) = .ok stored := by
  rw [exactDecimal?] at h
  cases hread : Decimal.readAny (Textual.trimmed v) with
  | error e =>
    rw [hread] at h
    contradiction
  | ok d =>
    rw [hread] at h
    exact congrArg Except.ok (Option.some.inj h)

theorem ne_null_of_exactDecimal? (h : converter.exactDecimal? v = some stored) : v ≠ .null := by
  rintro rfl
  cases converter <;> exact nomatch h

theorem convert_decimal (h : converter.exactDecimal? v = some stored) (precision scale : ℕ) :
    converter.convert (.decimal precision scale) v = (stored.fit precision scale).map some := by
  have hnull := ne_null_of_exactDecimal? h
  cases converter with
  | typed =>
    have hexact : Typed.exactDecimal? v = some stored := h
    rw [typed_convert hnull, Typed.ofValue, Typed.decimal, hexact]
  | textual =>
    rw [textual_convert hnull, Textual.ofValue, Textual.decimal, readAny_of_exactDecimal? h]

theorem scale_exactDecimal? (hreadable : v.Readable) (h : converter.exactDecimal? v = some stored) :
    stored.scale ≤ maxScale := by
  cases converter with
  | typed => exact hreadable.scale_le h
  | textual => exact Decimal.scale_readAny (readAny_of_exactDecimal? h)

end Converter

/-! ## Readings -/

namespace Cursor
variable {σ : Type} {cursor : Cursor σ}

/-- The column is a decimal of the current row, declared with this precision and scale, and `stored`
is its number. -/
def HoldsNumber (cursor : Cursor σ) (column : ColumnRef) (precision scale : UInt32)
    (stored : Decimal) : Prop :=
  ∃ (index : Int32) (row : Row) (position : ℕ) (value : Value),
    cursor.resolve column = .ok index ∧ (Look.locate index).answer cursor = .ok (row, position) ∧
    cursor.schema.typeAt? position = some (.decimal precision scale) ∧
    row.get? position = some value ∧ value.Readable ∧
    cursor.converter.exactDecimal? value = some stored

variable {column : ColumnRef} {precision scale : UInt32} {stored d : Decimal}

theorem HoldsNumber.scale_le (h : cursor.HoldsNumber column precision scale stored) :
    stored.scale ≤ maxScale := by
  obtain ⟨_, _, _, _, _, _, _, _, hreadable, hexact⟩ := h
  exact Converter.scale_exactDecimal? hreadable hexact

theorem HoldsNumber.get_decimal (h : cursor.HoldsNumber column precision scale stored) :
    cursor.get column .decimal =
      ((stored.fit precision.toNat scale.toNat).map some).mapError .extraction := by
  obtain ⟨index, row, position, value, hcolumn, hlocate, htype, hvalue, -, hexact⟩ := h
  rw [get_eq, hcolumn]
  change cursor.getAt index .decimal = _
  rw [getAt_decimal, Look.decimalAt_of_declared hlocate htype, Converter.read_of_some hvalue,
    Converter.convert_decimal hexact]

theorem get_decimalOfScale_of_error {e : CursorError} (h : cursor.get column .decimal = .error e)
    (next : ℕ) : cursor.get column (.decimalOfScale next) = .error e := by
  rw [get_eq] at h ⊢
  rcases error_of_bind h with hcolumn | ⟨index, hcolumn, h⟩
  · rw [hcolumn]
    rfl
  · rw [hcolumn]
    exact decimalOfScale_of_error next h

theorem get_decimalOfScale_of_some (h : cursor.get column .decimal = .ok (some d)) (next : ℕ) :
    cursor.get column (.decimalOfScale next) = ((d.toScale next).map some).mapError .extraction := by
  rw [get_eq] at h ⊢
  obtain ⟨index, hcolumn, h⟩ := ok_of_bind h
  rw [hcolumn]
  exact decimalOfScale_of_some next h

/-- What a caller gets who asks for `next` digits of a number that was padded past the largest
scale. -/
structure ReadBack (cursor : Cursor σ) (column : ColumnRef) (stored : Decimal) {scale : ℕ}
    (hpad : stored.Paddable scale) (next : ℕ) : Prop where
  rounded : next ≤ maxScale → ∃ r : Decimal,
    cursor.get column (.decimalOfScale next) = .ok (some r) ∧ r.scale = next ∧
    (scale ≤ next + 29 → Decimal.IsRounding .toEven stored.number next r) ∧
    (next + 29 < scale → r.negative = hpad.padded.signAt r.mantissa ∧
      r.mantissa = if Decimal.halfUnit (scale - next) < hpad.padded.mantissa then 1 else 0)
  unroundable : maxScale < next → next < scale →
    cursor.get column (.decimalOfScale next) = .error (.extraction (.unroundable hpad.padded next))
  padded : scale ≤ next → ∀ hmore : stored.Paddable next,
    cursor.get column (.decimalOfScale next) = .ok (some hmore.padded)
  full : scale ≤ next → ¬ stored.Paddable next →
    cursor.get column (.decimalOfScale next) =
      .error (.extraction (.scaleOutOfRange hpad.padded next))

theorem readBack_of_padded {scale next : ℕ} {hpad : stored.Paddable scale}
    (hstored : stored.scale ≤ maxScale) (hscale : maxScale < scale)
    (h : cursor.get column .decimal = .ok (some hpad.padded)) :
    cursor.ReadBack column stored hpad next := by
  have hle : stored.scale ≤ scale := hstored.trans hscale.le
  obtain ⟨hrounded, hunroundable, hmore⟩ :=
    Decimal.toScale_of_maxScale_lt hpad.mantissa_padded_ne_zero hscale next
  have hget := get_decimalOfScale_of_some h next
  constructor
  · intro hnext
    obtain ⟨r, hr, hplaces, hnear, hfar⟩ := hrounded hnext
    rw [hpad.number_padded hle] at hnear
    rw [hr] at hget
    exact ⟨r, hget, hplaces, hnear, hfar⟩
  · intro hnext hlt
    rw [hget, hunroundable hnext hlt]
    rfl
  · intro hnext hroom
    have hagain := (hpad.paddable_padded_iff hle hnext).mpr hroom
    rw [hget, (hmore hnext).1 hagain, hpad.padded_padded hle hnext hagain hroom]
    rfl
  · intro hnext hfull
    rw [hget, (hmore hnext).2 (mt (hpad.paddable_padded_iff hle hnext).mp hfull)]
    rfl

/-- A column that is declared past the largest scale is read with all the digits that are declared
if its number has room for them, in the mantissa and within the precision. Otherwise it exceeds the
precision, whatever scale a caller asks for. -/
theorem get_past_maxScale (h : cursor.HoldsNumber column precision scale stored)
    (hscale : maxScale < scale.toNat) :
    (∀ hpad : stored.Paddable scale.toNat, hpad.padded.mantissa < 10 ^ precision.toNat →
      scale.toNat ≤ 2 * maxScale ∧ cursor.get column .decimal = .ok (some hpad.padded) ∧
        hpad.padded.number = stored.number ∧ ∀ next, cursor.ReadBack column stored hpad next) ∧
    ((∀ hpad : stored.Paddable scale.toNat, ¬ hpad.padded.mantissa < 10 ^ precision.toNat) →
      ∀ g, g = .decimal ∨ (∃ next, g = .decimalOfScale next) →
        cursor.get column g =
          .error (.extraction (.precisionExceeded stored precision.toNat scale.toNat))) := by
  have hstored := h.scale_le
  have hfit := Decimal.fit_of_maxScale_lt hstored precision.toNat hscale
  have hget := h.get_decimal
  constructor
  · intro hpad hdigits
    have hread : cursor.get column .decimal = .ok (some hpad.padded) := by
      rw [hget, hfit.1 hpad, if_pos hdigits]
      rfl
    exact ⟨hpad.scale_le hstored, hread, hpad.number_padded (hstored.trans hscale.le),
      fun _ => readBack_of_padded hstored hscale hread⟩
  · intro hexceeds
    have hfailed : stored.fit precision.toNat scale.toNat =
        .error (.precisionExceeded stored precision.toNat scale.toNat) := by
      by_cases hpad : stored.Paddable scale.toNat
      · rw [hfit.1 hpad, if_neg (hexceeds hpad)]
      · exact hfit.2 hpad
    have hread : cursor.get column .decimal =
        .error (.extraction (.precisionExceeded stored precision.toNat scale.toNat)) := by
      rw [hget, hfailed]
      rfl
    rintro g (rfl | ⟨next, rfl⟩)
    · exact hread
    · exact get_decimalOfScale_of_error hread next

end Cursor
end Resultset
