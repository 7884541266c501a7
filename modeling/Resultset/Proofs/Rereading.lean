import Resultset.Proofs.Readings
import Resultset.Proofs.Rescaling

/-! # Decimals read at another scale

A decimal reading rounds the stored number to the declared scale, a tie away from zero, and a reading
at a scale of the caller's rounds the result once more, a tie to even. `decimalAt_inv` finds the stored
number behind a result, and `reread_at_scale` says what the two roundings come to.
-/

namespace Resultset
set_option autoImplicit false

namespace Decimal

/-! ## Two roundings -/

theorem IsRounding.abs_error_le_twice {first second : Tie} {x : ℚ} {scale next : ℕ} {d r : Decimal}
    (hd : IsRounding first x scale d) (hr : IsRounding second d.number next r) :
    |r.number - x| ≤ (1 / 10 ^ next + 1 / 10 ^ scale) / 2 := by
  have hsum : |r.number - x| ≤ |r.number - d.number| + |d.number - x| :=
    abs_sub_le r.number d.number x
  have hfirst := hd.abs_error_le
  have hsecond := hr.abs_error_le
  linarith

theorem toScale_cases {d : Decimal} (hd : d.scale ≤ maxScale) {scale : ℕ}
    (hscale : scale ≤ maxScale) :
    (d.scale < scale ∧ maxMantissa < d.mantissa * 10 ^ (scale - d.scale) →
      d.toScale scale = .error (.scaleOutOfRange d scale)) ∧
    (¬ (d.scale < scale ∧ maxMantissa < d.mantissa * 10 ^ (scale - d.scale)) →
      ∃ r, d.toScale scale = .ok r) := by
  rcases Nat.lt_or_ge scale d.scale with hlt | hle
  · exact ⟨fun h => absurd h.1 hlt.asymm, fun _ =>
      ⟨_, (toScale_ok_iff hd).mpr (quantize?_eq_round .toEven hlt)⟩⟩
  · have hexact : Tie.toEven.Rounds (d.magnitude * 10 ^ scale)
        (d.mantissa * 10 ^ (scale - d.scale) : ℕ) := by
      rw [magnitude_of_scale_le hle]
      exact .refl _ _
    have hresult := toScale_of_rounds hd hscale hexact
    refine ⟨fun h => ?_, fun h => ?_⟩
    · rw [hresult, dif_neg (Nat.not_le_of_lt h.2)]
    · -- there is room unless zeros are appended, as the mantissa itself fits
      have hfits : d.mantissa * 10 ^ (scale - d.scale) ≤ maxMantissa := by
        by_contra hmore
        have heq : d.scale = scale := by
          by_contra hne
          exact h ⟨Nat.lt_of_le_of_ne hle hne, Nat.lt_of_not_le hmore⟩
        rw [heq, Nat.sub_self, Nat.pow_zero, Nat.mul_one] at hmore
        exact hmore d.mantissa_le
      exact ⟨_, hresult.trans (dif_pos hfits)⟩

end Decimal

/-! ## Readings -/

namespace Cursor
variable {σ : Type} {cursor : Cursor σ} {index : Int32}

theorem declaredDecimal_inv {position : ℕ} {precision scale : UInt32}
    (h : (Look.declaredDecimal position).answer cursor = .ok (precision, scale)) :
    cursor.schema.typeAt? position = some (.decimal precision scale) := by
  rw [Look.answer_declaredDecimal] at h
  split at h
  · next type htype =>
    split at h
    · next shape hshape =>
      rw [Except.ok.inj h] at hshape
      cases type with
      | decimal p s =>
        rw [ColumnType.decimalShape?, Option.some.injEq, Prod.mk.injEq] at hshape
        rw [htype, hshape.1, hshape.2]
      | _ => cases hshape
    · contradiction
  · contradiction

theorem typedDecimal_inv {precision scale : ℕ} {value : Value} {d : Decimal}
    (h : Typed.decimal precision scale value = .ok (some d)) :
    ∃ stored, Typed.exactDecimal? value = some stored ∧ stored.fit precision scale = .ok d := by
  rw [Typed.decimal] at h
  cases hstored : Typed.exactDecimal? value with
  | none => simp only [hstored, reduceCtorEq] at h
  | some stored =>
    refine ⟨stored, rfl, ?_⟩
    simp only [hstored] at h
    cases hfit : stored.fit precision scale with
    | error e => simp only [hfit, Except.map, reduceCtorEq] at h
    | ok r =>
      simp only [hfit, Except.map, Except.ok.injEq, Option.some.injEq] at h
      exact congrArg Except.ok h

/-- Behind a decimal stands a number of the current row that fits the declared type. -/
theorem decimalAt_inv (htyped : cursor.converter = .typed) {d : Decimal}
    (h : cursor.getAt index .decimal = .ok (some d)) :
    ∃ (row : Row) (value : Value) (precision scale : UInt32) (stored : Decimal),
      cursor.current = some row ∧ row.get? (index.toInt.toNat - 1) = some value ∧
      cursor.schema.typeAt? (index.toInt.toNat - 1) = some (.decimal precision scale) ∧
      Typed.exactDecimal? value = some stored ∧
      stored.fit precision.toNat scale.toNat = .ok d := by
  rw [getAt_decimal, Look.answer_decimalAt] at h
  obtain ⟨⟨row, position⟩, hlocate, h⟩ := ok_of_bind h
  obtain ⟨⟨precision, scale⟩, hdeclared, h⟩ := ok_of_bind h
  obtain ⟨hcurrent, -, hindex⟩ := Look.locate_inv hlocate
  obtain rfl : position = index.toInt.toNat - 1 := by omega
  have hread := ok_of_mapError h
  rw [htyped] at hread
  cases hvalue : row.get? (index.toInt.toNat - 1) with
  | none => simp only [Converter.read, hvalue, reduceCtorEq] at hread
  | some value =>
    rw [Converter.read_of_some hvalue] at hread
    by_cases hnull : value = .null
    · rw [hnull, Converter.convert_null] at hread
      have hnone : none = some d := Except.ok.inj hread
      contradiction
    · rw [Converter.typed_convert hnull] at hread
      obtain ⟨stored, hstored, hfit⟩ := typedDecimal_inv hread
      exact ⟨row, value, precision, scale, stored, hcurrent, hvalue, declaredDecimal_inv hdeclared,
        hstored, hfit⟩

theorem decimalOfScale_of_error {e : CursorError} (scale : ℕ)
    (h : cursor.getAt index .decimal = .error e) :
    cursor.getAt index (.decimalOfScale scale) = .error e := by
  rw [getAt_decimal] at h
  rw [getAt_decimalOfScale, Look.answer_decimalOfScaleAt, h]
  rfl

theorem decimalOfScale_of_none (scale : ℕ) (h : cursor.getAt index .decimal = .ok none) :
    cursor.getAt index (.decimalOfScale scale) = .ok none := by
  rw [getAt_decimal] at h
  rw [getAt_decimalOfScale, Look.answer_decimalOfScaleAt, h]
  rfl

theorem decimalOfScale_of_some {d : Decimal} (scale : ℕ)
    (h : cursor.getAt index .decimal = .ok (some d)) :
    cursor.getAt index (.decimalOfScale scale) =
      ((d.toScale scale).map some).mapError .extraction := by
  rw [getAt_decimal] at h
  rw [getAt_decimalOfScale, Look.answer_decimalOfScaleAt, h]
  rfl

theorem decimalOfScale_eq_none_iff (scale : ℕ) :
    cursor.getAt index (.decimalOfScale scale) = .ok none ↔
      cursor.getAt index .decimal = .ok none := by
  cases h : cursor.getAt index .decimal with
  | error e =>
    rw [decimalOfScale_of_error scale h]
  | ok found =>
    cases found with
    | none =>
      rw [decimalOfScale_of_none scale h]
    | some d =>
      rw [decimalOfScale_of_some scale h]
      cases d.toScale scale <;> exact ⟨nofun, nofun⟩

/-- Through the typed converter, a decimal column read at a scale of the caller's fails and is NULL
as its reading at the declared scale. Otherwise only the room of the mantissa can be in the way of more
digits, and the result has the scale asked for. More digits keep the number, the error to the stored
number is at most half a unit of either scale, and a stored number with no more digits than are declared
is rounded half to even as if it were read as it is. -/
theorem reread_at_scale (htyped : cursor.converter = .typed)
    (hrow : ∀ row, cursor.current = some row → ∀ v ∈ row.values, v.Readable) {column : ColumnRef}
    (hcolumn : cursor.resolve column = .ok index) {precision scale : UInt32}
    (hdeclared : cursor.schema.typeAt? (index.toInt.toNat - 1) = some (.decimal precision scale))
    (hscale : scale.toNat ≤ maxScale) {next : ℕ} (hnext : next ≤ maxScale) :
    (∀ e, cursor.get column .decimal = .error e →
      cursor.get column (.decimalOfScale next) = .error e) ∧
    (cursor.get column (.decimalOfScale next) = .ok none ↔ cursor.get column .decimal = .ok none) ∧
    ∀ d, cursor.get column .decimal = .ok (some d) →
      (scale.toNat < next ∧ maxMantissa < d.mantissa * 10 ^ (next - scale.toNat) →
        cursor.get column (.decimalOfScale next) =
          .error (.extraction (.scaleOutOfRange d next))) ∧
      (¬ (scale.toNat < next ∧ maxMantissa < d.mantissa * 10 ^ (next - scale.toNat)) →
        ∃ (row : Row) (value : Value) (stored r : Decimal),
          cursor.current = some row ∧ row.get? (index.toInt.toNat - 1) = some value ∧
          Typed.exactDecimal? value = some stored ∧
          cursor.get column (.decimalOfScale next) = .ok (some r) ∧ r.scale = next ∧
          (scale.toNat ≤ next → r.number = d.number) ∧
          |r.number - stored.number| ≤ (1 / 10 ^ next + 1 / 10 ^ scale.toNat) / 2 ∧
          ((∃ n : ℤ, stored.number * 10 ^ scale.toNat = n) →
            Decimal.IsRounding .toEven stored.number next r)) := by
  have hget : ∀ g, cursor.get column g = cursor.getAt index g := by
    intro g
    rw [get_eq, hcolumn]
    rfl
  simp only [hget]
  refine ⟨fun e => decimalOfScale_of_error next, decimalOfScale_eq_none_iff next, ?_⟩
  intro d hd
  obtain ⟨row, value, p, s, stored, hcurrent, hvalue, htype, hstored, hfit⟩ :=
    decimalAt_inv htyped hd
  rw [hdeclared, Option.some.injEq, ColumnType.decimal.injEq] at htype
  obtain ⟨rfl, rfl⟩ := htype
  have hreadable : stored.scale ≤ maxScale :=
    (hrow row hcurrent value (List.mem_of_getElem? hvalue)).scale_le hstored
  have hfitted := Decimal.isRounding_of_fit hreadable hscale hfit
  have hdscale : d.scale ≤ maxScale := hfitted.scale_eq.trans_le hscale
  have hcases := Decimal.toScale_cases hdscale hnext
  rw [hfitted.scale_eq] at hcases
  rw [decimalOfScale_of_some next hd]
  refine ⟨fun hover => ?_, fun hroom => ?_⟩
  · rw [hcases.1 hover]
    rfl
  · obtain ⟨r, hr⟩ := hcases.2 hroom
    have hrounded := Decimal.isRounding_of_toScale hdscale hnext hr
    refine ⟨row, value, stored, r, hcurrent, hvalue, hstored, ?_, hrounded.scale_eq, ?_,
      hfitted.abs_error_le_twice hrounded, ?_⟩
    · rw [hr]
      rfl
    · intro hle
      exact Decimal.number_of_toScale (hfitted.scale_eq.trans_le hle) hnext hr
    · rintro ⟨n, hn⟩
      have habs : |stored.number| * 10 ^ scale.toNat = (n.natAbs : ℕ) := by
        have hpow : (0 : ℚ) ≤ 10 ^ scale.toNat := by positivity
        rw [← abs_of_nonneg hpow, ← abs_mul, hn, Nat.cast_natAbs, Int.cast_abs]
      rw [hfitted.number_eq_self habs] at hrounded
      exact hrounded

/-- A cursor on a row with one column, a decimal. -/
def onDecimal (stored : Decimal) (precision scale : UInt32) : Cursor Unit where
  stream := ()
  converter := .typed
  config := .default
  schema := ⟨[⟨"price", .decimal precision scale⟩]⟩
  position := .onRow
  current := some ⟨[.decimal stored]⟩
  nullRow := false
  closed := false
  log := []

/-- `2.3745` is read as `2.375` and from there as `2.38`, which is as far away as it can be. -/
theorem reread_at_scale_twice_up :
    ((onDecimal ⟨false, 23745, 4, by decide⟩ 10 3).converter = .typed ∧
      (∀ row, (onDecimal ⟨false, 23745, 4, by decide⟩ 10 3).current = some row →
        ∀ v ∈ row.values, v.Readable) ∧
      (onDecimal ⟨false, 23745, 4, by decide⟩ 10 3).resolve (.index 1) = .ok 1 ∧
      (onDecimal ⟨false, 23745, 4, by decide⟩ 10 3).schema.typeAt? 0 = some (.decimal 10 3) ∧
      (3 : UInt32).toNat ≤ maxScale ∧ 2 ≤ maxScale) ∧
    ∃ r, (onDecimal ⟨false, 23745, 4, by decide⟩ 10 3).get (.index 1) (.decimalOfScale 2) =
        .ok (some r) ∧ r.scale = 2 ∧ |r.number - 23745 / 10000| ≤ (1 / 10 ^ 2 + 1 / 10 ^ 3) / 2 := by
  have hrow : ∀ row, (onDecimal ⟨false, 23745, 4, by decide⟩ 10 3).current = some row →
      ∀ v ∈ row.values, v.Readable := by
    intro row hcurrent v hv d hd
    obtain rfl := Option.some.inj hcurrent
    rw [List.mem_singleton.mp hv, Value.decimal.injEq] at hd
    subst hd
    decide
  have hcolumn : (onDecimal ⟨false, 23745, 4, by decide⟩ 10 3).resolve (.index 1) = .ok 1 := rfl
  have hdeclared : (onDecimal ⟨false, 23745, 4, by decide⟩ 10 3).schema.typeAt?
      ((1 : Int32).toInt.toNat - 1) = some (.decimal 10 3) := rfl
  have hscale : (3 : UInt32).toNat ≤ maxScale := by decide
  have hnext : 2 ≤ maxScale := by decide
  refine ⟨⟨rfl, hrow, hcolumn, hdeclared, hscale, hnext⟩, ?_⟩
  obtain ⟨row, value, stored, r, hcurrent, hvalue, hstored, hread, hscaled, _, herror, _⟩ :=
    ((reread_at_scale rfl hrow hcolumn hdeclared hscale hnext).2.2
      ⟨false, 2375, 3, by decide⟩ rfl).2 (by decide)
  obtain rfl := Option.some.inj hcurrent
  obtain rfl := Option.some.inj hvalue
  obtain rfl := Option.some.inj hstored
  refine ⟨r, hread, hscaled, ?_⟩
  have hnumber : Decimal.number ⟨false, 23745, 4, by decide⟩ = 23745 / 10000 := by
    norm_num [Decimal.number, Decimal.coefficient]
  rw [hnumber] at herror
  exact herror

end Cursor
end Resultset
