import Resultset.Proofs.Looks

/-! # Readings by index

A reading that needs the row first finds its place: `locate` makes the checks in a fixed order, with
one equation for each of them that fails and one for passing them all. What a failed check says is
the answer of every such reading (`getAt_of_locate_error`).

Read backwards, an error of the checks comes with what they found (`Refused`), and an error of any
reading with where it comes from (`Failed`). Past the checks there is a value, so no reading ends for
the lack of one (`get_ne_noValue`).
-/

namespace Resultset
set_option autoImplicit false

/-! ## Results -/

section
variable {ε δ α β : Type}

theorem ok_of_bind {x : Except ε α} {f : α → Except ε β} {b : β} (h : (x >>= f) = .ok b) :
    ∃ a, x = .ok a ∧ f a = .ok b := by
  cases x with
  | error e => exact absurd h nofun
  | ok a => exact ⟨a, rfl, h⟩

theorem ok_of_mapError {x : Except ε α} {f : ε → δ} {a : α} (h : x.mapError f = .ok a) :
    x = .ok a := by
  cases x with
  | error e => exact absurd h nofun
  | ok b => exact congrArg Except.ok (Except.ok.inj h)

theorem error_of_bind {x : Except ε α} {f : α → Except ε β} {e : ε} (h : (x >>= f) = .error e) :
    x = .error e ∨ ∃ a, x = .ok a ∧ f a = .error e := by
  cases x with
  | error other => exact .inl (congrArg Except.error (Except.error.inj h))
  | ok a => exact .inr ⟨a, rfl, h⟩

theorem error_of_map {x : Except ε α} {f : α → β} {e : ε} (h : x.map f = .error e) :
    x = .error e := by
  cases x with
  | error other => exact congrArg Except.error (Except.error.inj h)
  | ok a => exact absurd h nofun

theorem error_of_mapError {x : Except ε α} {f : ε → δ} {d : δ} (h : x.mapError f = .error d) :
    ∃ e, x = .error e ∧ f e = d := by
  cases x with
  | error e => exact ⟨e, rfl, Except.error.inj h⟩
  | ok a => exact absurd h nofun

end

/-! ## Values that are there -/

theorem Decimal.fit_ne_noValue (d : Decimal) (precision scale position : Nat) :
    d.fit precision scale ≠ .error (.noValue position) := by
  rw [fit]
  split
  · split <;> exact nofun
  · exact nofun

theorem Decimal.toScale_ne_noValue (d : Decimal) (scale position : Nat) :
    d.toScale scale ≠ .error (.noValue position) := by
  rw [toScale]
  split
  · split <;> exact nofun
  · exact nofun

theorem Typed.ofValue_ne_noValue (t : Target) (v : Value) (position : Nat) :
    ofValue t v ≠ .error (.noValue position) := by
  cases t with
  | scalar s =>
    cases s with
    | integer w =>
      rw [ofValue, integer]
      split
      · exact nofun
      · split <;> exact nofun
    | _ => cases v <;> exact nofun
  | decimal precision scale =>
    rw [ofValue, decimal]
    split
    · exact fun h => Decimal.fit_ne_noValue _ _ _ _ (error_of_map h)
    · exact nofun

theorem Textual.ofValue_ne_noValue (t : Target) (v : Value) (position : Nat) :
    ofValue t v ≠ .error (.noValue position) := by
  cases t with
  | scalar s =>
    cases s with
    | string => exact nofun
    | boolean =>
      simp only [ofValue, boolean]
      split
      · exact nofun
      · split <;> exact nofun
    | integer w =>
      rw [ofValue, integer]
      cases Integer.readNumber w (trimmed v) <;> exact nofun
    | float =>
      rw [ofValue, float]
      cases Floating.readSingle (trimmed v) <;> exact nofun
    | double =>
      rw [ofValue, double]
      cases Floating.readDouble (trimmed v) <;> exact nofun
    | binary => exact nofun
  | decimal precision scale =>
    rw [ofValue, decimal]
    split
    · exact fun h => Decimal.fit_ne_noValue _ _ _ _ (error_of_map h)
    · exact nofun

/-- Within the row every converter has a value to look at. -/
theorem Converter.read_ne_noValue (converter : Converter) (t : Target) {row : Row} {position : Nat}
    (hposition : position < row.arity) (missing : Nat) :
    converter.read t row position ≠ .error (.noValue missing) := by
  have hsome : row.get? position ≠ none := fun hnone =>
    Nat.not_le_of_lt hposition ((row.get?_eq_none_iff position).mp hnone)
  obtain ⟨v, hvalue⟩ := Option.ne_none_iff_exists'.mp hsome
  rw [read_of_some hvalue]
  by_cases hnull : v = .null
  · simp [hnull, convert_null]
  · cases converter with
    | typed =>
      rw [typed_convert hnull]
      exact Typed.ofValue_ne_noValue t v missing
    | textual =>
      rw [textual_convert hnull]
      exact Textual.ofValue_ne_noValue t v missing

/-- The error of a check that fails, with what the check found. -/
inductive Cursor.Refused {σ : Type} (cursor : Cursor σ) (index : Int32) : CursorError → Prop
  | closed (hclosed : cursor.closed = true) : Refused cursor index .closed
  | unpositioned (hrow : cursor.position = .onRow → cursor.current = none) :
      Refused cursor index (.noCurrentRow .notPositioned)
  | empty {row : Row} (hcurrent : cursor.current = some row) (hempty : row.arity = 0) :
      Refused cursor index (.noCurrentRow .emptyRow)
  | nonPositive (hindex : index.toInt ≤ 0) : Refused cursor index (.nonPositiveIndex index)
  | past {row : Row} (hcurrent : cursor.current = some row) (hindex : row.arity < index.toInt) :
      Refused cursor index (.indexOutOfBounds index row.arity)

/-- The error of a reading that fails, with where it comes from. -/
inductive Cursor.Failed {σ : Type} (cursor : Cursor σ) (index : Int32) : CursorError → Prop
  | refused {e : CursorError} (h : Refused cursor index e) : Failed cursor index e
  | undeclared (declared : Option ColumnType) : Failed cursor index (.notDecimal declared)
  | unread {row : Row} {position : Nat} {t : Target} {cause : ExtractionError}
      (hposition : position < row.arity)
      (hread : cursor.converter.read t row position = .error cause) :
      Failed cursor index (.extraction cause)
  | unscaled {d : Decimal} {scale : Nat} {cause : ExtractionError}
      (hscale : d.toScale scale = .error cause) : Failed cursor index (.extraction cause)
  | declined (kind : DeclinedReading) : Failed cursor index (.declined (.reading kind))

namespace Look
variable {σ : Type} {cursor : Cursor σ} {index : Int32}

/-! ## The checks in their order -/

theorem validRow_of_some {row : Row} (hon : cursor.position = .onRow)
    (hcurrent : cursor.current = some row) :
    validRow.answer cursor =
      if row.arity = 0 then .error (.noCurrentRow .emptyRow) else .ok row := by
  rw [answer_validRow, hon, hcurrent]

theorem validRow_of_none (h : cursor.position = .onRow → cursor.current = none) :
    validRow.answer cursor = .error (.noCurrentRow .notPositioned) := by
  rw [answer_validRow]
  split
  · next hon hcurrent => exact absurd ((h hon).symm.trans hcurrent) nofun
  · rfl

theorem locate_of_open (hopen : cursor.closed = false) (index : Int32) :
    (locate index).answer cursor = (do
      let row ← validRow.answer cursor
      let position ← (validPosition row index).answer cursor
      return (row, position)) := by
  rw [answer_locate, checkOpen_of_open hopen]
  rfl

theorem locate_of_unpositioned (hopen : cursor.closed = false)
    (hrow : cursor.position = .onRow → cursor.current = none) :
    (locate index).answer cursor = .error (.noCurrentRow .notPositioned) := by
  rw [locate_of_open hopen, validRow_of_none hrow]
  rfl

section
variable {row : Row} (hopen : cursor.closed = false) (hon : cursor.position = .onRow)
  (hcurrent : cursor.current = some row)
include hopen hon hcurrent

theorem locate_of_empty (hempty : row.arity = 0) :
    (locate index).answer cursor = .error (.noCurrentRow .emptyRow) := by
  rw [locate_of_open hopen, validRow_of_some hon hcurrent, if_pos hempty]
  rfl

theorem locate_of_nonempty (hvalues : row.arity ≠ 0) :
    (locate index).answer cursor =
      ((validPosition row index).answer cursor).map (Prod.mk row) := by
  rw [locate_of_open hopen, validRow_of_some hon hcurrent, if_neg hvalues]
  rfl

theorem locate_of_nonPositive (hvalues : row.arity ≠ 0) (hindex : index.toInt ≤ 0) :
    (locate index).answer cursor = .error (.nonPositiveIndex index) := by
  rw [locate_of_nonempty hopen hon hcurrent hvalues, answer_validPosition, if_pos hindex]
  rfl

theorem locate_of_past (hvalues : row.arity ≠ 0) (hindex : row.arity < index.toInt) :
    (locate index).answer cursor = .error (.indexOutOfBounds index row.arity) := by
  rw [locate_of_nonempty hopen hon hcurrent hvalues, answer_validPosition, if_neg (by omega),
    if_pos (by omega)]
  rfl

theorem locate_of_within {position : Nat} (hposition : position < row.arity)
    (hindex : index.toInt = position + 1) :
    (locate index).answer cursor = .ok (row, position) := by
  have hplace : index.toInt.toNat - 1 = position := by omega
  rw [locate_of_nonempty hopen hon hcurrent (by omega), answer_validPosition, if_neg (by omega),
    if_neg (by omega), hplace]
  rfl

end

/-! ## What the checks found -/

theorem validRow_inv {row : Row} (h : validRow.answer cursor = .ok row) :
    cursor.current = some row := by
  rw [answer_validRow] at h
  split at h
  · next hcurrent =>
    split at h
    · contradiction
    · rw [hcurrent, Except.ok.inj h]
  · contradiction

theorem validRow_refused {e : CursorError} (h : validRow.answer cursor = .error e) :
    cursor.Refused index e := by
  cases hcurrent : cursor.current with
  | none =>
    rw [validRow_of_none fun _ => hcurrent] at h
    obtain rfl := Except.error.inj h
    exact .unpositioned fun _ => hcurrent
  | some row =>
    by_cases hon : cursor.position = .onRow
    · rw [validRow_of_some hon hcurrent] at h
      split at h
      · next hempty =>
        obtain rfl := Except.error.inj h
        exact .empty hcurrent hempty
      · contradiction
    · rw [validRow_of_none fun hrow => absurd hrow hon] at h
      obtain rfl := Except.error.inj h
      exact .unpositioned fun hrow => absurd hrow hon

theorem validPosition_inv {row : Row} {position : Nat}
    (h : (validPosition row index).answer cursor = .ok position) :
    position < row.arity ∧ index.toInt = position + 1 := by
  rw [answer_validPosition] at h
  split at h
  · contradiction
  · split at h
    · contradiction
    · have hposition := Except.ok.inj h
      omega

theorem validPosition_refused {row : Row} (hcurrent : cursor.current = some row) {e : CursorError}
    (h : (validPosition row index).answer cursor = .error e) : cursor.Refused index e := by
  rw [answer_validPosition] at h
  split at h
  · next hindex =>
    obtain rfl := Except.error.inj h
    exact .nonPositive hindex
  · split at h
    · obtain rfl := Except.error.inj h
      exact .past hcurrent (by omega)
    · contradiction

theorem locate_inv {row : Row} {position : Nat}
    (h : (locate index).answer cursor = .ok (row, position)) :
    cursor.current = some row ∧ position < row.arity ∧ index.toInt = position + 1 := by
  rw [answer_locate] at h
  obtain ⟨_, -, h⟩ := ok_of_bind h
  obtain ⟨valid, hvalid, h⟩ := ok_of_bind h
  obtain ⟨place, hplace, h⟩ := ok_of_bind h
  obtain ⟨rfl, rfl⟩ := Prod.mk.inj (Except.ok.inj h)
  exact ⟨validRow_inv hvalid, validPosition_inv hplace⟩

theorem locate_refused {e : CursorError} (h : (locate index).answer cursor = .error e) :
    cursor.Refused index e := by
  cases hclosed : cursor.closed with
  | true =>
    obtain rfl := Except.error.inj ((locate_of_closed hclosed index).symm.trans h)
    exact .closed hclosed
  | false =>
    rw [locate_of_open hclosed] at h
    rcases error_of_bind h with hrow | ⟨row, hrow, h⟩
    · exact validRow_refused hrow
    · rcases error_of_bind h with hplace | ⟨position, -, h⟩
      · exact validPosition_refused (validRow_inv hrow) hplace
      · contradiction

/-! ## After the checks -/

theorem decimalAt_of_locate_error {e : CursorError}
    (h : (locate index).answer cursor = .error e) :
    (decimalAt index).answer cursor = .error e := by
  rw [answer_decimalAt, h]
  rfl

section
variable {row : Row} {position : Nat}
  (hlocate : (locate index).answer cursor = .ok (row, position))
include hlocate

theorem scalarAt_of_locate (s : Scalar) :
    (scalarAt s index).answer cursor =
      (cursor.converter.read (.scalar s) row position).mapError .extraction := by
  rw [answer_scalarAt, hlocate]
  rfl

theorem decimalAt_of_declared {precision scale : UInt32}
    (htype : cursor.schema.typeAt? position = some (.decimal precision scale)) :
    (decimalAt index).answer cursor =
      (cursor.converter.read (.decimal precision.toNat scale.toNat) row position).mapError
        .extraction := by
  have hdeclared : (declaredDecimal position).answer cursor = .ok (precision, scale) := by
    rw [answer_declaredDecimal, htype]
    rfl
  rw [answer_decimalAt, hlocate]
  change ((declaredDecimal position).answer cursor >>= _) = _
  rw [hdeclared]
  rfl

theorem decimalAt_of_undeclared
    (htype : ∀ precision scale, cursor.schema.typeAt? position ≠ some (.decimal precision scale)) :
    (decimalAt index).answer cursor = .error (.notDecimal (cursor.schema.typeAt? position)) := by
  have hdeclared : (declaredDecimal position).answer cursor =
      .error (.notDecimal (cursor.schema.typeAt? position)) := by
    rw [answer_declaredDecimal]
    cases hcase : cursor.schema.typeAt? position with
    | none => rfl
    | some type =>
      cases type with
      | decimal precision scale => exact absurd hcase (htype precision scale)
      | _ => rfl
  rw [answer_decimalAt, hlocate]
  change ((declaredDecimal position).answer cursor >>= _) = _
  rw [hdeclared]
  rfl

end

/-! ## What a reading fails with -/

theorem read_failed {row : Row} {position : Nat}
    (hlocate : (locate index).answer cursor = .ok (row, position)) {t : Target} {e : CursorError}
    (h : (cursor.converter.read t row position).mapError .extraction = .error e) :
    cursor.Failed index e := by
  obtain ⟨cause, hread, rfl⟩ := error_of_mapError h
  exact .unread (locate_inv hlocate).2.1 hread

theorem declaredDecimal_failed {position : Nat} {e : CursorError}
    (h : (declaredDecimal position).answer cursor = .error e) : cursor.Failed index e := by
  rw [answer_declaredDecimal] at h
  split at h
  · split at h
    · contradiction
    · exact Except.error.inj h ▸ .undeclared _
  · exact Except.error.inj h ▸ .undeclared none

theorem decimalAt_failed {e : CursorError} (h : (decimalAt index).answer cursor = .error e) :
    cursor.Failed index e := by
  rw [answer_decimalAt] at h
  rcases error_of_bind h with hlocate | ⟨located, hlocate, h⟩
  · exact .refused (locate_refused hlocate)
  · rcases error_of_bind h with hdeclared | ⟨shape, -, h⟩
    · exact declaredDecimal_failed hdeclared
    · exact read_failed hlocate h

end Look

namespace Cursor
variable {σ : Type} {cursor : Cursor σ} {index : Int32}

theorem getAt_scalar (s : Scalar) :
    cursor.getAt index (.scalar s) = (Look.scalarAt s index).answer cursor :=
  cursor.getAt_eq_reach index (.scalar s)

theorem getAt_decimal : cursor.getAt index .decimal = (Look.decimalAt index).answer cursor :=
  cursor.getAt_eq_reach index .decimal

theorem getAt_decimalOfScale (scale : Nat) :
    cursor.getAt index (.decimalOfScale scale) =
      (Look.decimalOfScaleAt scale index).answer cursor :=
  cursor.getAt_eq_reach index (.decimalOfScale scale)

theorem getAt_of_locate_error {e : CursorError}
    (h : (Look.locate index).answer cursor = .error e) {g : Getter} (hwaits : g.waits = true) :
    cursor.getAt index g = .error e := by
  cases g with
  | scalar s =>
    rw [getAt_scalar, Look.answer_scalarAt, h]
    rfl
  | decimal => rw [getAt_decimal, Look.decimalAt_of_locate_error h]
  | decimalOfScale scale =>
    rw [getAt_decimalOfScale, Look.answer_decimalOfScaleAt, Look.decimalAt_of_locate_error h]
    rfl
  | declined kind => exact absurd hwaits Bool.false_ne_true

theorem getAt_failed {g : Getter} {e : CursorError} (h : cursor.getAt index g = .error e) :
    Failed cursor index e := by
  cases g with
  | scalar s =>
    rw [getAt_scalar, Look.answer_scalarAt] at h
    rcases error_of_bind h with hlocate | ⟨located, hlocate, h⟩
    · exact .refused (Look.locate_refused hlocate)
    · exact Look.read_failed hlocate h
  | decimal => exact Look.decimalAt_failed (getAt_decimal.symm.trans h)
  | decimalOfScale scale =>
    rw [getAt_decimalOfScale, Look.answer_decimalOfScaleAt] at h
    rcases error_of_bind h with hdecimal | ⟨found, -, h⟩
    · exact Look.decimalAt_failed hdecimal
    · cases found with
      | none => contradiction
      | some d =>
        obtain ⟨cause, hscale, rfl⟩ := error_of_mapError h
        exact .unscaled (error_of_map hscale)
  | declined kind =>
    cases hclosed : cursor.closed with
    | true =>
      rw [getAt_of_closed hclosed] at h
      exact Except.error.inj h ▸ .refused (.closed hclosed)
    | false =>
      rw [getAt_declined_of_open hclosed] at h
      exact Except.error.inj h ▸ .declined kind

/-- A reading fails for its column's name, or at the number of its column. -/
theorem get_failed {column : ColumnRef} {g : Getter} {e : CursorError}
    (h : cursor.get column g = .error e) :
    (∃ name, e = .unknownColumn name) ∨ ∃ index, Failed cursor index e := by
  rw [get_eq] at h
  rcases error_of_bind h with hcolumn | ⟨index, -, h⟩
  · cases column with
    | index i => contradiction
    | name n => exact .inl ⟨n, ordinal_failed hcolumn⟩
  · exact .inr ⟨index, getAt_failed h⟩

theorem get_ne_noValue (column : ColumnRef) (g : Getter) (missing : Nat) :
    cursor.get column g ≠ .error (.extraction (.noValue missing)) := by
  intro h
  obtain ⟨name, hname⟩ | ⟨index, hfailed⟩ := get_failed h
  · contradiction
  · cases hfailed with
    | refused hrefused => cases hrefused
    | unread hposition hread => exact Converter.read_ne_noValue _ _ hposition _ hread
    | unscaled hscale => exact Decimal.toScale_ne_noValue _ _ _ hscale

end Cursor
end Resultset
