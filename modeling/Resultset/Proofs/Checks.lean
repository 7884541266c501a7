import Resultset.Proofs.Delivery
import Resultset.Proofs.Readings

/-! # What the checks of a reading find

After a run the first check looks for a step that closed the cursor, the second for the entry that
was delivered last (`Delivery`), and the others for the values of that row and its declared types.
`checked_in_order` has one clause for each check that fails and those for a reading that passes them
all.
-/

namespace Resultset
set_option autoImplicit false

theorem CursorError.message?_notDecimal (declared : Option ColumnType) :
    (notDecimal declared).message? =
      some ("Invalid data type, expect DECIMAL but was " ++
        (declared.map ColumnType.text).getD "undeclared") := by
  cases declared <;> rfl

theorem exists_nthEntry {entries : List Entry} {k : Nat} (hpos : k ≠ 0) (hle : k ≤ entries.length) :
    ∃ entry, nthEntry entries k = some entry := by
  obtain ⟨last, rfl⟩ := Nat.exists_eq_succ_of_ne_zero hpos
  exact ⟨_, List.getElem?_eq_getElem hle⟩

namespace Cursor
variable {entries : List Entry} {k : Nat} {c : Cursor (Faulty RowQueue)}

/-! ## The row of the latest delivery -/

theorem Delivery.onRow_iff (h : Delivery entries k c) :
    c.position = .onRow ↔ c.position ≠ .afterLast ∧ k ≠ 0 := by
  by_cases hlast : c.position = .afterLast
  · simp [hlast]
  · rw [h.position_eq hlast]
    split <;> simp [*]

theorem Delivery.unpositioned (h : Delivery entries k c)
    (hrow : c.position = .afterLast ∨ k = 0 ∨ nthEntry entries k = some none) :
    c.position = .onRow → c.current = none := by
  intro hon
  obtain ⟨hmore, hsome⟩ := h.onRow_iff.mp hon
  rcases hrow with hlast | hnone | hnull
  · exact absurd hlast hmore
  · exact absurd hnone hsome
  · rw [h.current_eq, hnull]
    exact ite_self none

theorem Delivery.positioned (h : Delivery entries k c) (hopen : c.closed = false)
    (hrow : ¬ (c.position = .afterLast ∨ k = 0 ∨ nthEntry entries k = some none)) :
    ∃ row, nthEntry entries k = some (some row) ∧ c.position = .onRow ∧ c.current = some row := by
  obtain ⟨hmore, hsome, hnull⟩ : c.position ≠ .afterLast ∧ k ≠ 0 ∧
      nthEntry entries k ≠ some none := by simpa [not_or] using hrow
  have hon : c.position = .onRow := h.onRow_iff.mpr ⟨hmore, hsome⟩
  obtain ⟨entry, hentry⟩ := exists_nthEntry hsome h.count_le
  cases entry with
  | none => exact absurd hentry hnull
  | some row =>
    refine ⟨row, hentry, hon, ?_⟩
    rw [h.current_eq, if_pos ⟨hopen, hon⟩, hentry]
    rfl

/-! ## Readings after a run -/

/-- The answer of a reading by index after any run under any fault script is that of the first check
that fails: the cursor is closed; no row was delivered, or the last entry was a null row, or there
are no more; the row has no values; the index is not in the row; for a decimal, the column is not
declared as one. Past them it is what the converter makes of the value, and no reading by index or
by name misses one. -/
theorem checked_in_order (schema : Schema) (entries : List Entry) (script : List Fault)
    (converter : Converter) (config : Config) (steps : List Step) (index : Int32) :
    let started := start (Faulty.of (RowQueue.of schema entries) script) converter config
    let cursor := started.after steps
    let k := (started.advances steps).countP isDelivery
    let unpositioned := .ok false ∈ started.advances steps ∨ k = 0 ∨
      nthEntry entries k = some none
    let refused := fun e : CursorError => ∀ g : Getter, g.waits = true →
      cursor.getAt index g = .error e
    (steps.any Step.closes = true → refused .closed) ∧
      (steps.any Step.closes = false →
        (unpositioned → refused (.noCurrentRow .notPositioned)) ∧
          (¬ unpositioned → ∃ row, nthEntry entries k = some (some row) ∧
            (row.arity = 0 → refused (.noCurrentRow .emptyRow)) ∧
            (row.arity ≠ 0 → index.toInt ≤ 0 → refused (.nonPositiveIndex index)) ∧
            (row.arity ≠ 0 → row.arity < index.toInt →
              refused (.indexOutOfBounds index row.arity)) ∧
            ∀ position < row.arity, index.toInt = position + 1 →
              (∀ s, cursor.getAt index (.scalar s) =
                (converter.read (.scalar s) row position).mapError .extraction) ∧
              (∀ precision scale, schema.typeAt? position = some (.decimal precision scale) →
                cursor.getAt index .decimal =
                  (converter.read (.decimal precision.toNat scale.toNat) row position).mapError
                    .extraction) ∧
              ((∀ precision scale, schema.typeAt? position ≠ some (.decimal precision scale)) →
                ∃ e : CursorError, cursor.getAt index .decimal = .error e ∧
                  e = .notDecimal (schema.typeAt? position) ∧
                  e.message? = some ("Invalid data type, expect DECIMAL but was " ++
                    ((schema.typeAt? position).map ColumnType.text).getD "undeclared")))) ∧
      ∀ column g position, cursor.get column g ≠ .error (.extraction (.noValue position)) := by
  intro started cursor k unpositioned refused
  have hstart : Delivery entries 0 started :=
    delivery_start schema entries script converter config
  have h : Delivery entries k cursor := by
    have hafter := hstart.after steps
    rwa [Nat.zero_add] at hafter
  have hclosed : cursor.closed = steps.any Step.closes :=
    (started.closed_after steps).trans (Bool.false_or _)
  have hlast : .ok false ∈ started.advances steps ↔ cursor.position = .afterLast := by
    have hposition := position_after hstart.live steps
    rw [or_iff_right (nofun : started.position ≠ .afterLast)] at hposition
    exact hposition.symm
  have hconverter : cursor.converter = converter := started.converter_after steps
  have hschema : cursor.schema = schema := started.schema_after steps
  simp only [unpositioned, hlast]
  refine ⟨fun hcloses g _ => ?_, fun hcloses => ?_, fun column g position => ?_⟩
  · exact getAt_of_closed (hclosed.trans hcloses) index g
  · have hopen : cursor.closed = false := hclosed.trans hcloses
    refine ⟨fun hrow g hwaits => ?_, fun hrow => ?_⟩
    · exact getAt_of_locate_error (Look.locate_of_unpositioned hopen (h.unpositioned hrow)) hwaits
    · obtain ⟨row, hentry, hon, hcurrent⟩ := h.positioned hopen hrow
      refine ⟨row, hentry, fun hempty g hwaits => ?_, fun hvalues hindex g hwaits => ?_,
        fun hvalues hindex g hwaits => ?_, fun position hposition hindex => ?_⟩
      · exact getAt_of_locate_error (Look.locate_of_empty hopen hon hcurrent hempty) hwaits
      · exact getAt_of_locate_error (Look.locate_of_nonPositive hopen hon hcurrent hvalues hindex)
          hwaits
      · exact getAt_of_locate_error (Look.locate_of_past hopen hon hcurrent hvalues hindex) hwaits
      · have hlocate := Look.locate_of_within hopen hon hcurrent hposition hindex
        rw [← hconverter, ← hschema, getAt_decimal]
        simp only [getAt_scalar]
        refine ⟨Look.scalarAt_of_locate hlocate,
          fun precision scale => Look.decimalAt_of_declared hlocate,
          fun htype => ⟨_, Look.decimalAt_of_undeclared hlocate htype, rfl, ?_⟩⟩
        exact CursorError.message?_notDecimal _
  · exact get_ne_noValue column g position

end Cursor
end Resultset
