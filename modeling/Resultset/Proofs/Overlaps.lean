import Resultset.Proofs.Steps

/-! # Readings of a closed cursor and within overlaps

On a closed cursor a reading looks its column up and is refused, so its answer depends on nothing
but the columns (`get_congr_of_closed`). A reading within an overlap finds the cursor closed at the
latest when it gets to the row, and therefore answers as it does after the advance and the close
(`overlap_reading`). The exception is a declined reading that starts first: it does not wait.
-/

namespace Resultset.Cursor
set_option autoImplicit false
variable {σ : Type}

/-! ## Closed cursors -/

theorem resolve_of_schema_eq {c d : Cursor σ} (h : c.schema = d.schema) (column : ColumnRef) :
    c.resolve column = d.resolve column := by
  cases column with
  | index i => rfl
  | name n => rw [resolve_name, resolve_name, ordinal_eq, ordinal_eq, h]

/-- The answer of a reading that fails once its column is found. -/
def refusal {α : Type} (cursor : Cursor σ) (column : ColumnRef) (e : CursorError) :
    Except CursorError α :=
  match cursor.resolve column with
  | .ok _ => .error e
  | .error e => .error e

theorem refusal_ne_noCurrentRow {α : Type} (cursor : Cursor σ) (column : ColumnRef)
    {e : CursorError} {reason : NoRow} (he : e ≠ .noCurrentRow reason) :
    (cursor.refusal column e : Except CursorError α) ≠ .error (.noCurrentRow reason) := by
  cases column with
  | index i => exact fun h => he (Except.error.inj h)
  | name n =>
    rw [refusal, resolve_name, ordinal_eq]
    cases cursor.schema.indexOf? n with
    | none => exact nofun
    | some position => exact fun h => he (Except.error.inj h)

theorem get_of_closed {cursor : Cursor σ} (hclosed : cursor.closed = true) (column : ColumnRef)
    (g : Getter) : cursor.get column g = cursor.refusal column .closed := by
  rw [get_eq, refusal]
  cases cursor.resolve column with
  | error e => rfl
  | ok index => exact getAt_of_closed hclosed index g

theorem get_congr_of_closed {c d : Cursor σ} (hc : c.closed = true) (hd : d.closed = true)
    (hschema : c.schema = d.schema) (column : ColumnRef) (g : Getter) :
    c.get column g = d.get column g := by
  rw [get_of_closed hc, get_of_closed hd, refusal, refusal, resolve_of_schema_eq hschema]

/-! ## Waiting for the row -/

/-- Whether a reading answers before the close leaves its mark: it comes first and waits for
nothing. -/
def answersAhead (cursor : Cursor σ) (arrival : Arrival) (g : Getter) : Bool :=
  arrival == .beforeMark && !g.waits && !cursor.closed && cursor.position != .afterLast

/-- A reading that answers ahead of the close is a declined one on an open cursor. -/
theorem get_of_answersAhead {cursor : Cursor σ} {arrival : Arrival} {g : Getter}
    (hahead : cursor.answersAhead arrival g = true) (column : ColumnRef) :
    ∃ kind, g = .declined kind ∧
      cursor.get column g = cursor.refusal column (.declined (.reading kind)) := by
  simp only [answersAhead, Bool.and_eq_true, Bool.not_eq_true'] at hahead
  obtain ⟨⟨⟨-, hwaits⟩, hopen⟩, -⟩ := hahead
  cases g with
  | scalar s => exact absurd hwaits nofun
  | decimal => exact absurd hwaits nofun
  | decimalOfScale scale => exact absurd hwaits nofun
  | declined kind =>
    refine ⟨kind, rfl, ?_⟩
    rw [get_eq, refusal]
    cases cursor.resolve column with
    | error e => rfl
    | ok index => exact getAt_declined_of_open hopen index kind

/-- The answer of a reading that begins at one state of the cursor and gets to the row at a later
one. -/
def getAcross (arrived reached : Cursor σ) (column : ColumnRef) (g : Getter) :
    Except CursorError g.Result := (reached.settle (arrived.arrive column g).1).1

theorem getAcross_eq (arrived reached : Cursor σ) (column : ColumnRef) (g : Getter) :
    arrived.getAcross reached column g =
      match arrived.resolve column with
      | .error e => .error e
      | .ok index =>
        if g.waits then
          match Look.checkOpen.answer arrived with
          | .error e => .error e
          | .ok _ => reached.getAt index g
        else arrived.getAt index g := by
  rw [getAcross, arrive_fst]
  cases arrived.resolve column with
  | error e => rfl
  | ok index =>
    cases g.waits with
    | false => rfl
    | true =>
      simp only [if_true]
      cases Look.checkOpen.answer arrived with
      | error e => rfl
      | ok _ => exact (reached.getAt_eq_reach index g).symm

theorem getAcross_of_not_waits {arrived reached : Cursor σ} {g : Getter} (hwaits : g.waits = false)
    (column : ColumnRef) : arrived.getAcross reached column g = arrived.get column g := by
  rw [getAcross_eq, get_eq]
  cases arrived.resolve column with
  | error e => rfl
  | ok index => simp only [hwaits, Bool.false_eq_true, if_false]; rfl

/-- A reading that waits until the cursor is closed finds it closed, whatever it was before. -/
theorem getAcross_of_reached_closed {arrived reached : Cursor σ} {g : Getter}
    (hwaits : g.waits = true) (hschema : arrived.schema = reached.schema)
    (hclosed : reached.closed = true) (column : ColumnRef) :
    arrived.getAcross reached column g = reached.get column g := by
  rw [get_of_closed hclosed, refusal, ← resolve_of_schema_eq hschema, getAcross_eq]
  cases arrived.resolve column with
  | error e => rfl
  | ok index =>
    simp only [hwaits, if_true]
    cases harrived : arrived.closed with
    | true => rw [Look.checkOpen_of_closed harrived]
    | false =>
      rw [Look.checkOpen_of_open harrived]
      exact getAt_of_closed hclosed index g

variable [RowStream σ]

/-! ## Readings within overlaps -/

theorem overlap_reading_of_open {cursor : Cursor σ} (hopen : cursor.closed = false)
    (hmore : cursor.position ≠ .afterLast) (arrival : Arrival) (column : ColumnRef) (g : Getter) :
    (cursor.overlap arrival column g).1.reading =
      (match arrival with
        | .beforeMark => cursor
        | .afterMark => cursor.markClosed).getAcross
          (cursor.overlap arrival column g).2 column g := by
  have hwaits : ¬(cursor.closed = true ∨ cursor.position = .afterLast) := by simp [hopen, hmore]
  cases arrival with
  | beforeMark => simp only [overlap, if_neg hwaits, settle_snd, getAcross]
  | afterMark => simp only [overlap, if_neg hwaits, settle_snd, getAcross]

theorem overlap_reading (cursor : Cursor σ) (arrival : Arrival) (column : ColumnRef) (g : Getter) :
    (cursor.overlap arrival column g).1.reading =
      if cursor.answersAhead arrival g then cursor.get column g
      else cursor.advance.2.close.2.get column g := by
  by_cases hidle : cursor.closed = true ∨ cursor.position = .afterLast
  · have hahead : cursor.answersAhead arrival g = false := by
      rcases hidle with h | h <;> simp [answersAhead, h]
    rw [overlap_of_idle hidle, hahead]
    rfl
  · obtain ⟨hclosed, hmore⟩ := not_or.mp hidle
    have hopen : cursor.closed = false := Bool.eq_false_iff.mpr hclosed
    have hlast : cursor.advance.2.close.2.closed = true := closed_close _
    have hschema : cursor.advance.2.close.2.schema = cursor.schema :=
      (schema_close _).trans cursor.schema_advance
    rw [overlap_reading_of_open hopen hmore, overlap_snd]
    cases hwaits : g.waits with
    | true =>
      have hahead : cursor.answersAhead arrival g = false := by simp [answersAhead, hwaits]
      rw [hahead, if_neg Bool.false_ne_true]
      cases arrival with
      | beforeMark => exact getAcross_of_reached_closed hwaits hschema.symm hlast column
      | afterMark =>
        have hmarked : cursor.markClosed.schema = cursor.advance.2.close.2.schema := hschema.symm
        exact getAcross_of_reached_closed hwaits hmarked hlast column
    | false =>
      rw [getAcross_of_not_waits hwaits]
      cases arrival with
      | beforeMark =>
        have hahead : cursor.answersAhead .beforeMark g = true := by
          simp [answersAhead, hwaits, hopen, hmore]
        rw [hahead, if_pos rfl]
      | afterMark =>
        have hmarked : cursor.markClosed.closed = true := rfl
        exact get_congr_of_closed hmarked hlast hschema.symm column g

end Resultset.Cursor
