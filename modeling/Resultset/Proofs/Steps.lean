import Resultset.Proofs.Looks

/-! # What a step does to its cursor

Only two calls move a cursor: `advance` and `close`. A close that comes in during a fetch moves it
like the two calls one after the other (`overlap_snd`), and a query does not move it at all, so what
both calls preserve every run preserves (`after_preserves`). The second half is about answers: the
results of the advances and of the closes of a run, those within overlaps included.
-/

namespace Resultset
set_option autoImplicit false

/-! ## Results of advances and closes -/

def isDelivery : Except CursorError Bool → Bool
  | .ok true => true
  | _ => false

def isFailure : Except CursorError Bool → Bool
  | .error _ => true
  | _ => false

def Answer.advance? : Answer → Option (Except CursorError Bool)
  | .advanced result => some result
  | .overlap _ results => some results.advance
  | _ => none

def Answer.close? : Answer → Option (Except CursorError Unit)
  | .closed result => some result
  | .overlap _ results => some results.close
  | _ => none

/-- Whether a step closes the cursor, if it is not closed yet. -/
def Step.closes : Step → Bool
  | .close | .overlap _ _ _ => true
  | .advance | .query _ => false

namespace Cursor
variable {σ : Type} [RowStream σ]

/-- The results of the advances of a run, in order. -/
def advances (cursor : Cursor σ) (steps : List Step) : List (Except CursorError Bool) :=
  (cursor.history steps).filterMap fun taken => taken.1.advance?

def closes (cursor : Cursor σ) (steps : List Step) : List (Except CursorError Unit) :=
  (cursor.history steps).filterMap fun taken => taken.1.close?

/-! ## Fetching and closing -/

theorem fetch_of_unasked {cursor : Cursor σ} {e : StreamError} {stream : σ}
    (hasked : RowStream.hasNext cursor.stream = (.error e, stream)) :
    cursor.fetch = (.error (.stream e), { cursor with stream }) := by
  rw [fetch, hasked]

theorem fetch_of_exhausted {cursor : Cursor σ} {stream : σ}
    (hasked : RowStream.hasNext cursor.stream = (.ok false, stream)) :
    cursor.fetch = (.ok false,
      emit { cursor with stream, current := none, position := .afterLast } .exhausted) := by
  rw [fetch, hasked]

theorem fetch_of_withheld {cursor : Cursor σ} {e : StreamError} {asked stream : σ}
    (hasked : RowStream.hasNext cursor.stream = (.ok true, asked))
    (hnext : RowStream.next asked = (.error e, stream)) :
    cursor.fetch = (.error (.stream e), { cursor with stream }) := by
  simp only [fetch, hasked, hnext]

theorem fetch_of_delivered {cursor : Cursor σ} {entry : Entry} {asked stream : σ}
    (hasked : RowStream.hasNext cursor.stream = (.ok true, asked))
    (hnext : RowStream.next asked = (.ok entry, stream)) :
    cursor.fetch = (.ok true,
      emit { cursor with
          stream, current := entry, nullRow := entry.isNone, position := .onRow }
        (.advanced entry.isNone)) := by
  simp only [fetch, hasked, hnext]

theorem closed_fetch (cursor : Cursor σ) : cursor.fetch.2.closed = cursor.closed := by
  unfold fetch
  split
  · rfl
  · rfl
  · split <;> rfl

/-- A fetch neither reads nor writes the closed mark. -/
theorem fetch_markClosed (cursor : Cursor σ) :
    cursor.markClosed.fetch = (cursor.fetch.1, cursor.fetch.2.markClosed) := by
  unfold fetch markClosed
  simp only
  split
  · rfl
  · rfl
  · split <;> rfl

theorem advance_of_open {cursor : Cursor σ} (hopen : cursor.closed = false)
    (hmore : cursor.position ≠ .afterLast) : cursor.advance = cursor.fetch := by
  rw [advance, if_neg (by simp [hopen]), if_neg hmore]

theorem advance_of_afterLast {cursor : Cursor σ} (hopen : cursor.closed = false)
    (hlast : cursor.position = .afterLast) : cursor.advance = (.ok false, cursor) := by
  rw [advance, if_neg (by simp [hopen]), if_pos hlast]

/-- An advance is refused, finds that no entry is left, or fetches. -/
theorem advance_routes (cursor : Cursor σ) :
    (cursor.closed = true ∧ cursor.advance = (.error .closed, cursor)) ∨
      (cursor.closed = false ∧ cursor.position = .afterLast ∧
        cursor.advance = (.ok false, cursor)) ∨
      (cursor.closed = false ∧ cursor.position ≠ .afterLast ∧ cursor.advance = cursor.fetch) := by
  cases hclosed : cursor.closed with
  | true => exact Or.inl ⟨rfl, advance_of_closed hclosed⟩
  | false =>
    by_cases hlast : cursor.position = .afterLast
    · exact Or.inr (Or.inl ⟨rfl, hlast, advance_of_afterLast hclosed hlast⟩)
    · exact Or.inr (Or.inr ⟨rfl, hlast, advance_of_open hclosed hlast⟩)

theorem closed_advance (cursor : Cursor σ) : cursor.advance.2.closed = cursor.closed := by
  rcases cursor.advance_routes with ⟨-, h⟩ | ⟨-, -, h⟩ | ⟨-, -, h⟩
  · rw [h]
  · rw [h]
  · rw [h, closed_fetch]

theorem shut_of_open {cursor : Cursor σ} (hopen : cursor.closed = false) :
    cursor.shut = cursor.markClosed.release := by
  rw [shut, if_neg (by simp [hopen])]

/-! ## Settings -/

/-- What a cursor is opened with and keeps. -/
def settings (cursor : Cursor σ) : Converter × Config × Schema :=
  (cursor.converter, cursor.config, cursor.schema)

theorem settings_fetch (cursor : Cursor σ) : cursor.fetch.2.settings = cursor.settings := by
  unfold fetch
  split
  · rfl
  · rfl
  · split <;> rfl

theorem settings_advance (cursor : Cursor σ) : cursor.advance.2.settings = cursor.settings := by
  rcases cursor.advance_routes with ⟨-, h⟩ | ⟨-, -, h⟩ | ⟨-, -, h⟩
  · rw [h]
  · rw [h]
  · rw [h, settings_fetch]

theorem settings_close (cursor : Cursor σ) : cursor.close.2.settings = cursor.settings := by
  simp only [close, shut]
  split <;> rfl

theorem config_advance (cursor : Cursor σ) : cursor.advance.2.config = cursor.config :=
  congrArg (fun settings => settings.2.1) cursor.settings_advance

theorem config_close (cursor : Cursor σ) : cursor.close.2.config = cursor.config :=
  congrArg (fun settings => settings.2.1) cursor.settings_close

theorem schema_fetch (cursor : Cursor σ) : cursor.fetch.2.schema = cursor.schema :=
  congrArg (fun settings => settings.2.2) cursor.settings_fetch

theorem schema_advance (cursor : Cursor σ) : cursor.advance.2.schema = cursor.schema :=
  congrArg (fun settings => settings.2.2) cursor.settings_advance

theorem schema_close (cursor : Cursor σ) : cursor.close.2.schema = cursor.schema :=
  congrArg (fun settings => settings.2.2) cursor.settings_close

/-! ## Overlaps -/

theorem overlap_of_open {cursor : Cursor σ} (hopen : cursor.closed = false)
    (hmore : cursor.position ≠ .afterLast) (arrival : Arrival) (column : ColumnRef) (g : Getter) :
    (cursor.overlap arrival column g).1.advance = cursor.fetch.1 ∧
      (cursor.overlap arrival column g).1.close =
        cursor.fetch.2.markClosed.release.1.mapError .stream ∧
      (cursor.overlap arrival column g).2 = cursor.fetch.2.markClosed.release.2 := by
  have hwaits : ¬(cursor.closed = true ∨ cursor.position = .afterLast) := by simp [hopen, hmore]
  cases arrival with
  | beforeMark =>
    simp only [overlap, if_neg hwaits, arrive_snd, settle_snd, fetch_markClosed, and_self]
  | afterMark =>
    simp only [overlap, if_neg hwaits, arrive_snd, settle_snd, fetch_markClosed, and_self]

theorem advanceCloseGet_eq (cursor : Cursor σ) (column : ColumnRef) (g : Getter) :
    cursor.advanceCloseGet column g =
      (⟨cursor.advance.1, cursor.advance.2.close.1, cursor.advance.2.close.2.get column g⟩,
        cursor.advance.2.close.2) :=
  Prod.ext rfl (Look.keeps_reading column g _)

theorem overlap_of_idle {cursor : Cursor σ} (hidle : cursor.closed = true ∨
    cursor.position = .afterLast) (arrival : Arrival) (column : ColumnRef) (g : Getter) :
    cursor.overlap arrival column g = cursor.advanceCloseGet column g := if_pos hidle

/-- After a fetch the close of an overlap finds the cursor open, as a close alone would. -/
theorem close_advance_of_open {cursor : Cursor σ} (hopen : cursor.closed = false)
    (hmore : cursor.position ≠ .afterLast) :
    cursor.advance.2.close = (cursor.fetch.2.markClosed.release.1.mapError .stream,
      cursor.fetch.2.markClosed.release.2) := by
  have hfetched : cursor.fetch.2.closed = false := cursor.closed_fetch.trans hopen
  rw [advance_of_open hopen hmore, close, shut_of_open hfetched]

/-- An overlap moves the cursor and answers like an advance and then a close. -/
theorem overlap_eq (cursor : Cursor σ) (arrival : Arrival) (column : ColumnRef) (g : Getter) :
    (cursor.overlap arrival column g).1.advance = cursor.advance.1 ∧
      (cursor.overlap arrival column g).1.close = cursor.advance.2.close.1 ∧
      (cursor.overlap arrival column g).2 = cursor.advance.2.close.2 := by
  by_cases hidle : cursor.closed = true ∨ cursor.position = .afterLast
  · rw [overlap_of_idle hidle, advanceCloseGet_eq]
    exact ⟨rfl, rfl, rfl⟩
  · obtain ⟨hclosed, hmore⟩ := not_or.mp hidle
    have hopen : cursor.closed = false := Bool.eq_false_iff.mpr hclosed
    rw [close_advance_of_open hopen hmore, advance_of_open hopen hmore]
    exact overlap_of_open hopen hmore arrival column g

theorem overlap_advance (cursor : Cursor σ) (arrival : Arrival) (column : ColumnRef) (g : Getter) :
    (cursor.overlap arrival column g).1.advance = cursor.advance.1 :=
  (cursor.overlap_eq arrival column g).1

theorem overlap_close (cursor : Cursor σ) (arrival : Arrival) (column : ColumnRef) (g : Getter) :
    (cursor.overlap arrival column g).1.close = cursor.advance.2.close.1 :=
  (cursor.overlap_eq arrival column g).2.1

theorem overlap_snd (cursor : Cursor σ) (arrival : Arrival) (column : ColumnRef) (g : Getter) :
    (cursor.overlap arrival column g).2 = cursor.advance.2.close.2 :=
  (cursor.overlap_eq arrival column g).2.2

/-! ## Runs -/

theorem after_cons (cursor : Cursor σ) (step : Step) (steps : List Step) :
    cursor.after (step :: steps) = (cursor.take step).2.after steps := rfl

theorem take_advance (cursor : Cursor σ) :
    cursor.take .advance = (.advanced cursor.advance.1, cursor.advance.2) := rfl

theorem take_close (cursor : Cursor σ) :
    cursor.take .close = (.closed cursor.close.1, cursor.close.2) := rfl

theorem take_overlap_snd (cursor : Cursor σ) (arrival : Arrival) (column : ColumnRef)
    (g : Getter) : (cursor.take (.overlap arrival column g)).2 = cursor.advance.2.close.2 :=
  cursor.overlap_snd arrival column g

theorem take_preserves {P : Cursor σ → Prop} (hadvance : ∀ c, P c → P c.advance.2)
    (hclose : ∀ c, P c → P c.close.2) {cursor : Cursor σ} (h : P cursor) (step : Step) :
    P (cursor.take step).2 := by
  cases step with
  | advance => exact hadvance cursor h
  | close => exact hclose cursor h
  | overlap arrival column g =>
    rw [take_overlap_snd]
    exact hclose _ (hadvance _ h)
  | query q =>
    rw [take_query]
    exact h

/-- What an advance and a close preserve, every run preserves. -/
theorem after_preserves {P : Cursor σ → Prop} (hadvance : ∀ c, P c → P c.advance.2)
    (hclose : ∀ c, P c → P c.close.2) {cursor : Cursor σ} (h : P cursor) (steps : List Step) :
    P (cursor.after steps) := by
  induction steps generalizing cursor with
  | nil => exact h
  | cons step steps ih => exact ih (take_preserves hadvance hclose h step)

theorem settings_after (cursor : Cursor σ) (steps : List Step) :
    (cursor.after steps).settings = cursor.settings :=
  after_preserves (P := fun c => c.settings = cursor.settings)
    (fun c hc => c.settings_advance.trans hc) (fun c hc => c.settings_close.trans hc) rfl steps

theorem converter_after (cursor : Cursor σ) (steps : List Step) :
    (cursor.after steps).converter = cursor.converter :=
  congrArg (fun settings => settings.1) (cursor.settings_after steps)

theorem config_after (cursor : Cursor σ) (steps : List Step) :
    (cursor.after steps).config = cursor.config :=
  congrArg (fun settings => settings.2.1) (cursor.settings_after steps)

theorem schema_after (cursor : Cursor σ) (steps : List Step) :
    (cursor.after steps).schema = cursor.schema :=
  congrArg (fun settings => settings.2.2) (cursor.settings_after steps)

/-- The steps of a run, each with the cursor that it is taken on. -/
def visits (cursor : Cursor σ) : List Step → List (Cursor σ × Step)
  | [] => []
  | step :: steps => (cursor, step) :: visits (cursor.take step).2 steps

theorem history_eq_map_visits (cursor : Cursor σ) (steps : List Step) :
    cursor.history steps = (cursor.visits steps).map fun visit => visit.1.take visit.2 := by
  induction steps generalizing cursor with
  | nil => rfl
  | cons step steps ih => rw [history, visits, List.map_cons, ih]

/-! ## Runs of a closed cursor -/

theorem take_snd_of_closed {cursor : Cursor σ} (hclosed : cursor.closed = true) (step : Step) :
    (cursor.take step).2 = cursor := by
  have hadvance : cursor.advance.2 = cursor := by rw [advance_of_closed hclosed]
  have hclose : cursor.close.2 = cursor := by rw [close_of_closed hclosed]
  cases step with
  | advance => exact hadvance
  | close => exact hclose
  | overlap arrival column g => rw [take_overlap_snd, hadvance, hclose]
  | query q => rw [take_query]

theorem after_of_closed {cursor : Cursor σ} (hclosed : cursor.closed = true) (steps : List Step) :
    cursor.after steps = cursor := by
  induction steps with
  | nil => rfl
  | cons step steps ih => rw [after_cons, take_snd_of_closed hclosed, ih]

/-- A run leaves the cursor closed as soon as one of its steps closes. -/
theorem closed_after (cursor : Cursor σ) (steps : List Step) :
    (cursor.after steps).closed = (cursor.closed || steps.any Step.closes) := by
  induction steps generalizing cursor with
  | nil => simp [after]
  | cons step steps ih =>
    rw [after_cons, ih, List.any_cons, ← Bool.or_assoc]
    congr 1
    cases step with
    | advance => rw [take_advance, closed_advance, Step.closes, Bool.or_false]
    | close => rw [take_close, closed_close, Step.closes, Bool.or_true]
    | overlap arrival column g => rw [take_overlap_snd, closed_close, Step.closes, Bool.or_true]
    | query q => rw [take_query, Step.closes, Bool.or_false]

/-! ## Answers of a run -/

theorem advances_advance (cursor : Cursor σ) (steps : List Step) :
    cursor.advances (.advance :: steps) = cursor.advance.1 :: cursor.advance.2.advances steps :=
  rfl

theorem advances_close (cursor : Cursor σ) (steps : List Step) :
    cursor.advances (.close :: steps) = cursor.close.2.advances steps := rfl

theorem advances_overlap (cursor : Cursor σ) (arrival : Arrival) (column : ColumnRef) (g : Getter)
    (steps : List Step) :
    cursor.advances (.overlap arrival column g :: steps) =
      cursor.advance.1 :: cursor.advance.2.close.2.advances steps := by
  rw [← cursor.overlap_advance arrival column g, ← cursor.overlap_snd arrival column g]
  rfl

theorem advances_query (cursor : Cursor σ) (q : Query) (steps : List Step) :
    cursor.advances (.query q :: steps) = cursor.advances steps := by
  have hnone : (cursor.answer q).advance? = none := by cases q <;> rfl
  simp only [advances, history, take_query, List.filterMap_cons, hnone]

theorem closes_advance (cursor : Cursor σ) (steps : List Step) :
    cursor.closes (.advance :: steps) = cursor.advance.2.closes steps := rfl

theorem closes_close (cursor : Cursor σ) (steps : List Step) :
    cursor.closes (.close :: steps) = cursor.close.1 :: cursor.close.2.closes steps := rfl

theorem closes_overlap (cursor : Cursor σ) (arrival : Arrival) (column : ColumnRef) (g : Getter)
    (steps : List Step) :
    cursor.closes (.overlap arrival column g :: steps) =
      cursor.advance.2.close.1 :: cursor.advance.2.close.2.closes steps := by
  rw [← cursor.overlap_close arrival column g, ← cursor.overlap_snd arrival column g]
  rfl

theorem closes_query (cursor : Cursor σ) (q : Query) (steps : List Step) :
    cursor.closes (.query q :: steps) = cursor.closes steps := by
  have hnone : (cursor.answer q).close? = none := by cases q <;> rfl
  simp only [closes, history, take_query, List.filterMap_cons, hnone]

end Cursor
end Resultset
