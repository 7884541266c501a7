import Resultset.Proofs.Steps

/-! # Recorded streams

A `Recorded` stream passes every call on and keeps the answers. A cursor cannot tell it from the
stream below (`take_forget`, `finish_forget`), so running a cursor over a recorded stream shows all
the calls that a run makes, in order and with their answers: this is `Cursor.trace`.
-/

namespace Resultset
set_option autoImplicit false

structure Recorded (σ : Type) where
  stream : σ
  /-- The answers so far. -/
  trace : List Response

namespace Recorded
variable {σ : Type} [RowStream σ]

instance : RowStream (Recorded σ) where
  hasNext recorded :=
    let (result, stream) := RowStream.hasNext recorded.stream
    (result, ⟨stream, recorded.trace ++ [.more result]⟩)
  next recorded :=
    let (result, stream) := RowStream.next recorded.stream
    (result, ⟨stream, recorded.trace ++ [.entry result]⟩)
  release recorded :=
    let (result, stream) := RowStream.release recorded.stream
    (result, ⟨stream, recorded.trace ++ [.release result]⟩)
  schema recorded := RowStream.schema recorded.stream

theorem hasNext_eq (recorded : Recorded σ) :
    RowStream.hasNext recorded =
      ((RowStream.hasNext recorded.stream).1, ⟨(RowStream.hasNext recorded.stream).2,
        recorded.trace ++ [.more (RowStream.hasNext recorded.stream).1]⟩) := rfl

theorem next_eq (recorded : Recorded σ) :
    RowStream.next recorded =
      ((RowStream.next recorded.stream).1, ⟨(RowStream.next recorded.stream).2,
        recorded.trace ++ [.entry (RowStream.next recorded.stream).1]⟩) := rfl

end Recorded

def Response.isRelease : Response → Bool
  | .release _ => true
  | _ => false

namespace Cursor
variable {σ : Type}

/-- The cursor with a record of the calls from now on. -/
def record (cursor : Cursor σ) : Cursor (Recorded σ) :=
  ⟨⟨cursor.stream, []⟩, cursor.converter, cursor.config, cursor.schema, cursor.position,
    cursor.current, cursor.nullRow, cursor.closed, cursor.log⟩

/-- The cursor without the record. -/
def forget (cursor : Cursor (Recorded σ)) : Cursor σ :=
  ⟨cursor.stream.stream, cursor.converter, cursor.config, cursor.schema, cursor.position,
    cursor.current, cursor.nullRow, cursor.closed, cursor.log⟩

/-! ## Looking at a recorded stream -/

theorem checkOpen_forget (cursor : Cursor (Recorded σ)) :
    Look.checkOpen.answer cursor.forget = Look.checkOpen.answer cursor := by
  rw [Look.answer_checkOpen, Look.answer_checkOpen]
  rfl

theorem locate_forget (cursor : Cursor (Recorded σ)) (index : Int32) :
    (Look.locate index).answer cursor.forget = (Look.locate index).answer cursor := by
  simp only [Look.answer_locate, checkOpen_forget, Look.answer_validRow, Look.answer_validPosition]
  rfl

theorem decimalAt_forget (cursor : Cursor (Recorded σ)) (index : Int32) :
    (Look.decimalAt index).answer cursor.forget = (Look.decimalAt index).answer cursor := by
  simp only [Look.answer_decimalAt, locate_forget, Look.answer_declaredDecimal]
  rfl

theorem getAt_forget (cursor : Cursor (Recorded σ)) (index : Int32) (g : Getter) :
    cursor.forget.getAt index g = cursor.getAt index g := by
  rw [getAt_eq_reach, getAt_eq_reach]
  cases g with
  | scalar s =>
    rw [Look.reach, Look.reach, Look.answer_scalarAt, Look.answer_scalarAt, locate_forget]
    rfl
  | decimal => exact cursor.decimalAt_forget index
  | decimalOfScale scale =>
    rw [Look.reach, Look.reach, Look.answer_decimalOfScaleAt, Look.answer_decimalOfScaleAt,
      decimalAt_forget]
  | declined kind =>
    rw [Look.reach, Look.reach, Look.keeps_checkOpen.answer_bind, Look.keeps_checkOpen.answer_bind,
      checkOpen_forget]
    rfl

theorem resolve_forget (cursor : Cursor (Recorded σ)) (column : ColumnRef) :
    cursor.forget.resolve column = cursor.resolve column := by
  cases column with
  | index i => rfl
  | name n => rw [resolve_name, resolve_name, ordinal_eq, ordinal_eq]; rfl

theorem get_forget (cursor : Cursor (Recorded σ)) (column : ColumnRef) (g : Getter) :
    cursor.forget.get column g = cursor.get column g := by
  simp only [get_eq, resolve_forget, getAt_forget]

theorem answer_forget (cursor : Cursor (Recorded σ)) (q : Query) :
    cursor.forget.answer q = cursor.answer q := by
  cases q with
  | get column g => rw [answer_get, answer_get, get_forget]
  | ordinal name =>
    rw [answer_ordinal, answer_ordinal]
    exact congrArg Answer.ordinal (cursor.resolve_forget (.name name))
  | wasNull =>
    rw [answer_wasNull, answer_wasNull, wasNull_eq, wasNull_eq, checkOpen_forget]
    rfl
  | metadata => rw [answer_metadata, answer_metadata, checkOpen_forget]
  | isClosed => rfl
  | isAt position => rfl
  | schema => rfl

theorem arrive_forget (cursor : Cursor (Recorded σ)) (column : ColumnRef) (g : Getter) :
    (cursor.forget.arrive column g).1 = (cursor.arrive column g).1 := by
  simp only [arrive_fst, resolve_forget, checkOpen_forget, getAt_forget]

theorem settle_forget (cursor : Cursor (Recorded σ)) {g : Getter} (reader : Reader g) :
    (cursor.forget.settle reader).1 = (cursor.settle reader).1 := by
  cases reader with
  | waiting index =>
    have h := cursor.getAt_forget index g
    rwa [getAt_eq_reach, getAt_eq_reach] at h
  | done result => rfl

variable [RowStream σ]

/-! ## Forgetting the record -/

theorem fetch_forget (cursor : Cursor (Recorded σ)) :
    cursor.forget.fetch = (cursor.fetch.1, cursor.fetch.2.forget) := by
  have hstream : cursor.forget.stream = cursor.stream.stream := rfl
  rw [fetch, fetch, hstream, Recorded.hasNext_eq]
  rcases RowStream.hasNext cursor.stream.stream with ⟨e | more, asked⟩
  · rfl
  · cases more with
    | false => rfl
    | true =>
      simp only [Recorded.next_eq]
      rcases RowStream.next asked with ⟨e | entry, stream⟩
      · rfl
      · rfl

theorem advance_forget (cursor : Cursor (Recorded σ)) :
    cursor.forget.advance = (cursor.advance.1, cursor.advance.2.forget) := by
  rcases cursor.advance_routes with ⟨hclosed, h⟩ | ⟨hopen, hlast, h⟩ | ⟨hopen, hmore, h⟩
  · have hclosed' : cursor.forget.closed = true := hclosed
    rw [h, advance_of_closed hclosed']
  · have hopen' : cursor.forget.closed = false := hopen
    have hlast' : cursor.forget.position = .afterLast := hlast
    rw [h, advance_of_afterLast hopen' hlast']
  · have hopen' : cursor.forget.closed = false := hopen
    have hmore' : cursor.forget.position ≠ .afterLast := hmore
    rw [h, advance_of_open hopen' hmore', fetch_forget]

theorem shut_forget (cursor : Cursor (Recorded σ)) :
    cursor.forget.shut = (cursor.shut.1, cursor.shut.2.forget) := by
  by_cases hclosed : cursor.closed = true
  · have hforgot : cursor.forget.closed = true := hclosed
    rw [shut, shut, if_pos hclosed, if_pos hforgot]
  · have hopen : cursor.closed = false := Bool.eq_false_iff.mpr hclosed
    have hforgot : cursor.forget.closed = false := hopen
    rw [shut_of_open hopen, shut_of_open hforgot]
    rfl

theorem release_forget (cursor : Cursor (Recorded σ)) :
    cursor.forget.release = (cursor.release.1, cursor.release.2.forget) := rfl

theorem close_forget (cursor : Cursor (Recorded σ)) :
    cursor.forget.close = (cursor.close.1, cursor.close.2.forget) := by
  rw [close, shut_forget]
  rfl

theorem overlap_forget (cursor : Cursor (Recorded σ)) (arrival : Arrival) (column : ColumnRef)
    (g : Getter) :
    cursor.forget.overlap arrival column g = ((cursor.overlap arrival column g).1,
      (cursor.overlap arrival column g).2.forget) := by
  by_cases hidle : cursor.closed = true ∨ cursor.position = .afterLast
  · have hidle' : cursor.forget.closed = true ∨ cursor.forget.position = .afterLast := hidle
    rw [overlap_of_idle hidle, overlap_of_idle hidle', advanceCloseGet_eq, advanceCloseGet_eq,
      advance_forget]
    simp only [close_forget, get_forget]
  · have hidle' : ¬(cursor.forget.closed = true ∨ cursor.forget.position = .afterLast) := hidle
    have hmarked : cursor.forget.markClosed = cursor.markClosed.forget := rfl
    cases arrival with
    | beforeMark =>
      simp only [overlap, if_neg hidle, if_neg hidle', hmarked, arrive_snd, settle_snd, arrive_forget,
        fetch_forget, release_forget, settle_forget]
    | afterMark =>
      simp only [overlap, if_neg hidle, if_neg hidle', hmarked, arrive_snd, settle_snd, arrive_forget,
        fetch_forget, release_forget, settle_forget]

theorem take_forget (cursor : Cursor (Recorded σ)) (step : Step) :
    cursor.forget.take step = ((cursor.take step).1, (cursor.take step).2.forget) := by
  cases step with
  | advance => rw [take_advance, advance_forget]; rfl
  | close => rw [take_close, close_forget]; rfl
  | overlap arrival column g => simp only [take, overlap_forget]
  | query q => rw [take_query, take_query, answer_forget]

theorem after_forget (cursor : Cursor (Recorded σ)) (steps : List Step) :
    cursor.forget.after steps = (cursor.after steps).forget := by
  induction steps generalizing cursor with
  | nil => rfl
  | cons step steps ih => rw [after_cons, after_cons, take_forget, ih]

theorem drop_forget (cursor : Cursor (Recorded σ)) : cursor.forget.drop = cursor.drop.forget := by
  have hconfig : cursor.forget.config = cursor.config := rfl
  rw [drop, drop, hconfig, shut_forget]
  by_cases hdrop : cursor.config.closeOnDrop = true
  · rw [if_pos hdrop, if_pos hdrop]
    rcases cursor.shut with ⟨e | _, shut⟩
    · rfl
    · rfl
  · rw [if_neg hdrop, if_neg hdrop]

theorem finish_forget (cursor : Cursor (Recorded σ)) (steps : List Step) :
    cursor.forget.finish steps = (cursor.finish steps).forget := by
  rw [finish, after_forget, drop_forget, finish]

/-! ## Traces -/

/-- Every answer of the stream during a run and the drop after it. -/
def trace (cursor : Cursor σ) (steps : List Step) : List Response :=
  (cursor.record.finish steps).stream.trace

theorem trace_fetch (cursor : Cursor (Recorded σ)) :
    ∃ calls : List Response, (∀ r ∈ calls, r.isRelease = false) ∧
      cursor.fetch.2.stream.trace = cursor.stream.trace ++ calls := by
  rw [fetch, Recorded.hasNext_eq]
  rcases RowStream.hasNext cursor.stream.stream with ⟨e | more, asked⟩
  · exact ⟨[.more (.error e)], by simp [Response.isRelease], rfl⟩
  · cases more with
    | false => exact ⟨[.more (.ok false)], by simp [Response.isRelease], rfl⟩
    | true =>
      simp only [Recorded.next_eq]
      rcases RowStream.next asked with ⟨e | entry, stream⟩
      · exact ⟨[.more (.ok true), .entry (.error e)], by simp [Response.isRelease], by simp⟩
      · exact ⟨[.more (.ok true), .entry (.ok entry)], by simp [Response.isRelease],
          by simp [emit]⟩

theorem trace_advance (cursor : Cursor (Recorded σ)) :
    ∃ calls : List Response, (∀ r ∈ calls, r.isRelease = false) ∧
      cursor.advance.2.stream.trace = cursor.stream.trace ++ calls := by
  rcases cursor.advance_routes with ⟨-, h⟩ | ⟨-, -, h⟩ | ⟨-, -, h⟩
  · exact ⟨[], by simp, by simp [h]⟩
  · exact ⟨[], by simp, by simp [h]⟩
  · rw [h]
    exact cursor.trace_fetch

/-- The first close releases. -/
theorem trace_shut_of_open {cursor : Cursor (Recorded σ)} (hopen : cursor.closed = false) :
    cursor.shut.2.stream.trace = cursor.stream.trace ++ [.release cursor.shut.1] := by
  rw [shut_of_open hopen]
  rfl

end Cursor
end Resultset
