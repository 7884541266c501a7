import Resultset.Proofs.Recording
import Resultset.Proofs.Release
import Resultset.Proofs.Overlaps
import Resultset.Proofs.Readings

/-! # What a run asks of its stream

`heard` is what the stream answers during one step, taken from the record. A step hears an exchange
if it makes an advance that reaches the stream, and the answer to a release if it closes the cursor
(`heard_parts`); the counters of the stream count what is heard, and the errors that a step reports
are the failures among it. On a live queue each of these failures comes from the script
(`scripted_heard`): an open cursor has not released the queue, and it takes an entry only after the
queue has said that there is one.
-/

namespace Resultset
set_option autoImplicit false

/-! ## Responses -/

def Response.call? : Response → Option Call
  | .more _ => some .hasNext
  | .entry _ => some .next
  | .release _ => some .release
  | .schema _ => none

def Response.isOf (call : Call) (response : Response) : Bool := response.call? == some call

def Response.failure? : Response → Option StreamError
  | .more (.error e) | .entry (.error e) | .release (.error e) => some e
  | _ => none

/-- Whether the stream has said that there is another entry. -/
def Response.isMore : Response → Bool
  | .more (.ok true) => true
  | _ => false

/-- What an advance that reaches the stream hears from it. -/
inductive Exchange : List Response → Prop
  | failed (e : StreamError) : Exchange [.more (.error e)]
  | exhausted : Exchange [.more (.ok false)]
  | taken (result : Except StreamError Entry) : Exchange [.more (.ok true), .entry result]

def Step.advances : Step → Bool
  | .advance | .overlap _ _ _ => true
  | .close | .query _ => false

theorem Calls.count_add (calls : Calls) (call other : Call) :
    (calls.add call).count other = calls.count other + if call = other then 1 else 0 := by
  cases call <;> cases other <;> rfl

theorem Faulty.calls_hasNext {σ : Type} [RowStream σ] (faulty : Faulty σ) :
    (RowStream.hasNext faulty).2.calls = faulty.calls.add .hasNext :=
  faulty.calls_attempt .hasNext RowStream.hasNext

theorem Faulty.calls_next {σ : Type} [RowStream σ] (faulty : Faulty σ) :
    (RowStream.next faulty).2.calls = faulty.calls.add .next :=
  faulty.calls_attempt .next RowStream.next

namespace Cursor
variable {σ : Type}

/-- Whether a step makes an advance on an open cursor that is not past the last entry. -/
def asks (cursor : Cursor σ) (step : Step) : Bool :=
  step.advances && !cursor.closed && cursor.position != .afterLast

theorem asks_iff {cursor : Cursor σ} {step : Step} : cursor.asks step = true ↔
    step.advances = true ∧ cursor.closed = false ∧ cursor.position ≠ .afterLast := by
  simp [asks, and_assoc]

variable [RowStream σ]

theorem advance_of_asks {cursor : Cursor σ} (h : cursor.asks .advance = true) :
    cursor.advance = cursor.fetch := by
  obtain ⟨-, hopen, hmore⟩ := asks_iff.mp h
  exact advance_of_open hopen hmore

theorem advance_of_not_asks {cursor : Cursor σ} (h : cursor.asks .advance = false) :
    cursor.advance = (.error .closed, cursor) ∨ cursor.advance = (.ok false, cursor) := by
  rcases cursor.advance_routes with ⟨-, hroute⟩ | ⟨-, -, hroute⟩ | ⟨hopen, hmore, -⟩
  · exact .inl hroute
  · exact .inr hroute
  · rw [asks_iff.mpr ⟨rfl, hopen, hmore⟩] at h
    exact absurd h nofun

def heard (cursor : Cursor σ) (step : Step) : List Response :=
  (cursor.record.take step).2.stream.trace

/-- Whether the stream says during a step that there is another entry. -/
def finds (cursor : Cursor σ) (step : Step) : Bool := (cursor.heard step).any Response.isMore

/-! ## What each call hears -/

def fetchHeard (cursor : Cursor σ) : List Response :=
  match RowStream.hasNext cursor.stream with
  | (.ok true, asked) => [.more (.ok true), .entry (RowStream.next asked).1]
  | (result, _) => [.more result]

def advanceHeard (cursor : Cursor σ) : List Response :=
  if cursor.asks .advance then cursor.fetchHeard else []

def closeHeard (cursor : Cursor σ) : List Response :=
  if cursor.closed then [] else [.release (RowStream.release cursor.stream).1]

theorem exchange_fetchHeard (cursor : Cursor σ) : Exchange cursor.fetchHeard := by
  rw [fetchHeard]
  rcases RowStream.hasNext cursor.stream with ⟨e | more, asked⟩
  · exact .failed e
  · cases more with
    | false => exact .exhausted
    | true => exact .taken _

theorem fetch_trace (cursor : Cursor (Recorded σ)) :
    cursor.fetch.2.stream.trace = cursor.stream.trace ++ cursor.forget.fetchHeard := by
  have hstream : cursor.forget.stream = cursor.stream.stream := rfl
  rw [fetch, fetchHeard, hstream, Recorded.hasNext_eq]
  rcases RowStream.hasNext cursor.stream.stream with ⟨e | more, asked⟩
  · rfl
  · cases more with
    | false => rfl
    | true =>
      simp only [Recorded.next_eq]
      rcases RowStream.next asked with ⟨e | entry, stream⟩
      · simp
      · simp [emit]

theorem advance_trace (cursor : Cursor (Recorded σ)) :
    cursor.advance.2.stream.trace = cursor.stream.trace ++ cursor.forget.advanceHeard := by
  have hasks : cursor.forget.asks .advance = cursor.asks .advance := rfl
  rw [advanceHeard, hasks]
  cases hcase : cursor.asks .advance with
  | true => rw [advance_of_asks hcase, if_pos rfl, fetch_trace]
  | false =>
    rw [if_neg Bool.false_ne_true, List.append_nil]
    rcases advance_of_not_asks hcase with h | h <;> rw [h]

theorem close_trace (cursor : Cursor (Recorded σ)) :
    cursor.close.2.stream.trace = cursor.stream.trace ++ cursor.forget.closeHeard := by
  have hforget : cursor.forget.closed = cursor.closed := rfl
  rw [closeHeard, hforget]
  cases hclosed : cursor.closed with
  | true => rw [close_of_closed hclosed, if_pos rfl, List.append_nil]
  | false =>
    rw [close, shut_of_open hclosed, if_neg Bool.false_ne_true]
    rfl

theorem heard_advance (cursor : Cursor σ) : cursor.heard .advance = cursor.advanceHeard :=
  cursor.record.advance_trace

theorem heard_close (cursor : Cursor σ) : cursor.heard .close = cursor.closeHeard :=
  cursor.record.close_trace

theorem heard_overlap (cursor : Cursor σ) (arrival : Arrival) (column : ColumnRef) (g : Getter) :
    cursor.heard (.overlap arrival column g) =
      cursor.advanceHeard ++ cursor.advance.2.closeHeard := by
  have hadvance : cursor.record.advance.2.forget = cursor.advance.2 := by
    have hforget := cursor.record.advance_forget
    exact (congrArg Prod.snd hforget).symm
  rw [heard, take_overlap_snd, close_trace, advance_trace, hadvance]
  rfl

theorem heard_query (cursor : Cursor σ) (q : Query) : cursor.heard (.query q) = [] := by
  rw [heard, take_query]
  rfl

/-- What a step hears: an exchange if it asks, and the answer to a release if it closes. -/
theorem heard_parts (cursor : Cursor σ) (step : Step) :
    ∃ asked freed : List Response, cursor.heard step = asked ++ freed ∧
      (if cursor.asks step then Exchange asked else asked = []) ∧
      (if step.closes && !cursor.closed then ∃ result, freed = [.release result]
        else freed = []) := by
  have hadvance : if cursor.asks .advance then Exchange cursor.advanceHeard
      else cursor.advanceHeard = [] := by
    rw [advanceHeard]
    split
    · exact cursor.exchange_fetchHeard
    · rfl
  have hclose : ∀ c : Cursor σ, if !c.closed then ∃ result, c.closeHeard = [.release result]
      else c.closeHeard = [] := by
    intro c
    rw [closeHeard]
    cases c.closed with
    | true => rfl
    | false => exact ⟨_, rfl⟩
  cases step with
  | advance => exact ⟨_, [], by rw [heard_advance, List.append_nil], hadvance, rfl⟩
  | close => exact ⟨[], _, cursor.heard_close, rfl, hclose cursor⟩
  | overlap arrival column g =>
    refine ⟨_, _, cursor.heard_overlap arrival column g, hadvance, ?_⟩
    have hafter := hclose cursor.advance.2
    rwa [closed_advance] at hafter
  | query q => exact ⟨[], [], cursor.heard_query q, rfl, rfl⟩

/-! ## Counting calls -/

theorem count_fetch (cursor : Cursor (Faulty σ)) (call : Call) :
    cursor.fetch.2.stream.calls.count call =
      cursor.stream.calls.count call + cursor.fetchHeard.countP (Response.isOf call) := by
  have hcalls := Faulty.calls_hasNext cursor.stream
  rw [fetchHeard]
  rcases hasked : RowStream.hasNext cursor.stream with ⟨e | more, asked⟩
  · rw [hasked] at hcalls
    rw [fetch_of_unasked hasked]
    change asked.calls.count call = _
    rw [hcalls, Calls.count_add]
    cases call <;> rfl
  · rw [hasked] at hcalls
    cases more with
    | false =>
      rw [fetch_of_exhausted hasked]
      change asked.calls.count call = _
      rw [hcalls, Calls.count_add]
      cases call <;> rfl
    | true =>
      have hmore := Faulty.calls_next asked
      rcases htaken : RowStream.next asked with ⟨e | entry, stream⟩
      · rw [htaken] at hmore
        rw [fetch_of_withheld hasked htaken]
        change stream.calls.count call = _
        rw [hmore, Calls.count_add, hcalls, Calls.count_add]
        cases call <;> rfl
      · rw [htaken] at hmore
        rw [fetch_of_delivered hasked htaken]
        change stream.calls.count call = _
        rw [hmore, Calls.count_add, hcalls, Calls.count_add]
        cases call <;> rfl

theorem count_advance (cursor : Cursor (Faulty σ)) (call : Call) :
    cursor.advance.2.stream.calls.count call =
      cursor.stream.calls.count call + cursor.advanceHeard.countP (Response.isOf call) := by
  rw [advanceHeard]
  cases hcase : cursor.asks .advance with
  | true => rw [advance_of_asks hcase, if_pos rfl, count_fetch]
  | false => rcases advance_of_not_asks hcase with h | h <;> rw [h] <;> rfl

theorem count_close (cursor : Cursor (Faulty σ)) (call : Call) :
    cursor.close.2.stream.calls.count call =
      cursor.stream.calls.count call + cursor.closeHeard.countP (Response.isOf call) := by
  rw [closeHeard]
  cases hclosed : cursor.closed with
  | true =>
    rw [close_of_closed hclosed]
    rfl
  | false =>
    have hcalls : (RowStream.release cursor.stream).2.calls = cursor.stream.calls.add .release :=
      cursor.stream.calls_attempt .release RowStream.release
    rw [close, shut_of_open hclosed]
    change (RowStream.release cursor.stream).2.calls.count call = _
    rw [hcalls, Calls.count_add]
    cases call <;> rfl

/-- The counters of a scripted stream count what a step hears. -/
theorem count_take (cursor : Cursor (Faulty σ)) (step : Step) (call : Call) :
    (cursor.take step).2.stream.calls.count call =
      cursor.stream.calls.count call + (cursor.heard step).countP (Response.isOf call) := by
  cases step with
  | advance => rw [heard_advance, take_advance, count_advance]
  | close => rw [heard_close, take_close, count_close]
  | overlap arrival column g =>
    rw [heard_overlap, take_overlap_snd, count_close, count_advance, List.countP_append,
      Nat.add_assoc]
  | query q =>
    rw [heard_query, take_query]
    rfl

/-- If a step makes one call of a kind or none, then a run makes as many as it has steps that make
one. -/
theorem count_after {call : Call} {p : Cursor (Faulty σ) × Step → Bool}
    (hp : ∀ c step, (heard c step).countP (Response.isOf call) = if p (c, step) then 1 else 0)
    (cursor : Cursor (Faulty σ)) (steps : List Step) :
    (cursor.after steps).stream.calls.count call =
      cursor.stream.calls.count call + (cursor.visits steps).countP p := by
  induction steps generalizing cursor with
  | nil => rfl
  | cons step steps ih =>
    rw [after_cons, ih, count_take, hp, visits, List.countP_cons, Nat.add_assoc,
      Nat.add_comm (ite _ _ _)]

theorem countP_hasNext_heard (cursor : Cursor σ) (step : Step) :
    (cursor.heard step).countP (Response.isOf .hasNext) =
      if cursor.asks step then 1 else 0 := by
  obtain ⟨asked, freed, hheard, hasked, hfreed⟩ := cursor.heard_parts step
  have hnone : freed.countP (Response.isOf .hasNext) = 0 := by
    split at hfreed
    · obtain ⟨result, rfl⟩ := hfreed
      rfl
    · rw [hfreed]
      rfl
  rw [hheard, List.countP_append, hnone, Nat.add_zero]
  cases hcase : cursor.asks step with
  | true =>
    rw [hcase, if_pos rfl] at hasked
    cases hasked <;> rfl
  | false =>
    rw [hcase, if_neg Bool.false_ne_true] at hasked
    rw [hasked]
    rfl

theorem countP_next_heard (cursor : Cursor σ) (step : Step) :
    (cursor.heard step).countP (Response.isOf .next) = if cursor.finds step then 1 else 0 := by
  obtain ⟨asked, freed, hheard, hasked, hfreed⟩ := cursor.heard_parts step
  have hnone : freed.countP (Response.isOf .next) = 0 ∧ freed.any Response.isMore = false := by
    split at hfreed
    · obtain ⟨result, rfl⟩ := hfreed
      exact ⟨rfl, rfl⟩
    · rw [hfreed]
      exact ⟨rfl, rfl⟩
  rw [finds, hheard, List.countP_append, List.any_append, hnone.1, hnone.2, Nat.add_zero,
    Bool.or_false]
  split at hasked
  · cases hasked <;> rfl
  · rw [hasked]
    rfl

end Cursor

/-! ## Failures -/

def streamError? {α : Type} : Except CursorError α → Option StreamError
  | .error (.stream e) => some e
  | _ => none

/-- The errors of the stream that an answer reports, in the order of the calls. -/
def Answer.streamErrors : Answer → List StreamError
  | .advanced result => (streamError? result).toList
  | .closed result => (streamError? result).toList
  | .overlap _ results =>
    (streamError? results.advance).toList ++ (streamError? results.close).toList ++
      (streamError? results.reading).toList
  | .flag result => (streamError? result).toList
  | .ordinal result => (streamError? result).toList
  | .schema result => (streamError? result).toList
  | .reading _ result => (streamError? result).toList

namespace Cursor
variable {σ : Type}

/-- No reading reports an error of the stream. -/
theorem streamError?_get (cursor : Cursor σ) (column : ColumnRef) (g : Getter) :
    streamError? (cursor.get column g) = none := by
  cases hread : cursor.get column g with
  | ok answer => rfl
  | error e =>
    obtain ⟨name, rfl⟩ | ⟨index, hfailed⟩ := get_failed hread
    · rfl
    · cases hfailed with
      | refused hrefused => cases hrefused <;> rfl
      | undeclared | unread | unscaled | declined => rfl

theorem streamErrors_answer (cursor : Cursor σ) (q : Query) :
    (cursor.answer q).streamErrors = [] := by
  cases q with
  | wasNull =>
    rw [answer_wasNull, wasNull_eq, Look.answer_checkOpen]
    cases cursor.closed <;> rfl
  | isClosed => rfl
  | isAt position => rfl
  | ordinal name =>
    rw [answer_ordinal, ordinal_eq]
    cases cursor.schema.indexOf? name <;> rfl
  | metadata =>
    rw [answer_metadata, Look.answer_checkOpen]
    cases cursor.closed <;> rfl
  | schema => rfl
  | get column g => rw [answer_get, Answer.streamErrors, streamError?_get, Option.toList_none]

variable [RowStream σ]

theorem streamError?_fetch (cursor : Cursor σ) :
    (streamError? cursor.fetch.1).toList = cursor.fetchHeard.filterMap Response.failure? := by
  rw [fetchHeard]
  rcases hasked : RowStream.hasNext cursor.stream with ⟨e | more, asked⟩
  · rw [fetch_of_unasked hasked]
    rfl
  · cases more with
    | false =>
      rw [fetch_of_exhausted hasked]
      rfl
    | true =>
      rcases htaken : RowStream.next asked with ⟨e | entry, stream⟩
      · rw [fetch_of_withheld hasked htaken]
        simp only [htaken]
        rfl
      · rw [fetch_of_delivered hasked htaken]
        simp only [htaken]
        rfl

theorem streamError?_advance (cursor : Cursor σ) :
    (streamError? cursor.advance.1).toList = cursor.advanceHeard.filterMap Response.failure? := by
  rw [advanceHeard]
  cases hcase : cursor.asks .advance with
  | true => rw [advance_of_asks hcase, if_pos rfl, streamError?_fetch]
  | false => rcases advance_of_not_asks hcase with h | h <;> rw [h] <;> rfl

theorem streamError?_close (cursor : Cursor σ) :
    (streamError? cursor.close.1).toList = cursor.closeHeard.filterMap Response.failure? := by
  rw [closeHeard]
  cases hclosed : cursor.closed with
  | true =>
    rw [close_of_closed hclosed]
    rfl
  | false =>
    rw [close, shut_of_open hclosed]
    change (streamError? ((RowStream.release cursor.stream).1.mapError .stream)).toList =
      [Response.release (RowStream.release cursor.stream).1].filterMap Response.failure?
    rcases (RowStream.release cursor.stream).1 with e | _
    · rfl
    · rfl

/-- The errors of the stream that a step reports are the failures that it hears. -/
theorem streamErrors_take (cursor : Cursor σ) (step : Step) :
    (cursor.take step).1.streamErrors = (cursor.heard step).filterMap Response.failure? := by
  cases step with
  | advance => rw [heard_advance, ← streamError?_advance]; rfl
  | close => rw [heard_close, ← streamError?_close]; rfl
  | overlap arrival column g =>
    have hreading : streamError? (cursor.overlap arrival column g).1.reading = none := by
      rw [overlap_reading]
      split
      · exact cursor.streamError?_get column g
      · exact streamError?_get _ column g
    change (streamError? (cursor.overlap arrival column g).1.advance).toList ++
      (streamError? (cursor.overlap arrival column g).1.close).toList ++
      (streamError? (cursor.overlap arrival column g).1.reading).toList = _
    rw [heard_overlap, List.filterMap_append, ← streamError?_advance, ← streamError?_close,
      overlap_advance, overlap_close, hreading, Option.toList_none, List.append_nil]
  | query q =>
    rw [heard_query, take_query]
    exact cursor.streamErrors_answer q

/-! ## Failures and the script -/

theorem failure_hasNext {faulty : Faulty RowQueue} (hlive : faulty.stream.released = false) :
    (Response.more (RowStream.hasNext faulty).1).failure? = faulty.fault? .hasNext := by
  cases hfault : faulty.fault? .hasNext with
  | some e =>
    have hasked : RowStream.hasNext faulty = (.error e, faulty.counted .hasNext) :=
      Faulty.attempt_of_fault hfault _
    rw [hasked]
    rfl
  | none =>
    rw [Faulty.hasNext_of_live hlive hfault]
    rfl

/-- Once the queue has said that it holds another entry, only the script can withhold it. -/
theorem failure_next {faulty asked : Faulty RowQueue} (hlive : faulty.stream.released = false)
    (hasked : RowStream.hasNext faulty = (.ok true, asked)) :
    (Response.entry (RowStream.next asked).1).failure? = faulty.fault? .next := by
  have hfault : faulty.fault? .hasNext = none := by
    rw [← failure_hasNext hlive, hasked]
    rfl
  rw [Faulty.hasNext_of_live hlive hfault, Prod.mk.injEq, Except.ok.injEq,
    Bool.not_eq_true', List.isEmpty_eq_false_iff_exists_mem] at hasked
  obtain ⟨⟨entry, hmem⟩, rfl⟩ := hasked
  obtain ⟨first, rest, hentries⟩ := List.exists_cons_of_ne_nil (List.ne_nil_of_mem hmem)
  have hshift : (faulty.counted .hasNext).fault? .next = faulty.fault? .next :=
    Faulty.fault?_counted (by decide)
  cases hnext : faulty.fault? .next with
  | some e =>
    have htaken : RowStream.next (faulty.counted .hasNext) =
        (.error e, (faulty.counted .hasNext).counted .next) :=
      Faulty.attempt_of_fault (hshift.trans hnext) _
    rw [htaken]
    rfl
  | none =>
    have htaken : RowStream.next (faulty.counted .hasNext) = _ :=
      Faulty.next_of_cons hlive hentries (hshift.trans hnext)
    rw [htaken]
    rfl

theorem failure_release {faulty : Faulty RowQueue} (hlive : faulty.stream.released = false) :
    (Response.release (RowStream.release faulty).1).failure? = faulty.fault? .release := by
  cases hfault : faulty.fault? .release with
  | some e =>
    have hfreed : RowStream.release faulty = (.error e, faulty.counted .release) :=
      Faulty.attempt_of_fault hfault _
    rw [hfreed]
    rfl
  | none =>
    rw [Faulty.release_of_live hlive hfault]
    rfl

/-- Whether a response is a failure exactly if the script of a stream says so. -/
def Scripted (faulty : Faulty RowQueue) (response : Response) : Prop :=
  response.failure? = response.call?.bind faulty.fault?

theorem scripted_advanceHeard {c : Cursor (Faulty RowQueue)} (hlive : c.Live) :
    ∀ response ∈ c.advanceHeard, Scripted c.stream response := by
  intro response hmem
  rw [advanceHeard] at hmem
  split at hmem
  · next hasks =>
    have hopen := hlive (asks_iff.mp hasks).2.1
    have hfirst := failure_hasNext hopen
    rw [fetchHeard] at hmem
    rcases hasked : RowStream.hasNext c.stream with ⟨e | more, asked⟩
    · rw [hasked] at hmem hfirst
      rw [List.mem_singleton.mp hmem]
      exact hfirst
    · rw [hasked] at hmem hfirst
      cases more with
      | false =>
        rw [List.mem_singleton.mp hmem]
        exact hfirst
      | true =>
        rcases List.mem_cons.mp hmem with rfl | hmem
        · exact hfirst
        · rw [List.mem_singleton.mp hmem]
          exact failure_next hopen hasked
  · exact absurd hmem List.not_mem_nil

theorem scripted_closeHeard {c : Cursor (Faulty RowQueue)} (hlive : c.Live) :
    ∀ response ∈ c.closeHeard, Scripted c.stream response := by
  intro response hmem
  rw [closeHeard] at hmem
  split at hmem
  · exact absurd hmem List.not_mem_nil
  · next hclosed =>
    rw [List.mem_singleton.mp hmem]
    exact failure_release (hlive (Bool.eq_false_iff.mpr hclosed))

theorem fault?_release_advance {c : Cursor (Faulty RowQueue)} (hlive : c.Live) :
    c.advance.2.stream.fault? .release = c.stream.fault? .release := by
  have hcases := advance_cases hlive
  have hasked : (c.stream.counted .hasNext).fault? .release = c.stream.fault? .release :=
    Faulty.fault?_counted (by decide)
  have htaken : ((c.stream.counted .hasNext).counted .next).fault? .release =
      (c.stream.counted .hasNext).fault? .release := Faulty.fault?_counted (by decide)
  generalize c.advance.1 = result, c.advance.2 = d at hcases
  cases hcases with
  | refused => rfl
  | idle => rfl
  | fetched _ _ hfetch =>
    cases hfetch with
    | unasked => exact hasked
    | exhausted => exact hasked
    | withheld => exact htaken.trans hasked
    | delivered => exact htaken.trans hasked

/-- Every failure that a step hears is in the script, and every fault of the script for a call that
the step makes is heard. -/
theorem scripted_heard {c : Cursor (Faulty RowQueue)} (hlive : c.Live) (step : Step) :
    ∀ response ∈ c.heard step, Scripted c.stream response := by
  intro response hmem
  cases step with
  | advance =>
    rw [heard_advance] at hmem
    exact scripted_advanceHeard hlive response hmem
  | close =>
    rw [heard_close] at hmem
    exact scripted_closeHeard hlive response hmem
  | overlap arrival column g =>
    rw [heard_overlap] at hmem
    rcases List.mem_append.mp hmem with hmem | hmem
    · exact scripted_advanceHeard hlive response hmem
    · -- the script says the same of the release before and after the advance
      have hafter := scripted_closeHeard hlive.advance response hmem
      rw [closeHeard] at hmem
      split at hmem
      · exact absurd hmem List.not_mem_nil
      · rw [List.mem_singleton.mp hmem] at hafter ⊢
        exact hafter.trans (fault?_release_advance hlive)
  | query q =>
    rw [heard_query] at hmem
    exact absurd hmem List.not_mem_nil

theorem live_after {c : Cursor (Faulty RowQueue)} (hlive : c.Live) (steps : List Step) :
    (c.after steps).Live :=
  after_preserves (P := Live) (fun _ => Live.advance) (fun _ _ => Live.close) hlive steps

/-! ## The calls of a run -/

theorem count_drop {call : Call} (hcall : call ≠ .release) (cursor : Cursor (Faulty σ)) :
    cursor.drop.stream.calls.count call = cursor.stream.calls.count call := by
  cases hdrop : cursor.config.closeOnDrop with
  | false => rw [drop_of_not_closeOnDrop hdrop]
  | true =>
    obtain ⟨log, hlog⟩ := drop_of_closeOnDrop hdrop
    have hnone : cursor.closeHeard.countP (Response.isOf call) = 0 := by
      rw [closeHeard]
      split
      · rfl
      · cases call with
        | hasNext => rfl
        | next => rfl
        | release => exact absurd rfl hcall
    have hclose := cursor.count_close call
    rw [hnone, Nat.add_zero] at hclose
    rw [hlog]
    exact hclose

/-- A run asks the queue for an entry once for each advance that it makes while the cursor is open
and not past the last entry, and takes one once for each such advance that finds one. -/
theorem asked_in_turn (schema : Schema) (entries : List Entry) (script : List Fault)
    (converter : Converter) (config : Config) (steps : List Step) :
    let started := start (Faulty.of (RowQueue.of schema entries) script) converter config
    let cursor := started.after steps
    let last := started.finish steps
    let visits := started.visits steps
    cursor.stream.calls.hasNext = visits.countP (fun visit => visit.1.asks visit.2) ∧
      cursor.stream.calls.next = visits.countP (fun visit => visit.1.finds visit.2) ∧
      last.stream.calls.hasNext = cursor.stream.calls.hasNext ∧
      last.stream.calls.next = cursor.stream.calls.next ∧
      ∀ step,
        (∃ asked freed : List Response, cursor.heard step = asked ++ freed ∧
          (if cursor.asks step then Exchange asked else asked = []) ∧
          (if step.closes && !cursor.closed then ∃ result, freed = [.release result]
            else freed = [])) ∧
        (cursor.take step).1.streamErrors = (cursor.heard step).filterMap Response.failure? ∧
        (∀ response ∈ cursor.heard step,
          response.failure? = response.call?.bind cursor.stream.fault?) ∧
        ∀ e ∈ (cursor.take step).1.streamErrors, ∃ fault ∈ script, ∃ call,
          fault.hits call (cursor.stream.calls.count call + 1) = true ∧ fault.error = e := by
  intro started cursor last visits
  have hlive : cursor.Live := live_after (live_start schema entries script converter config) steps
  have hscript : cursor.stream.script = script :=
    ((reckoning_start schema entries script converter config).after steps).script_eq
  have hasked := count_after (p := fun visit => visit.1.asks visit.2)
    (fun c step => c.countP_hasNext_heard step) started steps
  have htaken := count_after (p := fun visit => visit.1.finds visit.2)
    (fun c step => c.countP_next_heard step) started steps
  refine ⟨hasked.trans (Nat.zero_add _), htaken.trans (Nat.zero_add _),
    cursor.count_drop (by decide : Call.hasNext ≠ .release),
    cursor.count_drop (by decide : Call.next ≠ .release), ?_⟩
  intro step
  have hscripted := scripted_heard hlive step
  refine ⟨cursor.heard_parts step, cursor.streamErrors_take step, hscripted, ?_⟩
  intro e he
  rw [streamErrors_take] at he
  obtain ⟨response, hmem, hfailure⟩ := List.mem_filterMap.mp he
  rw [hscripted response hmem] at hfailure
  obtain ⟨call, -, hfault⟩ := Option.bind_eq_some_iff.mp hfailure
  obtain ⟨fault, hfind, herror⟩ := Option.map_eq_some_iff.mp hfault
  rw [hscript] at hfind
  have hhits := List.find?_some hfind
  exact ⟨fault, List.mem_of_find?_eq_some hfind, call, hhits, herror⟩

end Cursor
end Resultset
