import Resultset.Proofs.Steps
import Resultset.Stream.Faulty
import Resultset.Stream.Queue

/-! # Calls on a queue with scripted faults

What the moving calls come to when the stream is a row queue under a fault script. `Fetched` has the
four ways in which a fetch ends, `Advanced` puts those before them in which the stream is not asked,
and `Shut` has the ways in which a close ends, each with the cursor that it leaves.
-/

namespace Resultset
set_option autoImplicit false

/-! ## Scripted calls -/

namespace Faulty
variable {σ : Type}

/-- The stream after one more call that was not passed on. -/
def counted (faulty : Faulty σ) (call : Call) : Faulty σ :=
  { faulty with calls := faulty.calls.add call }

theorem attempt_of_fault {α : Type} {faulty : Faulty σ} {call : Call} {e : StreamError}
    (hfault : faulty.fault? call = some e) (make : σ → Except StreamError α × σ) :
    faulty.attempt call make = (.error e, faulty.counted call) := by
  rw [attempt, hfault]
  rfl

theorem attempt_of_none {α : Type} {faulty : Faulty σ} {call : Call}
    (hfault : faulty.fault? call = none) (make : σ → Except StreamError α × σ) :
    faulty.attempt call make =
      ((make faulty.stream).1, { faulty.counted call with stream := (make faulty.stream).2 }) := by
  rw [attempt, hfault]
  rfl

theorem fault?_counted {faulty : Faulty σ} {call other : Call} (hne : call ≠ other) :
    (faulty.counted call).fault? other = faulty.fault? other := by
  have hcount : (faulty.calls.add call).count other = faulty.calls.count other := by
    cases call <;> cases other <;> first | rfl | exact absurd rfl hne
  simp only [fault?, counted, hcount]

theorem hasNext_of_live {faulty : Faulty RowQueue} (hlive : faulty.stream.released = false)
    (hfault : faulty.fault? .hasNext = none) :
    RowStream.hasNext faulty =
      (.ok !faulty.stream.entries.isEmpty, faulty.counted .hasNext) := by
  change faulty.attempt .hasNext RowQueue.hasNext = _
  rw [attempt_of_none hfault, RowQueue.hasNext_of_live hlive]
  rfl

theorem next_of_cons {faulty : Faulty RowQueue} {entry : Entry} {rest : List Entry}
    (hlive : faulty.stream.released = false) (hentries : faulty.stream.entries = entry :: rest)
    (hfault : faulty.fault? .next = none) :
    RowStream.next faulty = (.ok entry,
      { faulty.counted .next with stream := { faulty.stream with entries := rest } }) := by
  change faulty.attempt .next RowQueue.next = _
  rw [attempt_of_none hfault, RowQueue.next_of_cons hlive hentries]

theorem release_of_live {faulty : Faulty RowQueue} (hlive : faulty.stream.released = false)
    (hfault : faulty.fault? .release = none) :
    RowStream.release faulty = (.ok (),
      { faulty.counted .release with
        stream := { faulty.stream with
          released := true, entries := [], releases := faulty.stream.releases + 1 } }) := by
  change faulty.attempt .release RowQueue.release = _
  rw [attempt_of_none hfault, RowQueue.release_of_live hlive]

end Faulty

theorem Calls.count_add_self (calls : Calls) (call : Call) :
    (calls.add call).count call = calls.count call + 1 := by
  cases call <;> rfl

theorem Calls.count_le_count_add (calls : Calls) (call other : Call) :
    calls.count other ≤ (calls.add call).count other := by
  cases call <;> cases other <;> simp [add, count]

namespace Cursor

/-! ## Fetching -/

/-- The ways in which a fetch ends while the queue is not released: the answer and the cursor. -/
inductive Fetched (c : Cursor (Faulty RowQueue)) :
    Except CursorError Bool → Cursor (Faulty RowQueue) → Prop
  /-- The question for another entry fails. -/
  | unasked {e : StreamError} (hfault : c.stream.fault? .hasNext = some e) :
      Fetched c (.error (.stream e)) { c with stream := c.stream.counted .hasNext }
  /-- There is no other entry. -/
  | exhausted (hfault : c.stream.fault? .hasNext = none) (hempty : c.stream.stream.entries = []) :
      Fetched c (.ok false)
        (emit { c with
            stream := c.stream.counted .hasNext, current := none, position := .afterLast }
          .exhausted)
  /-- There is another entry, and taking it fails. -/
  | withheld {e : StreamError} {entry : Entry} {rest : List Entry}
      (hfault : c.stream.fault? .hasNext = none)
      (hentries : c.stream.stream.entries = entry :: rest)
      (hnext : c.stream.fault? .next = some e) :
      Fetched c (.error (.stream e))
        { c with stream := (c.stream.counted .hasNext).counted .next }
  /-- The first entry of the queue is taken. -/
  | delivered {entry : Entry} {rest : List Entry} (hfault : c.stream.fault? .hasNext = none)
      (hentries : c.stream.stream.entries = entry :: rest)
      (hnext : c.stream.fault? .next = none) :
      Fetched c (.ok true)
        (emit { c with
            stream := { (c.stream.counted .hasNext).counted .next with
              stream := { c.stream.stream with entries := rest } },
            current := entry, nullRow := entry.isNone, position := .onRow }
          (.advanced entry.isNone))

theorem fetch_cases {c : Cursor (Faulty RowQueue)} (hlive : c.stream.stream.released = false) :
    Fetched c c.fetch.1 c.fetch.2 := by
  cases hfault : c.stream.fault? .hasNext with
  | some e =>
    rw [fetch_of_unasked (Faulty.attempt_of_fault hfault _)]
    exact .unasked hfault
  | none =>
    have hasked := Faulty.hasNext_of_live hlive hfault
    cases hentries : c.stream.stream.entries with
    | nil =>
      rw [hentries] at hasked
      rw [fetch_of_exhausted hasked]
      exact .exhausted hfault hentries
    | cons entry rest =>
      rw [hentries] at hasked
      -- The question has a counter of its own, so it leaves the next fault of `next` in place.
      have hshift : (c.stream.counted .hasNext).fault? .next = c.stream.fault? .next :=
        Faulty.fault?_counted (by decide)
      cases hnext : c.stream.fault? .next with
      | some e =>
        rw [fetch_of_withheld hasked (Faulty.attempt_of_fault (hshift.trans hnext) _)]
        exact .withheld hfault hentries hnext
      | none =>
        rw [fetch_of_delivered hasked
          (Faulty.next_of_cons hlive hentries (hshift.trans hnext))]
        exact .delivered hfault hentries hnext

/-! ## Advancing -/

/-- The ways in which an advance ends. -/
inductive Advanced (c : Cursor (Faulty RowQueue)) :
    Except CursorError Bool → Cursor (Faulty RowQueue) → Prop
  | refused (hclosed : c.closed = true) : Advanced c (.error .closed) c
  | idle (hopen : c.closed = false) (hlast : c.position = .afterLast) : Advanced c (.ok false) c
  | fetched {result : Except CursorError Bool} {d : Cursor (Faulty RowQueue)}
      (hopen : c.closed = false) (hmore : c.position ≠ .afterLast) (h : Fetched c result d) :
      Advanced c result d

/-- The queue of an open cursor is not released. -/
def Live (c : Cursor (Faulty RowQueue)) : Prop :=
  c.closed = false → c.stream.stream.released = false

theorem advance_cases {c : Cursor (Faulty RowQueue)} (hlive : c.Live) :
    Advanced c c.advance.1 c.advance.2 := by
  rcases c.advance_routes with ⟨hclosed, h⟩ | ⟨hopen, hlast, h⟩ | ⟨hopen, hmore, h⟩
  · rw [h]
    exact .refused hclosed
  · rw [h]
    exact .idle hopen hlast
  · rw [h]
    exact .fetched hopen hmore (fetch_cases (hlive hopen))

/-! ## Closing -/

/-- The ways in which a close ends. -/
inductive Shut (c : Cursor (Faulty RowQueue)) :
    Except StreamError Unit → Cursor (Faulty RowQueue) → Prop
  | again (hclosed : c.closed = true) : Shut c (.ok ()) c
  /-- The release fails, and the queue keeps what it holds. -/
  | failed {e : StreamError} (hopen : c.closed = false)
      (hfault : c.stream.fault? .release = some e) :
      Shut c (.error e)
        (emit { c with stream := c.stream.counted .release, current := none, closed := true }
          .closed)
  | released (hopen : c.closed = false) (hfault : c.stream.fault? .release = none) :
      Shut c (.ok ())
        (emit { c with
            stream := { c.stream.counted .release with
              stream := { c.stream.stream with
                released := true, entries := [], releases := c.stream.stream.releases + 1 } },
            current := none, closed := true }
          .closed)

theorem shut_cases {c : Cursor (Faulty RowQueue)} (hlive : c.Live) : Shut c c.shut.1 c.shut.2 := by
  by_cases hclosed : c.closed = true
  · rw [shut, if_pos hclosed]
    exact .again hclosed
  · have hopen : c.closed = false := Bool.eq_false_iff.mpr hclosed
    rw [shut_of_open hopen, release]
    cases hfault : c.stream.fault? .release with
    | some e =>
      have hrelease : RowStream.release c.markClosed.stream =
        (.error e, c.stream.counted .release) := Faulty.attempt_of_fault hfault _
      rw [hrelease]
      exact .failed hopen hfault
    | none =>
      have hrelease := Faulty.release_of_live (hlive hopen) hfault
      change RowStream.release c.markClosed.stream = _ at hrelease
      rw [hrelease]
      exact .released hopen hfault

/-! ## Live cursors -/

theorem Live.advance {c : Cursor (Faulty RowQueue)} (hlive : c.Live) : c.advance.2.Live := by
  have h := advance_cases hlive
  generalize c.advance.1 = result, c.advance.2 = d at h
  cases h with
  | refused => exact hlive
  | idle => exact hlive
  | fetched _ _ h =>
    cases h with
    | unasked => exact hlive
    | exhausted => exact hlive
    | withheld => exact hlive
    | delivered => exact hlive

theorem Live.close {c : Cursor (Faulty RowQueue)} : c.close.2.Live := by
  intro hopen
  rw [closed_close] at hopen
  contradiction

theorem live_start (schema : Schema) (entries : List Entry) (script : List Fault)
    (converter : Converter) (config : Config) :
    (start (Faulty.of (RowQueue.of schema entries) script) converter config).Live :=
  fun _ => rfl

end Cursor
end Resultset
