import Resultset.Cursor

/-! # Moving and closing a cursor

The calls that reach the stream. `advance` fetches one entry, `close` releases the stream, and
`drop` ends the life of the cursor. Each is put together from steps that hold by themselves
(`fetch`, `markClosed`, `release`), because a close may come in while a fetch is under way.
-/

namespace Resultset.Cursor
set_option autoImplicit false
variable {σ : Type} [RowStream σ]

/-! ## Steps -/

/-- Takes the next entry from the stream, or finds that there is none. A failed call changes nothing
but the stream. -/
def fetch (cursor : Cursor σ) : Except CursorError Bool × Cursor σ :=
  match RowStream.hasNext cursor.stream with
  | (.error e, stream) => (.error (.stream e), { cursor with stream })
  | (.ok false, stream) =>
    (.ok false, emit { cursor with stream, current := none, position := .afterLast } .exhausted)
  | (.ok true, stream) =>
    match RowStream.next stream with
    | (.error e, stream) => (.error (.stream e), { cursor with stream })
    | (.ok entry, stream) =>
      (.ok true,
        emit { cursor with stream, current := entry, nullRow := entry.isNone, position := .onRow }
          (.advanced entry.isNone))

def markClosed (cursor : Cursor σ) : Cursor σ := { cursor with closed := true }

def release (cursor : Cursor σ) : Except StreamError Unit × Cursor σ :=
  let (result, stream) := RowStream.release cursor.stream
  (result, emit { cursor with stream, current := none } .closed)

/-! ## Calls -/

/-- Moves to the next row; `false` once there is none. -/
def advance (cursor : Cursor σ) : Except CursorError Bool × Cursor σ :=
  if cursor.closed then (.error .closed, cursor)
  else if cursor.position = .afterLast then (.ok false, cursor)
  else cursor.fetch

/-- Closes the cursor, also if the release fails. Only the first close releases. -/
def shut (cursor : Cursor σ) : Except StreamError Unit × Cursor σ :=
  if cursor.closed then (.ok (), cursor) else cursor.markClosed.release

def close (cursor : Cursor σ) : Except CursorError Unit × Cursor σ :=
  let (result, cursor) := cursor.shut
  (result.mapError .stream, cursor)

def drop (cursor : Cursor σ) : Cursor σ :=
  if cursor.config.closeOnDrop then
    match cursor.shut with
    | (.ok _, cursor) => cursor
    | (.error e, cursor) => cursor.emit (.releaseFailed e)
  else cursor

/-! ## Laws -/

theorem advance_of_closed {cursor : Cursor σ} (h : cursor.closed = true) :
    cursor.advance = (.error .closed, cursor) := if_pos h

theorem close_of_closed {cursor : Cursor σ} (h : cursor.closed = true) :
    cursor.close = (.ok (), cursor) := by
  rw [close, shut, if_pos h]
  rfl

theorem closed_close (cursor : Cursor σ) : cursor.close.2.closed = true := by
  simp only [close, shut]
  split
  · assumption
  · rfl

theorem position_close (cursor : Cursor σ) : cursor.close.2.position = cursor.position := by
  simp only [close, shut]
  split <;> rfl

end Resultset.Cursor
