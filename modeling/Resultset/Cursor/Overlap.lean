import Resultset.Cursor.Motion
import Resultset.Cursor.Reading

/-! # A close during a fetch

Three calls at once: an advance that waits inside the stream, a reading that starts meanwhile, and a
close. The close marks the cursor closed at once and then waits for the fetch, which completes as if
it were alone; only then is the stream released. The reading looks at the closed mark when it starts
and, if it has to wait for the row, once more when it gets to it.
-/

namespace Resultset
set_option autoImplicit false

/-- Whether the reading starts before or after the close has left its mark. -/
inductive Arrival where
  | beforeMark
  | afterMark
deriving DecidableEq, Repr

/-- A reading that has begun. -/
inductive Reader (g : Getter) where
  /-- It has found the cursor open and waits for the row. -/
  | waiting (index : Int32)
  | done (result : Except CursorError g.Result)

structure Overlap (g : Getter) where
  advance : Except CursorError Bool
  close : Except CursorError Unit
  reading : Except CursorError g.Result

/-- What a reading does before it waits for the row. -/
def Look.approach {σ : Type} (column : ColumnRef) (g : Getter) : Look σ Int32 := do
  let index ← resolve column
  enter g
  return index

namespace Cursor
variable {σ : Type}

/-- Begins a reading. One that does not wait for the row is done at once. -/
def arrive (cursor : Cursor σ) (column : ColumnRef) (g : Getter) : Reader g × Cursor σ :=
  if g.waits then
    match (Look.approach column g).on cursor with
    | (.ok index, cursor) => (.waiting index, cursor)
    | (.error e, cursor) => (.done (.error e), cursor)
  else
    let (result, cursor) := (Look.reading column g).on cursor
    (.done result, cursor)

/-- Ends a reading that has got to the row. -/
def settle (cursor : Cursor σ) {g : Getter} : Reader g → Except CursorError g.Result × Cursor σ
  | .waiting index => (Look.reach index g).on cursor
  | .done result => (result, cursor)

variable [RowStream σ]

/-- The three calls with nothing to wait for, one after the other. -/
def advanceCloseGet (cursor : Cursor σ) (column : ColumnRef) (g : Getter) :
    Overlap g × Cursor σ :=
  let (advance, cursor) := cursor.advance
  let (close, cursor) := cursor.close
  let (reading, cursor) := (Look.reading column g).on cursor
  (⟨advance, close, reading⟩, cursor)

/-- The three calls at once. An advance that does not reach the stream does not wait either. -/
def overlap (cursor : Cursor σ) (arrival : Arrival) (column : ColumnRef) (g : Getter) :
    Overlap g × Cursor σ :=
  if cursor.closed ∨ cursor.position = .afterLast then cursor.advanceCloseGet column g
  else
    let (reader, marked) := match arrival with
      | .beforeMark => let (reader, cursor) := cursor.arrive column g; (reader, cursor.markClosed)
      | .afterMark => cursor.markClosed.arrive column g
    let (advance, fetched) := marked.fetch
    let (close, released) := fetched.release
    let (reading, cursor) := released.settle reader
    (⟨advance, close.mapError .stream, reading⟩, cursor)

end Cursor
end Resultset
