import Resultset.Cursor.Overlap

/-! # Sessions

A session is a list of steps taken on one cursor, each with its answer and the cursor after it, and
ends with the drop. Steps that only look are kept apart as `Query`, and hand on the cursor like any
other step.
-/

namespace Resultset
set_option autoImplicit false

/-- A step that only looks. -/
inductive Query where
  | wasNull
  | isClosed
  | isAt (position : Position)
  | ordinal (name : String)
  | metadata
  | schema
  | get (column : ColumnRef) (g : Getter)
deriving DecidableEq, Repr

inductive Step where
  | advance
  | close
  | overlap (arrival : Arrival) (column : ColumnRef) (g : Getter)
  | query (q : Query)
deriving DecidableEq, Repr

inductive Answer where
  | advanced (result : Except CursorError Bool)
  | closed (result : Except CursorError Unit)
  | overlap (g : Getter) (results : Overlap g)
  | flag (result : Except CursorError Bool)
  | ordinal (result : Except CursorError Int32)
  | schema (result : Except CursorError Schema)
  | reading (g : Getter) (result : Except CursorError g.Result)

namespace Cursor
variable {σ : Type}

def ask (cursor : Cursor σ) : Query → Answer × Cursor σ
  | .wasNull => let (result, cursor) := Look.wasNull.on cursor; (.flag result, cursor)
  | .isClosed => let (result, cursor) := Look.isClosed.on cursor; (.flag result, cursor)
  | .isAt position => let (result, cursor) := (Look.isAt position).on cursor; (.flag result, cursor)
  | .ordinal name => let (result, cursor) := (Look.ordinal name).on cursor; (.ordinal result, cursor)
  | .metadata => let (result, cursor) := Look.metadata.on cursor; (.schema result, cursor)
  | .schema => let (result, cursor) := Look.schema.on cursor; (.schema result, cursor)
  | .get column g =>
    let (result, cursor) := (Look.reading column g).on cursor
    (.reading g result, cursor)

def answer (cursor : Cursor σ) (q : Query) : Answer := (cursor.ask q).1

variable [RowStream σ]

def take (cursor : Cursor σ) : Step → Answer × Cursor σ
  | .advance => let (result, cursor) := cursor.advance; (.advanced result, cursor)
  | .close => let (result, cursor) := cursor.close; (.closed result, cursor)
  | .overlap arrival column g =>
    let (results, cursor) := cursor.overlap arrival column g
    (.overlap g results, cursor)
  | .query q => cursor.ask q

/-- The answers to a list of steps, each with the cursor after it. -/
def history (cursor : Cursor σ) : List Step → List (Answer × Cursor σ)
  | [] => []
  | step :: steps =>
    let taken := cursor.take step
    taken :: history taken.2 steps

def after (cursor : Cursor σ) (steps : List Step) : Cursor σ :=
  steps.foldl (fun cursor step => (cursor.take step).2) cursor

/-- The cursor after a list of steps and the drop. -/
def finish (cursor : Cursor σ) (steps : List Step) : Cursor σ := (cursor.after steps).drop

/-! ## Laws -/

theorem after_append (cursor : Cursor σ) (steps more : List Step) :
    cursor.after (steps ++ more) = (cursor.after steps).after more := by
  simp [after, List.foldl_append]

theorem history_append (cursor : Cursor σ) (steps more : List Step) :
    cursor.history (steps ++ more) = cursor.history steps ++ (cursor.after steps).history more := by
  induction steps generalizing cursor with
  | nil => rfl
  | cons step steps ih => simp [history, after, ih]

end Cursor
end Resultset
