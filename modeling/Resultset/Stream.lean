import Resultset.Row
import Resultset.Schema

/-! # Row streams

A row stream hands out the entries of an executed query one at a time. Every call can fail, and
every call may change the stream, so each answers with the stream that comes after it. `serveAll` is
the history of a sequence of calls.
-/

namespace Resultset
set_option autoImplicit false

inductive StreamError where
  | io (detail : String)
  | released
  | other (detail : String)
deriving DecidableEq, Repr

def StreamError.message : StreamError → String
  | io detail => "I/O error: " ++ detail
  | released => "Row source already released"
  | other detail => "Row source failure: " ++ detail

class RowStream (σ : Type) where
  /-- Whether `next` would deliver an entry. -/
  hasNext : σ → Except StreamError Bool × σ
  next : σ → Except StreamError Entry × σ
  /-- Frees what backs the stream. Repeated calls are allowed. -/
  release : σ → Except StreamError Unit × σ
  schema : σ → Schema

/-! ## Histories -/

inductive Request where
  | hasNext
  | next
  | release
  | schema
deriving DecidableEq, Repr

inductive Response where
  | more (result : Except StreamError Bool)
  | entry (result : Except StreamError Entry)
  | release (result : Except StreamError Unit)
  | schema (schema : Schema)

namespace RowStream
variable {σ : Type} [RowStream σ]

/-- Makes one call. -/
def serve (stream : σ) : Request → Response × σ
  | .hasNext => let (result, stream) := hasNext stream; (.more result, stream)
  | .next => let (result, stream) := next stream; (.entry result, stream)
  | .release => let (result, stream) := release stream; (.release result, stream)
  | .schema => (.schema (schema stream), stream)

/-- Makes the calls in order: each response with the stream after it. -/
def serveAll (stream : σ) : List Request → List (Response × σ)
  | [] => []
  | request :: requests =>
    let answer := serve stream request
    answer :: serveAll answer.2 requests

theorem serve_hasNext {stream after : σ} {result : Except StreamError Bool}
    (h : hasNext stream = (result, after)) : serve stream .hasNext = (.more result, after) := by
  rw [serve, h]

theorem serve_next {stream after : σ} {result : Except StreamError Entry}
    (h : next stream = (result, after)) : serve stream .next = (.entry result, after) := by
  rw [serve, h]

theorem serve_release {stream after : σ} {result : Except StreamError Unit}
    (h : release stream = (result, after)) : serve stream .release = (.release result, after) := by
  rw [serve, h]

end RowStream
end Resultset
