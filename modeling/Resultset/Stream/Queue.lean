import Resultset.Stream

/-! # Row queues

A row stream over entries that are all at hand. They leave in order, a null row like any other
entry, and what is left is dropped by the first release. After that only the schema is answered.
-/

namespace Resultset
set_option autoImplicit false

structure RowQueue where
  schema : Schema
  entries : List Entry
  released : Bool
  /-- How many releases had an effect. -/
  releases : Nat
deriving Inhabited

namespace RowQueue

def of (schema : Schema) (entries : List Entry) : RowQueue := ⟨schema, entries, false, 0⟩

/-- How many entries are left. -/
def remaining (queue : RowQueue) : Nat := queue.entries.length

def noMoreRows : StreamError := .other "no more rows"

def hasNext (queue : RowQueue) : Except StreamError Bool × RowQueue :=
  if queue.released then (.error .released, queue) else (.ok !queue.entries.isEmpty, queue)

def next (queue : RowQueue) : Except StreamError Entry × RowQueue :=
  if queue.released then (.error .released, queue)
  else
    match queue.entries with
    | [] => (.error noMoreRows, queue)
    | entry :: rest => (.ok entry, { queue with entries := rest })

def release (queue : RowQueue) : Except StreamError Unit × RowQueue :=
  if queue.released then (.ok (), queue)
  else (.ok (), { queue with released := true, entries := [], releases := queue.releases + 1 })

instance : RowStream RowQueue := ⟨hasNext, next, release, schema⟩

/-! ## Laws -/

section
variable {queue : RowQueue}

theorem hasNext_of_released (h : queue.released = true) :
    queue.hasNext = (.error .released, queue) := if_pos h

theorem hasNext_of_live (h : queue.released = false) :
    queue.hasNext = (.ok !queue.entries.isEmpty, queue) := if_neg (by simp [h])

theorem next_of_released (h : queue.released = true) :
    queue.next = (.error .released, queue) := if_pos h

theorem next_of_nil (h : queue.released = false) (hentries : queue.entries = []) :
    queue.next = (.error noMoreRows, queue) := by
  rw [next, if_neg (by simp [h]), hentries]

theorem next_of_cons {entry : Entry} {rest : List Entry} (h : queue.released = false)
    (hentries : queue.entries = entry :: rest) :
    queue.next = (.ok entry, { queue with entries := rest }) := by
  rw [next, if_neg (by simp [h]), hentries]

theorem release_of_released (h : queue.released = true) :
    queue.release = (.ok (), queue) := if_pos h

theorem release_of_live (h : queue.released = false) :
    queue.release = (.ok (),
      { queue with released := true, entries := [], releases := queue.releases + 1 }) :=
  if_neg (by simp [h])

end

end RowQueue
end Resultset
