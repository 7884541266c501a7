import Resultset.Stream

/-! # Row streams with scripted faults

A `Faulty` stream counts the calls that it sees and fails those that its script names, without
passing them on. Calls are numbered from 1 for each kind of call apart.
-/

namespace Resultset
set_option autoImplicit false

/-- The calls that can fail. -/
inductive Call where
  | hasNext
  | next
  | release
deriving DecidableEq, Repr

/-- A call that is to fail: the `nth` of its kind, or every one if `nth` is 0. -/
structure Fault where
  call : Call
  nth : Nat
  error : StreamError
deriving DecidableEq, Repr

/-- Whether the fault hits the call with this number. -/
def Fault.hits (fault : Fault) (call : Call) (number : Nat) : Bool :=
  fault.call == call && (fault.nth == number || fault.nth == 0)

/-- How many calls of each kind there were, failed ones included. -/
structure Calls where
  hasNext : Nat
  next : Nat
  release : Nat
deriving DecidableEq, Repr

def Calls.none : Calls := ⟨0, 0, 0⟩

def Calls.count (calls : Calls) : Call → Nat
  | .hasNext => calls.hasNext
  | .next => calls.next
  | .release => calls.release

/-- One more call. -/
def Calls.add (calls : Calls) : Call → Calls
  | .hasNext => { calls with hasNext := calls.hasNext + 1 }
  | .next => { calls with next := calls.next + 1 }
  | .release => { calls with release := calls.release + 1 }

structure Faulty (σ : Type) where
  stream : σ
  script : List Fault
  calls : Calls

namespace Faulty
variable {σ : Type}

def of (stream : σ) (script : List Fault) : Faulty σ := ⟨stream, script, .none⟩

/-- The error of the first fault that hits the next call of a kind. -/
def fault? (faulty : Faulty σ) (call : Call) : Option StreamError :=
  (faulty.script.find? (·.hits call (faulty.calls.count call + 1))).map (·.error)

/-- Counts a call and makes it, unless it is to fail. -/
def attempt {α : Type} (faulty : Faulty σ) (call : Call)
    (make : σ → Except StreamError α × σ) : Except StreamError α × Faulty σ :=
  let calls := faulty.calls.add call
  match faulty.fault? call with
  | some e => (.error e, { faulty with calls })
  | none =>
    let (result, stream) := make faulty.stream
    (result, { faulty with stream, calls })

instance [RowStream σ] : RowStream (Faulty σ) where
  hasNext faulty := faulty.attempt .hasNext RowStream.hasNext
  next faulty := faulty.attempt .next RowStream.next
  release faulty := faulty.attempt .release RowStream.release
  schema faulty := RowStream.schema faulty.stream

theorem calls_attempt {α : Type} (faulty : Faulty σ) (call : Call)
    (make : σ → Except StreamError α × σ) :
    (faulty.attempt call make).2.calls = faulty.calls.add call := by
  unfold attempt
  split <;> rfl

end Faulty
end Resultset
