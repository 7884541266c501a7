import Resultset.Cursor.Error
import Resultset.Extraction

/-! # Cursors

A forward-only, read-only view of the rows of a stream. The cursor keeps the schema that the stream
had at the start, its position, the row it stands on and whether the entry delivered last was a null
row. It also keeps its log, the events in the order in which they happened.
-/

namespace Resultset
set_option autoImplicit false

/-! ## Configuration -/

structure Config where
  /-- The name of the cursor in its log. -/
  label : String
  /-- Whether dropping the cursor closes it. -/
  closeOnDrop : Bool
deriving DecidableEq, Repr

namespace Config

def default : Config := ⟨"cursor", true⟩

instance : Inhabited Config := ⟨default⟩

def withLabel (config : Config) (label : String) : Config := { config with label }

def withCloseOnDrop (config : Config) (closeOnDrop : Bool) : Config := { config with closeOnDrop }

end Config

/-! ## Log -/

inductive Level where
  | trace
  | debug
  | warn
deriving DecidableEq, Repr

inductive Event where
  | opened (columns : Nat)
  | advanced (nullRow : Bool)
  | exhausted
  | closed
  | releaseFailed (cause : StreamError)
deriving DecidableEq, Repr

namespace Event

def level : Event → Level
  | opened _ | exhausted | closed => .debug
  | advanced _ => .trace
  | releaseFailed _ => .warn

def message : Event → String
  | opened _ => "cursor opened"
  | advanced _ => "advanced"
  | exhausted => "result exhausted"
  | closed => "cursor closed"
  | releaseFailed _ => "failed to release row source on drop"

def columns? : Event → Option Nat
  | opened columns => some columns
  | _ => none

def nullRow? : Event → Option Bool
  | advanced nullRow => some nullRow
  | _ => none

/-- The error that the event reports. -/
def error? : Event → Option CursorError
  | releaseFailed cause => some (.stream cause)
  | _ => none

end Event

/-- An event under the label of its cursor. -/
structure LogEntry where
  label : String
  event : Event
deriving DecidableEq, Repr

/-- An entry of the log as it is shown, with the fields that its event has. -/
structure LogLine where
  label : String
  level : Level
  message : String
  columns : Option Nat := none
  nullRow : Option Bool := none
  /-- The text of the error. -/
  error : Option String := none
deriving DecidableEq, Repr

def LogEntry.line (entry : LogEntry) : LogLine where
  label := entry.label
  level := entry.event.level
  message := entry.event.message
  columns := entry.event.columns?
  nullRow := entry.event.nullRow?
  error := entry.event.error?.bind CursorError.message?

/-! ## State -/

inductive Position where
  | beforeFirst
  | onRow
  | afterLast
deriving DecidableEq, Repr

structure Cursor (σ : Type) where
  stream : σ
  converter : Converter
  config : Config
  schema : Schema
  position : Position
  current : Option Row
  /-- Whether the entry delivered last was a null row. -/
  nullRow : Bool
  closed : Bool
  log : List LogEntry

namespace Cursor
variable {σ : Type}

def emit (cursor : Cursor σ) (event : Event) : Cursor σ :=
  { cursor with log := cursor.log ++ [⟨cursor.config.label, event⟩] }

/-- A cursor before the first row of a stream. -/
def start [RowStream σ] (stream : σ) (converter : Converter) (config : Config) : Cursor σ :=
  let schema := RowStream.schema stream
  emit
    { stream, converter, config, schema, position := .beforeFirst, current := none,
      nullRow := false, closed := false, log := [] }
    (.opened schema.size)

end Cursor
end Resultset
