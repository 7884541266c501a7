import Resultset.Extraction.Error
import Resultset.Schema
import Resultset.Stream

/-! # Cursor errors

Everything that a cursor call can fail with, the text of each cause, and the features that a cursor
declines.
-/

namespace Resultset
set_option autoImplicit false

/-! ## Declined features -/

/-- A kind of reading that is declined. -/
inductive DeclinedReading where
  | date
  | time
  | timestamp
  | dateInZone
  | timeInZone
  | timestampInZone
  | object
  | array
deriving DecidableEq, Repr

inductive Feature where
  | reading (kind : DeclinedReading)
  | metadata
deriving DecidableEq, Repr

def DeclinedReading.name : DeclinedReading → String
  | date => "get_date"
  | time => "get_time"
  | timestamp => "get_timestamp"
  | dateInZone => "get_date_in_zone"
  | timeInZone => "get_time_in_zone"
  | timestampInZone => "get_timestamp_in_zone"
  | object => "get_object"
  | array => "get_array"

def Feature.name : Feature → String
  | reading kind => kind.name
  | metadata => "metadata"

def Feature.planned : Feature → Bool
  | reading .date | reading .time | reading .timestamp => true
  | _ => false

/-! ## Errors -/

inductive NoRow where
  | notPositioned
  | emptyRow
deriving DecidableEq, Repr

def NoRow.message : NoRow → String
  | notPositioned => "cursor is not positioned on a row"
  | emptyRow => "empty row with no data"

inductive CursorError where
  | closed
  | noCurrentRow (reason : NoRow)
  | nonPositiveIndex (index : Int32)
  | indexOutOfBounds (index : Int32) (count : Nat)
  | unknownColumn (name : String)
  /-- A decimal was asked of a column that is not declared as one, or not declared at all. -/
  | notDecimal (declared : Option ColumnType)
  | extraction (cause : ExtractionError)
  | declined (feature : Feature)
  | stream (cause : StreamError)
deriving DecidableEq

namespace CursorError

def isIndexError : CursorError → Bool
  | nonPositiveIndex _ | indexOutOfBounds _ _ => true
  | _ => false

/-- The text of the error that this one wraps. -/
def cause? : CursorError → Option String
  | extraction cause => cause.message?
  | stream cause => some cause.message
  | _ => none

/-- The text of the error, if it can be shown: see `ExtractionError.message?`. -/
def message? : CursorError → Option String
  | closed => some "This result set is already closed"
  | noCurrentRow reason => some ("Not on a valid row: " ++ reason.message)
  | nonPositiveIndex index =>
    some ("Column index[" ++ Integer.text index.toInt ++ "] must be positive")
  | indexOutOfBounds index count =>
    some ("Column index " ++ Integer.text index.toInt ++
      s!" out of bound. There are only {count} columns")
  | unknownColumn name => some s!"Column[{name}] does not exist"
  | notDecimal declared =>
    some ("Invalid data type, expect DECIMAL but was " ++
      match declared with
      | some type => type.text
      | none => "undeclared")
  | extraction cause => cause.message?.map ("Data extraction failed: " ++ ·)
  | declined feature =>
    some (feature.name ++ if feature.planned then " is not supported yet" else " is not supported")
  | stream cause => some ("Row source error: " ++ cause.message)

end CursorError
end Resultset
