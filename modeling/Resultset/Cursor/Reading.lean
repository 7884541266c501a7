import Resultset.Cursor.Look

/-! # Reading a cursor

A reading by index checks, in this order, that the cursor is open, that it stands on a row with
values, that the index lies within the row and, for a decimal, the declared type; then the converter
answers. It makes the first check once more when it has got to the row, since a close may come in
while it waits. A reading by name looks the name up before anything else.
-/

namespace Resultset
set_option autoImplicit false

inductive Getter where
  | scalar (s : Scalar)
  /-- A decimal of the declared precision and scale. -/
  | decimal
  | decimalOfScale (scale : Nat)
  | declined (kind : DeclinedReading)
deriving DecidableEq, Repr

/-- The answer of a reading. A declined reading has none. -/
abbrev Getter.Result : Getter → Type
  | scalar s => s.Result
  | decimal => Option Decimal
  | decimalOfScale _ => Option Decimal
  | declined _ => Empty

/-- Whether a reading needs the row, and so waits for a fetch that is under way. -/
def Getter.waits : Getter → Bool
  | declined _ => false
  | _ => true

/-- A column, by its position from 1 or by its name. -/
inductive ColumnRef where
  | index (i : Int32)
  | name (n : String)
deriving DecidableEq, Repr

namespace Look
variable {σ : Type}

/-! ## Checks -/

def checkOpen : Look σ Unit := do
  if (← get).closed then throw .closed

/-- The row that the cursor stands on, if it has values. -/
def validRow : Look σ Row := do
  let cursor ← get
  match cursor.position, cursor.current with
  | .onRow, some row => if row.arity = 0 then throw (.noCurrentRow .emptyRow) else return row
  | _, _ => throw (.noCurrentRow .notPositioned)

/-- The position, from 0, of a column of the row. -/
def validPosition (row : Row) (index : Int32) : Look σ Nat :=
  if index.toInt ≤ 0 then throw (.nonPositiveIndex index)
  else if row.arity < index.toInt.toNat then throw (.indexOutOfBounds index row.arity)
  else return index.toInt.toNat - 1

def locate (index : Int32) : Look σ (Row × Nat) := do
  checkOpen
  let row ← validRow
  let position ← validPosition row index
  return (row, position)

def declaredDecimal (position : Nat) : Look σ (UInt32 × UInt32) := do
  let cursor ← get
  match cursor.schema.typeAt? position with
  | some type =>
    match type.decimalShape? with
    | some shape => return shape
    | none => throw (.notDecimal (some type))
  | none => throw (.notDecimal none)

/-! ## Readings of the row -/

/-- What an extraction comes to. -/
def ofExtraction {α : Type} (result : Except ExtractionError α) : Look σ α :=
  liftM (result.mapError CursorError.extraction)

def extract (t : Target) (row : Row) (position : Nat) : Look σ t.Result := do
  let cursor ← get
  ofExtraction (cursor.converter.read t row position)

def scalarAt (s : Scalar) (index : Int32) : Look σ s.Result := do
  let (row, position) ← locate index
  extract (.scalar s) row position

def decimalAt (index : Int32) : Look σ (Option Decimal) := do
  let (row, position) ← locate index
  let (precision, scale) ← declaredDecimal position
  extract (.decimal precision.toNat scale.toNat) row position

/-- A decimal reading brought to another scale, with a rounding of its own. -/
def decimalOfScaleAt (scale : Nat) (index : Int32) : Look σ (Option Decimal) := do
  match ← decimalAt index with
  | none => return none
  | some d => ofExtraction ((d.toScale scale).map some)

/-! ## Readings -/

/-- The position, from 1, of the first column with this name. -/
def ordinal (name : String) : Look σ Int32 := do
  let cursor ← get
  match cursor.schema.indexOf? name with
  | some position => return Int32.ofNat position + 1
  | none => throw (.unknownColumn name)

def resolve : ColumnRef → Look σ Int32
  | .index i => return i
  | .name n => ordinal n

/-- What a reading does before it waits for the row. -/
def enter (g : Getter) : Look σ Unit := if g.waits then checkOpen else return ()

/-- What a reading does once it need not wait any longer. A declined one only checks that the cursor
is open. -/
def reach (index : Int32) : (g : Getter) → Look σ g.Result
  | .scalar s => scalarAt s index
  | .decimal => decimalAt index
  | .decimalOfScale scale => decimalOfScaleAt scale index
  | .declined kind => do
    checkOpen
    throw (.declined (.reading kind))

def readAt (index : Int32) (g : Getter) : Look σ g.Result := do
  enter g
  reach index g

def reading (column : ColumnRef) (g : Getter) : Look σ g.Result := do
  let index ← resolve column
  readAt index g

/-! ## State -/

def isClosed : Look σ Bool := return (← get).closed

def isAt (position : Position) : Look σ Bool := return (← get).position == position

def schema : Look σ Schema := return (← get).schema

/-- Whether the entry delivered last was a null row. -/
def wasNull : Look σ Bool := do
  checkOpen
  return (← get).nullRow

/-- Declined, once the cursor is known to be open. -/
def metadata : Look σ Schema := do
  checkOpen
  throw (.declined .metadata)

end Look

/-! ## Readings of one cursor -/

namespace Cursor
variable {σ : Type}

def ordinal (cursor : Cursor σ) (name : String) : Except CursorError Int32 :=
  (Look.ordinal name).answer cursor

def resolve (cursor : Cursor σ) (column : ColumnRef) : Except CursorError Int32 :=
  (Look.resolve column).answer cursor

/-- The answer of a reading by index. -/
def getAt (cursor : Cursor σ) (index : Int32) (g : Getter) : Except CursorError g.Result :=
  (Look.readAt index g).answer cursor

def get (cursor : Cursor σ) (column : ColumnRef) (g : Getter) : Except CursorError g.Result :=
  (Look.reading column g).answer cursor

def wasNull (cursor : Cursor σ) : Except CursorError Bool := Look.wasNull.answer cursor

end Cursor
end Resultset
