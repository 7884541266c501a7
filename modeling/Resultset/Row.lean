import Resultset.Value

/-! # Rows

A row is the list of its values. What a row source delivers is a row or a marker for a null row, an
`Entry`.
-/

namespace Resultset
set_option autoImplicit false

structure Row where
  values : List Value
deriving Inhabited

namespace Row

/-- How many values the row has. -/
def arity (row : Row) : Nat := row.values.length

/-- The value at a position, from 0. -/
def get? (row : Row) (position : Nat) : Option Value := row.values[position]?

/-- Whether two rows have equal values, position by position. -/
def same (a b : Row) : Bool :=
  a.arity == b.arity && (a.values.zip b.values).all fun pair => pair.1.same pair.2

theorem get?_eq_none_iff (row : Row) (position : Nat) :
    row.get? position = none ↔ row.arity ≤ position := by
  simp [get?, arity]

end Row

/-- A row, or `none` for a null row. -/
abbrev Entry := Option Row

end Resultset
