import Resultset.Extraction.Textual
import Resultset.Extraction.Typed
import Resultset.Row

/-! # Extraction

A `Converter` answers a target from a value, or from a row and a position. The two converters agree
on NULL and on positions past the row, and differ in how they look at a value.
-/

namespace Resultset
set_option autoImplicit false

inductive Converter where
  /-- Reads values as what they are. -/
  | typed
  /-- Reads values through their text. -/
  | textual
deriving DecidableEq, Repr

namespace Converter

/-- The answer of a value. -/
def convert (converter : Converter) (t : Target) (v : Value) : Except ExtractionError t.Result :=
  if v.isNull then .ok t.whenNull
  else
    match converter with
    | typed => Typed.ofValue t v
    | textual => Textual.ofValue t v

/-- The answer of the value at a position, from 0. -/
def read (converter : Converter) (t : Target) (row : Row) (position : Nat) :
    Except ExtractionError t.Result :=
  match row.get? position with
  | some v => converter.convert t v
  | none => .error (.noValue position)

theorem convert_null (converter : Converter) (t : Target) :
    converter.convert t .null = .ok t.whenNull := rfl

theorem typed_convert {v : Value} (hv : v ≠ .null) (t : Target) :
    typed.convert t v = Typed.ofValue t v := if_neg (mt Value.isNull_iff.mp hv)

theorem textual_convert {v : Value} (hv : v ≠ .null) (t : Target) :
    textual.convert t v = Textual.ofValue t v := if_neg (mt Value.isNull_iff.mp hv)

theorem read_of_some {row : Row} {position : Nat} {v : Value} (h : row.get? position = some v)
    (converter : Converter) (t : Target) :
    converter.read t row position = converter.convert t v := by
  rw [read, h]

theorem read_of_arity_le {converter : Converter} {t : Target} {row : Row} {position : Nat}
    (h : row.arity ≤ position) : converter.read t row position = .error (.noValue position) := by
  rw [read, (row.get?_eq_none_iff position).2 h]

end Converter
end Resultset
