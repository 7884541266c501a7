import Resultset.Schema.ColumnType

/-! # Schemas

The ordered columns of a query result. Names need not be unique, and a look-up by name finds the
first column that has it.
-/

namespace Resultset
set_option autoImplicit false

structure Schema where
  columns : List Column
deriving DecidableEq, Repr

namespace Schema

def empty : Schema := ⟨[]⟩

instance : Inhabited Schema := ⟨empty⟩

/-- The schema with one more column at its end. -/
def add (schema : Schema) (name : String) (type : ColumnType) : Schema :=
  ⟨schema.columns ++ [⟨name, type⟩]⟩

def size (schema : Schema) : Nat := schema.columns.length

def names (schema : Schema) : List String := schema.columns.map (·.name)

/-- The position, from 0, of the first column with this name. -/
def indexOf? (schema : Schema) (name : String) : Option Nat :=
  schema.columns.findIdx? fun column => column.name == name

/-- The type declared at a position, from 0. -/
def typeAt? (schema : Schema) (position : Nat) : Option ColumnType :=
  schema.columns[position]?.map (·.type)

theorem indexOf?_eq_none_iff (schema : Schema) (name : String) :
    schema.indexOf? name = none ↔ name ∉ schema.names := by
  simp [indexOf?, names, List.findIdx?_eq_none_iff]

theorem lt_size_of_indexOf? {schema : Schema} {name : String} {position : Nat}
    (h : schema.indexOf? name = some position) : position < schema.size := by
  rw [indexOf?, List.findIdx?_eq_some_iff_getElem] at h
  exact h.1

end Schema
end Resultset
