/-! # Declared column types

The type that a query result declares for a column: a plain keyword, a keyword with a length,
`DECIMAL` with its precision and scale, or an array or a row of such types. `ColumnType.text` is its
SQL spelling. The fields of a row type are columns like those of a schema.
-/

namespace Resultset
set_option autoImplicit false

/-! ## Types -/

/-- A type that is a keyword alone. -/
inductive PlainType where
  | boolean
  | tinyInt
  | smallInt
  | integer
  | bigInt
  | float
  | double
  | date
  | time
  | timestamp
deriving DecidableEq, Repr

/-- A type that is a keyword and a length. -/
inductive SizedType where
  | char
  | varchar
  | binary
  | varbinary
deriving DecidableEq, Repr

/-- A name and its type. -/
structure Named (α : Type) where
  name : String
  type : α
deriving DecidableEq, Repr

inductive ColumnType where
  | plain (keyword : PlainType)
  | sized (keyword : SizedType) (length : UInt64)
  | decimal (precision scale : UInt32)
  | array (element : ColumnType)
  | row (fields : List (Named ColumnType))
deriving Repr

abbrev Column := Named ColumnType

/-! ## Equality -/

namespace ColumnType

mutual

def decideEq : (t u : ColumnType) → Decidable (t = u)
  | plain k, plain l => decidable_of_iff (k = l) (by simp)
  | sized k m, sized l n => decidable_of_iff (k = l ∧ m = n) (by simp)
  | decimal p s, decimal q t => decidable_of_iff (p = q ∧ s = t) (by simp)
  | array t, array u => @decidable_of_iff _ (t = u) (by simp) (decideEq t u)
  | row fs, row gs => @decidable_of_iff _ (fs = gs) (by simp) (decideEqFields fs gs)
  | plain _, sized _ _ | plain _, decimal _ _ | plain _, array _ | plain _, row _
  | sized _ _, plain _ | sized _ _, decimal _ _ | sized _ _, array _ | sized _ _, row _
  | decimal _ _, plain _ | decimal _ _, sized _ _ | decimal _ _, array _ | decimal _ _, row _
  | array _, plain _ | array _, sized _ _ | array _, decimal _ _ | array _, row _
  | row _, plain _ | row _, sized _ _ | row _, decimal _ _ | row _, array _ => isFalse nofun
termination_by structural t => t

def decideEqField : (f g : Named ColumnType) → Decidable (f = g)
  | ⟨m, t⟩, ⟨n, u⟩ =>
    @decidable_of_iff _ (m = n ∧ t = u) (by simp) (@instDecidableAnd _ _ _ (decideEq t u))
termination_by structural f => f

def decideEqFields : (fs gs : List (Named ColumnType)) → Decidable (fs = gs)
  | [], [] => isTrue rfl
  | [], _ :: _ | _ :: _, [] => isFalse nofun
  | f :: fs, g :: gs =>
    @decidable_of_iff _ (f = g ∧ fs = gs) (by simp)
      (@instDecidableAnd _ _ (decideEqField f g) (decideEqFields fs gs))
termination_by structural fs => fs

end

instance : DecidableEq ColumnType := decideEq

instance : Inhabited ColumnType := ⟨plain .boolean⟩

/-- Precision and scale of a decimal type. -/
def decimalShape? : ColumnType → Option (UInt32 × UInt32)
  | decimal precision scale => some (precision, scale)
  | _ => none

end ColumnType

/-! ## SQL spelling -/

def PlainType.keyword : PlainType → String
  | .boolean => "BOOLEAN"
  | .tinyInt => "TINYINT"
  | .smallInt => "SMALLINT"
  | .integer => "INT"
  | .bigInt => "BIGINT"
  | .float => "FLOAT"
  | .double => "DOUBLE"
  | .date => "DATE"
  | .time => "TIME"
  | .timestamp => "TIMESTAMP"

def SizedType.keyword : SizedType → String
  | .char => "CHAR"
  | .varchar => "VARCHAR"
  | .binary => "BINARY"
  | .varbinary => "VARBINARY"

namespace ColumnType

mutual

def chars : ColumnType → List Char
  | plain k => k.keyword.toList
  | sized k n => k.keyword.toList ++ '(' :: Nat.toDigits 10 n.toNat ++ [')']
  | decimal p s =>
    "DECIMAL(".toList ++ Nat.toDigits 10 p.toNat ++ ", ".toList ++ Nat.toDigits 10 s.toNat ++ [')']
  | array t => "ARRAY<".toList ++ chars t ++ ['>']
  | row fs => "ROW<".toList ++ fieldsChars fs ++ ['>']
termination_by structural t => t

/-- A field of a row type: its name and its type. -/
def fieldChars : Named ColumnType → List Char
  | ⟨name, t⟩ => name.toList ++ ' ' :: chars t
termination_by structural f => f

def fieldsChars : List (Named ColumnType) → List Char
  | [] => []
  | [f] => fieldChars f
  | f :: g :: fs => fieldChars f ++ ", ".toList ++ fieldsChars (g :: fs)
termination_by structural fs => fs

end

def text (t : ColumnType) : String := String.ofList t.chars

/-- Nested types are spelled out. -/
example : text (row [⟨"a", plain .bigInt⟩, ⟨"b", array (sized .varchar 5)⟩]) =
    "ROW<a BIGINT, b ARRAY<VARCHAR(5)>>" := by decide

end ColumnType
end Resultset
