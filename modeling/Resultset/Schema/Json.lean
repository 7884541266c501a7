import Resultset.Json.Printer
import Resultset.Json.Reader
import Resultset.Json.Shape
import Resultset.Schema

/-! # Schemas as JSON

A type is a variant: its keyword alone, or its keyword with a length, with the precision and the
scale, with the element type or with the fields. Columns and schemas are records. Reading keeps
count of the arrays and objects that it is inside of and goes `Json.maxLevels` deep.
-/

namespace Resultset
set_option autoImplicit false

def PlainType.tag : PlainType → String
  | boolean => "Boolean"
  | tinyInt => "TinyInt"
  | smallInt => "SmallInt"
  | integer => "Integer"
  | bigInt => "BigInt"
  | float => "Float"
  | double => "Double"
  | date => "Date"
  | time => "Time"
  | timestamp => "Timestamp"

def PlainType.all : List PlainType :=
  [boolean, tinyInt, smallInt, integer, bigInt, float, double, date, time, timestamp]

def PlainType.ofTag? (tag : String) : Option PlainType := all.find? fun k => k.tag == tag

def SizedType.tag : SizedType → String
  | char => "Char"
  | varchar => "Varchar"
  | binary => "Binary"
  | varbinary => "Varbinary"

def SizedType.all : List SizedType := [char, varchar, binary, varbinary]

def SizedType.ofTag? (tag : String) : Option SizedType := all.find? fun k => k.tag == tag

theorem PlainType.ofTag?_tag (k : PlainType) : ofTag? k.tag = some k := by
  cases k <;> decide

theorem SizedType.ofTag?_tag (k : SizedType) : ofTag? k.tag = some k := by
  cases k <;> decide

namespace ColumnType

/-! ## Writing -/

mutual

def toJson : ColumnType → Json
  | plain k => .text k.tag
  | sized k n => .record [(k.tag, .integer n.toNat)]
  | decimal p s =>
    .record [("Decimal", .record [("precision", .integer p.toNat), ("scale", .integer s.toNat)])]
  | array t => .record [("Array", toJson t)]
  | row fs => .record [("Row", .array (fieldsToJson fs))]
termination_by structural t => t

def fieldToJson : Named ColumnType → Json
  | ⟨name, t⟩ => .record [("name", .text name), ("data_type", toJson t)]
termination_by structural f => f

def fieldsToJson : List (Named ColumnType) → List Json
  | [] => []
  | f :: fs => fieldToJson f :: fieldsToJson fs
termination_by structural fs => fs

end

/-! ## Reading -/

/-- The type of a variant whose content nests no type. -/
def flatOfVariant? (tag : String) (content : Json) : Option ColumnType :=
  if tag = "Decimal" then
    match content.fields? ["precision", "scale"] with
    | some [precision, scale] => do
      let p ← precision.natural? (2 ^ (32 : Nat))
      let s ← scale.natural? (2 ^ (32 : Nat))
      return decimal (.ofNat p) (.ofNat s)
    | _ => none
  else
    match SizedType.ofTag? tag with
    | some k => (content.natural? (2 ^ (64 : Nat))).map fun n => sized k (.ofNat n)
    | none =>
      if Json.isNoContent (some content) then (PlainType.ofTag? tag).map plain else none

mutual

/-- The type that a document stands for, if it nests at most `levels` deep. -/
def ofJson? : (levels : Nat) → Json → Option ColumnType
  | 0, j =>
    match j.variant? with
    | some (tag, none) => (PlainType.ofTag? tag).map plain
    | _ => none
  | levels + 1, j =>
    match j.variant? with
    | some (tag, none) => (PlainType.ofTag? tag).map plain
    | some (tag, some content) =>
      if tag = "Array" then (ofJson? levels content).map array
      else if tag = "Row" then
        match levels, content.items? with
        | levels + 1, some items => (items.mapM fun item => fieldOfJson? levels item).map row
        | _, _ => none
      else if tag = "Decimal" ∧ levels = 0 then none
      else flatOfVariant? tag content
    | none => none
termination_by structural levels => levels

/-- The column that a document stands for, if it nests at most `levels` deep. -/
def fieldOfJson? : (levels : Nat) → Json → Option (Named ColumnType)
  | 0, _ => none
  | levels + 1, j =>
    match j.fields? ["name", "data_type"] with
    | some [name, type] =>
      match name.text?, ofJson? levels type with
      | some name, some type => some ⟨name, type⟩
      | _, _ => none
    | _ => none
termination_by structural levels => levels

end

/-- The type that a JSON text stands for. -/
def parse? (text : String) : Option ColumnType :=
  (Json.parse? text.toList).bind (ofJson? Json.maxLevels)

end ColumnType

namespace Schema

def toJson (schema : Schema) : Json :=
  .record [("columns", .array (ColumnType.fieldsToJson schema.columns))]

/-- The schema that a document stands for. Its record and the list of its columns are two levels. -/
def ofJson? (j : Json) : Option Schema :=
  match j.fields? ["columns"] with
  | some [columns] =>
    match columns.items? with
    | some items => (items.mapM (ColumnType.fieldOfJson? (Json.maxLevels - 2))).map Schema.mk
    | none => none
  | _ => none

/-- The schema that a JSON text stands for. -/
def parse? (text : String) : Option Schema := (Json.parse? text.toList).bind ofJson?

end Schema
end Resultset
