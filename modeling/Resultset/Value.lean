import Resultset.Decimal.Text
import Resultset.Floating.Text
import Resultset.Integer.Text
import Resultset.Text.Hex

/-! # Column values

A value of a result row, with its equality, its type name and its text. Equality tells the integer
widths apart, and compares decimals as numbers and floating-point numbers as IEEE 754 does.
-/

namespace Resultset
set_option autoImplicit false

inductive Value where
  | null
  | boolean (b : Bool)
  | integer (w : IntWidth) (n : w.Number)
  | float (x : Float32)
  | double (x : Float)
  | decimal (d : Decimal)
  | string (s : String)
  | binary (bytes : List UInt8)

namespace Value

instance : Inhabited Value := ⟨null⟩

def isNull : Value → Bool
  | null => true
  | _ => false

/-- The name of the value's type in messages. -/
def typeName : Value → String
  | null => "NULL"
  | boolean _ => "BOOLEAN"
  | integer w _ => w.name
  | float _ => "FLOAT"
  | double _ => "DOUBLE"
  | decimal _ => "DECIMAL"
  | string _ => "STRING"
  | binary _ => "BINARY"

/-- The integer of a value of any integer width. -/
def integer? : Value → Option Int
  | integer _ n => some n.val
  | _ => none

/-- Whether two values have one type and equal content. A NaN equals nothing. -/
def same : Value → Value → Bool
  | null, null => true
  | boolean a, boolean b => a == b
  | integer v m, integer w n => v == w && m.val == n.val
  | float x, float y => x == y
  | double x, double y => x == y
  | decimal a, decimal b => a.sameNumber b
  | string s, string t => s == t
  | binary a, binary b => a == b
  | _, _ => false

/-- The text that a message and a textual reading see. -/
def chars : Value → List Char
  | null => "NULL".toList
  | boolean b => if b then "true".toList else "false".toList
  | integer _ n => Integer.chars n.val
  | float x => Floating.chars (decodeSingle x)
  | double x => Floating.chars (decodeDouble x)
  | decimal d => d.chars
  | string s => s.toList
  | binary bytes => Text.Hex.encode bytes

def text (v : Value) : String := String.ofList v.chars

theorem isNull_iff {v : Value} : v.isNull = true ↔ v = null := by
  cases v <;> simp [isNull]

theorem text_string (s : String) : (string s).text = s := by
  simp [text, chars]

theorem integer?_integer (w : IntWidth) (n : w.Number) : (integer w n).integer? = some n.val := rfl

end Value
end Resultset
