import Resultset.Decimal.Reader
import Resultset.Json.Printer
import Resultset.Json.Reader
import Resultset.Json.Shape
import Resultset.Value

/-! # Values as JSON

A value is a variant named for its type. Decimals are written as strings and read from strings and
numbers, bytes are lists of numbers, and what has no number in JSON is null.
-/

namespace Resultset
set_option autoImplicit false

def IntWidth.tag : IntWidth → String
  | tiny => "TinyInt"
  | small => "SmallInt"
  | int => "Int"
  | big => "BigInt"

def IntWidth.all : List IntWidth := [tiny, small, int, big]

def IntWidth.ofTag? (tag : String) : Option IntWidth := all.find? fun w => w.tag == tag

theorem IntWidth.ofTag?_tag (w : IntWidth) : ofTag? w.tag = some w := by
  cases w <;> decide

namespace Decimal

/-- The decimal that a string, an integer or any other number stands for. The last is read from the
text of its double. -/
def ofJson? (j : Json) : Option Decimal :=
  match j with
  | .string (some s) => (readAny s.toList).toOption
  | .number n =>
    match n.integer? with
    | some i => of? (decide (i < 0)) i.natAbs 0
    | none => n.scaledDouble?.bind fun f => (read (Floating.chars (decodeDouble f))).toOption
  | _ => none

end Decimal

namespace Value

def toJson : Value → Json
  | null => .text "Null"
  | boolean b => .record [("Boolean", .bool b)]
  | integer w n => .record [(w.tag, .integer n.val)]
  | float x => .record [("Float", .ofSingle x)]
  | double x => .record [("Double", .ofDouble x)]
  | decimal d => .record [("Decimal", .text d.text)]
  | string s => .record [("String", .text s)]
  | binary bytes => .record [("Binary", .array (bytes.map fun byte => .integer byte.toNat))]

/-- The value of a variant with content. -/
def ofVariant? (tag : String) (content : Json) : Option Value :=
  match IntWidth.ofTag? tag with
  | some w => (content.integer?.bind w.number?).map (integer w)
  | none =>
    match tag with
    | "Null" => if Json.isNoContent (some content) then some null else none
    | "Boolean" => content.bool?.map boolean
    | "Float" => (content.numeral?.bind Numeral.single?).map float
    | "Double" => (content.numeral?.bind Numeral.double?).map double
    | "Decimal" => (Decimal.ofJson? content).map decimal
    | "String" => content.text?.map string
    | "Binary" => do
      let items ← content.items?
      let bytes ← items.mapM (Json.natural? (2 ^ (8 : Nat)))
      return binary (bytes.map UInt8.ofNat)
    | _ => none

/-- The value that a document stands for. -/
def ofJson? (j : Json) : Option Value :=
  match j.variant? with
  | some ("Null", none) => some null
  | some (tag, some content) => ofVariant? tag content
  | _ => none

/-- The value that a JSON text stands for. -/
def parse? (text : String) : Option Value := (Json.parse? text.toList).bind ofJson?

end Value
end Resultset
