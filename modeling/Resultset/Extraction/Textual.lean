import Resultset.Extraction.Error
import Resultset.Text.Blank

/-! # Textual extraction

Reads a value through its text: string targets take the text as it is, every other target takes what
the text denotes once the blank characters around it are gone. A binary value answers a binary
target with its own bytes.
-/

namespace Resultset.Textual
set_option autoImplicit false

/-- The value's text without the blanks around it. -/
def trimmed (v : Value) : List Char := Text.trim v.chars

def boolean (v : Value) : Except ExtractionError Bool :=
  let word := (trimmed v).map Char.toLower
  if word = "true".toList then .ok true
  else if word = "false".toList then .ok false
  else .error (.unreadable v.text (.scalar .boolean) .notBoolean)

def integer (w : IntWidth) (v : Value) : Except ExtractionError w.Number :=
  (Integer.readNumber w (trimmed v)).mapError fun e =>
    .unreadable v.text (.scalar (.integer w)) (.notInteger e)

def float (v : Value) : Except ExtractionError Float32 :=
  (Floating.readSingle (trimmed v)).mapError fun e =>
    .unreadable v.text (.scalar .float) (.notFloating e)

def double (v : Value) : Except ExtractionError Float :=
  (Floating.readDouble (trimmed v)).mapError fun e =>
    .unreadable v.text (.scalar .double) (.notFloating e)

def binary : Value → List UInt8
  | .binary bytes => bytes
  | v => v.text.toUTF8.toList

def decimal (precision scale : Nat) (v : Value) : Except ExtractionError (Option Decimal) :=
  match Decimal.readAny (trimmed v) with
  | .ok d => (d.fit precision scale).map some
  | .error e => .error (.unreadable v.text (.decimal precision scale) (.notDecimal e))

/-- The answer of a value that is not NULL. -/
def ofValue : (t : Target) → Value → Except ExtractionError t.Result
  | .scalar .string, v => .ok (some v.text)
  | .scalar .boolean, v => boolean v
  | .scalar (.integer w), v => integer w v
  | .scalar .float, v => float v
  | .scalar .double, v => double v
  | .scalar .binary, v => .ok (some (binary v))
  | .decimal precision scale, v => decimal precision scale v

end Resultset.Textual
