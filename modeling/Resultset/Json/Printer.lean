import Resultset.Json
import Resultset.Integer.Text

/-! # Writing JSON

The compact form: no blanks, and in strings only the escapes that JSON asks for, by their short
names where they have one. Half of a surrogate pair is written as an escape.
-/

namespace Resultset
set_option autoImplicit false

def Numeral.exponentChars : Option Int → List Char
  | none => []
  | some n => 'e' :: (if n < 0 then '-' else '+') :: Nat.toDigits 10 n.natAbs

def Numeral.chars (n : Numeral) : List Char :=
  (if n.negative then ['-'] else []) ++ n.whole ++
    (if n.fraction.isEmpty then [] else '.' :: n.fraction) ++ exponentChars n.exponent

namespace Json

/-- A character within a string. -/
def escape (c : Char) : List Char :=
  if c = '"' then ['\\', '"']
  else if c = '\\' then ['\\', '\\']
  else if c = '\n' then ['\\', 'n']
  else if c = '\r' then ['\\', 'r']
  else if c = '\t' then ['\\', 't']
  else if c = '\x08' then ['\\', 'b']
  else if c = '\x0c' then ['\\', 'f']
  else if c.toNat < 0x20 then
    ['\\', 'u', '0', '0', (c.toNat / 16).digitChar, (c.toNat % 16).digitChar]
  else [c]

/-- The escape of the first half of a surrogate pair. -/
def halfPair : List Char := ['\\', 'u', 'd', '8', '0', '0']

def stringChars (s : Option String) : List Char :=
  '"' :: (match s with
    | some s => s.toList.flatMap escape
    | none => halfPair) ++ ['"']

mutual

def chars : Json → List Char
  | null => "null".toList
  | bool b => if b then "true".toList else "false".toList
  | number n => n.chars
  | string s => stringChars s
  | array items => '[' :: itemsChars items ++ [']']
  | object members => '\x7b' :: membersChars members ++ ['\x7d']
termination_by structural j => j

def itemsChars : List Json → List Char
  | [] => []
  | [item] => chars item
  | item :: next :: items => chars item ++ ',' :: itemsChars (next :: items)
termination_by structural items => items

def memberChars : Option String × Json → List Char
  | (key, value) => stringChars key ++ ':' :: chars value
termination_by structural member => member

def membersChars : List (Option String × Json) → List Char
  | [] => []
  | [member] => memberChars member
  | member :: next :: members => memberChars member ++ ',' :: membersChars (next :: members)
termination_by structural members => members

end

/-- The compact text of a document. -/
def render (j : Json) : String := String.ofList j.chars

example : render (array [integer (-5), text "a\"\n\x01", record [("k", null)]]) =
    "[-5,\"a\\\"\\n\\u0001\",\x7b\"k\":null\x7d]" := by decide

end Json
end Resultset
