/-! # JSON documents

The tree of a JSON text, as it is written: numbers keep their digits and objects keep the order and
the repetitions of their members. A string is `none` if its escapes hold half of a surrogate pair,
which no text can stand for; such a string may occur where its content does not matter.
-/

namespace Resultset
set_option autoImplicit false

/-- A number as written: the digits before and after the point, and the exponent if there is one. -/
structure Numeral where
  negative : Bool
  whole : List Char
  fraction : List Char
  exponent : Option Int
deriving DecidableEq, Repr

inductive Json where
  | null
  | bool (b : Bool)
  | number (n : Numeral)
  | string (s : Option String)
  | array (items : List Json)
  | object (members : List (Option String × Json))
deriving Repr

namespace Numeral

/-- An integer in decimal digits. -/
def ofInt (n : Int) : Numeral := ⟨decide (n < 0), Nat.toDigits 10 n.natAbs, [], none⟩

end Numeral

namespace Json

def text (s : String) : Json := string (some s)

def integer (n : Int) : Json := number (.ofInt n)

/-- An object whose names are texts. -/
def record (members : List (String × Json)) : Json :=
  object (members.map fun member => (some member.1, member.2))

end Json
end Resultset
