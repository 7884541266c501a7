import Resultset.Json
import Resultset.Json.Number

/-! # Shapes of JSON documents

The conventions that the documents of this library share. A record is an object with each of its
fields once and anything else beside them, or an array of exactly its fields in order. A variant is
its name alone or an object of one member, the name with the content.
-/

namespace Resultset.Json
set_option autoImplicit false

/-- How many arrays and objects a document may nest. -/
def maxLevels : Nat := 127

/-- The value of a field that occurs once. -/
def uniqueMember? (members : List (Option String × Json)) (name : String) : Option Json :=
  match members.filter fun member => member.1 == some name with
  | [(_, value)] => some value
  | _ => none

/-- The values of the fields of a record, in the order of the names. -/
def fields? (names : List String) : Json → Option (List Json)
  | array items => if items.length = names.length then some items else none
  | object members =>
    if members.all fun member => member.1.isSome then names.mapM (uniqueMember? members) else none
  | _ => none

/-- The name of a variant, and its content if it has any. -/
def variant? : Json → Option (String × Option Json)
  | string (some name) => some (name, none)
  | object [(some name, content)] => some (name, some content)
  | _ => none

/-- Whether a variant that has no content is well formed with this. -/
def isNoContent : Option Json → Bool
  | none | some null => true
  | _ => false

def items? : Json → Option (List Json)
  | array items => some items
  | _ => none

def text? : Json → Option String
  | string s => s
  | _ => none

def bool? : Json → Option Bool
  | bool b => some b
  | _ => none

def numeral? : Json → Option Numeral
  | number n => some n
  | _ => none

/-- An integer of 64 bits. -/
def integer? (j : Json) : Option Int := j.numeral?.bind Numeral.integer?

/-- A natural number below a bound. -/
def natural? (bound : Nat) (j : Json) : Option Nat :=
  match j.integer? with
  | some (.ofNat n) => if n < bound then some n else none
  | _ => none

end Resultset.Json
