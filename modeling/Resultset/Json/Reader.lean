import Resultset.Json
import Resultset.Text.Hex
import Resultset.Text.Numeral

/-! # Reading JSON

The strict grammar: four blank characters, no trailing commas, no leading zeros, no bare control
characters in strings, nothing after the document. Every function takes what it reads off the front
of the text and answers with the rest of it. The nesting has no limit here.
-/

namespace Resultset.Json
set_option autoImplicit false

def isBlank (c : Char) : Bool := c == ' ' || c == '\n' || c == '\t' || c == '\r'

def skipBlanks (text : List Char) : List Char := text.dropWhile isBlank

/-- The rest of the text behind a word. -/
def afterWord? : (word text : List Char) → Option (List Char)
  | [], text => some text
  | _ :: _, [] => none
  | w :: word, c :: text => if w = c then afterWord? word text else none

/-! ## Strings -/

/-- A part of a string: a character, or a 16-bit unit written as an escape. -/
inductive Piece where
  | char (c : Char)
  | unit (n : Nat)
deriving DecidableEq, Repr

def shortEscape? : Char → Option Char
  | '"' => some '"'
  | '\\' => some '\\'
  | '/' => some '/'
  | 'b' => some '\x08'
  | 'f' => some '\x0c'
  | 'n' => some '\n'
  | 'r' => some '\r'
  | 't' => some '\t'
  | _ => none

/-- The value of a hexadecimal digit of either case. -/
def hexDigit? (c : Char) : Option Nat := Text.Hex.digitValue? c.toLower

def unit? (a b c d : Char) : Option Nat := do
  let a ← hexDigit? a
  let b ← hexDigit? b
  let c ← hexDigit? c
  let d ← hexDigit? d
  return ((a * 16 + b) * 16 + c) * 16 + d

/-- The parts of a string up to its closing quote. -/
def pieces? : List Char → Option (List Piece × List Char)
  | [] => none
  | '"' :: rest => some ([], rest)
  | '\\' :: 'u' :: a :: b :: c :: d :: rest =>
    match unit? a b c d, pieces? rest with
    | some n, some (pieces, rest) => some (.unit n :: pieces, rest)
    | _, _ => none
  | '\\' :: e :: rest =>
    match shortEscape? e, pieces? rest with
    | some c, some (pieces, rest) => some (.char c :: pieces, rest)
    | _, _ => none
  | c :: rest =>
    if c = '\\' ∨ c.toNat < 0x20 then none
    else
      match pieces? rest with
      | some (pieces, rest) => some (.char c :: pieces, rest)
      | none => none

def isHighHalf (n : Nat) : Bool := 0xD800 ≤ n && n < 0xDC00
def isLowHalf (n : Nat) : Bool := 0xDC00 ≤ n && n < 0xE000

/-- The text that the parts make up, if every surrogate half among them has its other half. -/
def assemble? : List Piece → Option (List Char)
  | [] => some []
  | .char c :: pieces => (assemble? pieces).map (c :: ·)
  | .unit n :: pieces =>
    if isHighHalf n then
      match pieces with
      | .unit m :: pieces =>
        if isLowHalf m then
          (assemble? pieces).map (Char.ofNat (0x10000 + (n - 0xD800) * 0x400 + (m - 0xDC00)) :: ·)
        else none
      | _ => none
    else if isLowHalf n then none
    else (assemble? pieces).map (Char.ofNat n :: ·)

/-- A string whose opening quote has been taken off. -/
def readString? (text : List Char) : Option (Option String × List Char) :=
  (pieces? text).map fun (pieces, rest) => ((assemble? pieces).map String.ofList, rest)

/-! ## Numbers -/

def spanDigits (text : List Char) : List Char × List Char :=
  (text.takeWhile Char.isDigit, text.dropWhile Char.isDigit)

def readFraction? : List Char → Option (List Char × List Char)
  | '.' :: text =>
    let (digits, rest) := spanDigits text
    if digits.isEmpty then none else some (digits, rest)
  | text => some ([], text)

def readExponent? : List Char → Option (Option Int × List Char)
  | c :: text =>
    if c = 'e' ∨ c = 'E' then
      let (negative, text) := Text.splitSign text
      let (digits, rest) := spanDigits text
      let n : Int := Nat.ofDigitChars 10 digits 0
      if digits.isEmpty then none else some (some (if negative then -n else n), rest)
    else some (none, c :: text)
  | [] => some (none, [])

def hasLeadingZero : List Char → Bool
  | '0' :: _ :: _ => true
  | _ => false

def readNumeral? (text : List Char) : Option (Numeral × List Char) := do
  let (negative, text) := match text with
    | '-' :: rest => (true, rest)
    | _ => (false, text)
  let (whole, text) := spanDigits text
  if whole.isEmpty || hasLeadingZero whole then none
  else
    let (fraction, text) ← readFraction? text
    let (exponent, text) ← readExponent? text
    return (⟨negative, whole, fraction, exponent⟩, text)

/-! ## Documents -/

mutual

/-- A value with blanks in front of it. -/
def readValue? : (fuel : Nat) → List Char → Option (Json × List Char)
  | 0, _ => none
  | fuel + 1, text =>
    match skipBlanks text with
    | [] => none
    | '"' :: rest => (readString? rest).map fun (s, rest) => (.string s, rest)
    | '[' :: rest =>
      match skipBlanks rest with
      | ']' :: rest => some (.array [], rest)
      | _ => (readItems? fuel rest).map fun (items, rest) => (.array items, rest)
    | '\x7b' :: rest =>
      match skipBlanks rest with
      | '\x7d' :: rest => some (.object [], rest)
      | _ => (readMembers? fuel rest).map fun (members, rest) => (.object members, rest)
    | c :: rest =>
      if c = 'n' then (afterWord? "ull".toList rest).map fun rest => (.null, rest)
      else if c = 't' then (afterWord? "rue".toList rest).map fun rest => (.bool true, rest)
      else if c = 'f' then (afterWord? "alse".toList rest).map fun rest => (.bool false, rest)
      else (readNumeral? (c :: rest)).map fun (n, rest) => (.number n, rest)
termination_by structural fuel => fuel

/-- The items of an array from one item to the closing bracket. -/
def readItems? : (fuel : Nat) → List Char → Option (List Json × List Char)
  | 0, _ => none
  | fuel + 1, text =>
    match readValue? fuel text with
    | none => none
    | some (item, rest) =>
      match skipBlanks rest with
      | ',' :: rest => (readItems? fuel rest).map fun (items, rest) => (item :: items, rest)
      | ']' :: rest => some ([item], rest)
      | _ => none
termination_by structural fuel => fuel

/-- The members of an object from one member to the closing brace. -/
def readMembers? : (fuel : Nat) → List Char → Option (List (Option String × Json) × List Char)
  | 0, _ => none
  | fuel + 1, text =>
    match skipBlanks text with
    | '"' :: text =>
      match readString? text with
      | none => none
      | some (key, rest) =>
        match skipBlanks rest with
        | ':' :: rest =>
          match readValue? fuel rest with
          | none => none
          | some (value, rest) =>
            match skipBlanks rest with
            | ',' :: rest =>
              (readMembers? fuel rest).map fun (members, rest) => ((key, value) :: members, rest)
            | '\x7d' :: rest => some ([(key, value)], rest)
            | _ => none
        | _ => none
    | _ => none
termination_by structural fuel => fuel

end

/-- The document that the text is. Two units of fuel for each character are more than enough: a
value takes one and a list of items or members takes one for each of them, and both use up
characters. -/
def parse? (text : List Char) : Option Json :=
  match readValue? (2 * text.length + 2) text with
  | some (j, rest) => if (skipBlanks rest).isEmpty then some j else none
  | none => none

end Resultset.Json
