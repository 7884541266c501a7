import Resultset.Json.Printer
import Resultset.Json.Reader
import Resultset.Proofs.Numerals

/-! # Documents read back from their text

A document is read back from its compact text (`parse?_chars`), if its numerals are those that JSON
writes (`Json.WellFormed`). Strings are read back character by character, as each escape is read as
one part of the string. A numeral ends where no character of a numeral follows (`Ends`), and a
bracket, a brace or a comma follows each part of a document. The fuel of the reader is bounded by the
length of the text.
-/

namespace Resultset.Json
set_option autoImplicit false

/-! ## Strings -/

/-- Puts a part in front of the parts that a text starts with. -/
def prepend (piece : Piece) : List Piece × List Char → List Piece × List Char
  | (pieces, rest) => (piece :: pieces, rest)

theorem pieces?_short {e c : Char} (he : shortEscape? e = some c) (text : List Char) :
    pieces? ('\\' :: e :: text) = (pieces? text).map (prepend (.char c)) := by
  have hu : e ≠ 'u' := by
    rintro rfl
    exact absurd he nofun
  rw [pieces?, he]
  · cases pieces? text <;> rfl
  · intro a b c d rest h
    exact absurd h hu

theorem pieces?_unit {a b c d : Char} {n : Nat} (h : unit? a b c d = some n) (text : List Char) :
    pieces? ('\\' :: 'u' :: a :: b :: c :: d :: text) =
      (pieces? text).map (prepend (.unit n)) := by
  rw [pieces?]
  rw [h]
  cases pieces? text <;> rfl

theorem pieces?_plain {c : Char} (hquote : c ≠ '"') (hslash : c ≠ '\\') (hcontrol : 0x20 ≤ c.toNat)
    (text : List Char) : pieces? (c :: text) = (pieces? text).map (prepend (.char c)) := by
  rw [pieces?]
  · rw [if_neg (not_or.mpr ⟨hslash, Nat.not_lt.mpr hcontrol⟩)]
    cases pieces? text <;> rfl
  · exact hquote
  · intro a b c' d rest h
    exact absurd h hslash
  · intro e rest h
    exact absurd h hslash

/-- The part that a character of a string is written as. -/
def pieceOf (c : Char) : Piece :=
  if c.toNat < 0x20 ∧ c ≠ '\n' ∧ c ≠ '\r' ∧ c ≠ '\t' ∧ c ≠ '\x08' ∧ c ≠ '\x0c' then .unit c.toNat
  else .char c

theorem unit?_of_lt {n : Nat} (h : n < 0x20) :
    unit? '0' '0' (n / 16).digitChar (n % 16).digitChar = some n := by
  have hall : ∀ n < 0x20, unit? '0' '0' (n / 16).digitChar (n % 16).digitChar = some n := by decide
  exact hall n h

theorem pieces?_escape (c : Char) (text : List Char) :
    pieces? (escape c ++ text) = (pieces? text).map (prepend (pieceOf c)) := by
  unfold escape
  split
  · next h => subst h; exact pieces?_short rfl text
  split
  · next h => subst h; exact pieces?_short rfl text
  split
  · next h => subst h; exact pieces?_short rfl text
  split
  · next h => subst h; exact pieces?_short rfl text
  split
  · next h => subst h; exact pieces?_short rfl text
  split
  · next h => subst h; exact pieces?_short rfl text
  split
  · next h => subst h; exact pieces?_short rfl text
  split
  · next hn hr ht hb hf hlt =>
    rw [show pieceOf c = .unit c.toNat from if_pos ⟨hlt, hn, hr, ht, hb, hf⟩]
    exact pieces?_unit (unit?_of_lt hlt) text
  · next hquote hslash _ _ _ _ _ hge =>
    rw [show pieceOf c = .char c from if_neg (by simp [hge])]
    exact pieces?_plain hquote hslash (Nat.le_of_not_lt hge) text

theorem assemble?_pieceOf (c : Char) (pieces : List Piece) :
    assemble? (pieceOf c :: pieces) = (assemble? pieces).map (c :: ·) := by
  unfold pieceOf
  split
  · next h =>
    have hhigh : isHighHalf c.toNat = false := by
      simp only [isHighHalf, Bool.and_eq_false_iff, decide_eq_false_iff_not]
      omega
    have hlow : isLowHalf c.toNat = false := by
      simp only [isLowHalf, Bool.and_eq_false_iff, decide_eq_false_iff_not]
      omega
    rw [assemble?.eq_def]
    simp [hhigh, hlow]
  · rfl

theorem pieces?_flatMap_escape (s : List Char) (rest : List Char) :
    pieces? (s.flatMap escape ++ '"' :: rest) = some (s.map pieceOf, rest) := by
  induction s with
  | nil => rfl
  | cons c s ih =>
    rw [List.flatMap_cons, List.append_assoc, pieces?_escape, ih]
    rfl

theorem assemble?_map_pieceOf (s : List Char) : assemble? (s.map pieceOf) = some s := by
  induction s with
  | nil => rfl
  | cons c s ih => rw [List.map_cons, assemble?_pieceOf, ih]; rfl

/-- A string is read back behind its opening quote. -/
theorem readString?_stringChars (s : Option String) (rest : List Char) :
    ∃ text, stringChars s ++ rest = '"' :: text ∧ readString? text = some (s, rest) := by
  cases s with
  | none =>
    refine ⟨halfPair ++ '"' :: rest, rfl, ?_⟩
    have hunit : unit? 'd' '8' '0' '0' = some 0xD800 := by decide
    rw [readString?, halfPair, List.cons_append]
    exact congrArg _ (pieces?_unit hunit ('"' :: rest))
  | some s =>
    refine ⟨s.toList.flatMap escape ++ '"' :: rest, ?_, ?_⟩
    · simp [stringChars]
    · rw [readString?, pieces?_flatMap_escape, Option.map_some]
      simp only
      rw [assemble?_map_pieceOf, Option.map_some, String.ofList_toList]

end Resultset.Json

namespace Resultset

/-! ## Numerals -/

/-- A numeral as JSON writes it: digits, at least one before the point, and no zero in front. -/
structure Numeral.WellFormed (n : Numeral) : Prop where
  whole_ne_nil : n.whole ≠ []
  whole_digits : ∀ c ∈ n.whole, c.isDigit = true
  no_leading_zero : Json.hasLeadingZero n.whole = false
  fraction_digits : ∀ c ∈ n.fraction, c.isDigit = true

namespace Json

/-- Whether what follows a numeral does not go on with it. -/
def Ends (rest : List Char) : Prop :=
  ∀ c ∈ rest.head?, c.isDigit = false ∧ c ≠ '.' ∧ c ≠ 'e' ∧ c ≠ 'E'

theorem ends_cons {c : Char} (hc : c.isDigit = false ∧ c ≠ '.' ∧ c ≠ 'e' ∧ c ≠ 'E')
    (rest : List Char) : Ends (c :: rest) := by
  intro d hd
  obtain rfl := Option.some.inj hd
  exact hc

theorem spanDigits_append {digits rest : List Char} (hdigits : ∀ c ∈ digits, c.isDigit = true)
    (hrest : ∀ c ∈ rest.head?, c.isDigit = false) :
    spanDigits (digits ++ rest) = (digits, rest) := by
  rw [spanDigits, List.takeWhile_append_of_pos hdigits, List.dropWhile_append_of_pos hdigits]
  cases rest with
  | nil => simp
  | cons c rest =>
    have hc := hrest c rfl
    rw [List.takeWhile_cons_of_neg (by simp [hc]), List.dropWhile_cons_of_neg (by simp [hc]),
      List.append_nil]

theorem readExponent?_exponentChars {rest : List Char} (hrest : Ends rest) (e : Option Int) :
    readExponent? (Numeral.exponentChars e ++ rest) = some (e, rest) := by
  cases e with
  | none =>
    cases rest with
    | nil => rfl
    | cons c rest =>
      obtain ⟨-, -, he, hE⟩ := hrest c rfl
      change readExponent? (c :: rest) = _
      rw [readExponent?, if_neg (by simp [he, hE])]
  | some n =>
    have hspan : spanDigits (Nat.toDigits 10 n.natAbs ++ rest) = (Nat.toDigits 10 n.natAbs, rest) :=
      spanDigits_append (fun _ => Text.isDigit_of_mem_toDigits) fun c hc => (hrest c hc).1
    have hne : (Nat.toDigits 10 n.natAbs).isEmpty = false := by simp [Nat.toDigits_ne_nil]
    by_cases hneg : n < 0
    · have hvalue : -(n.natAbs : Int) = n := by omega
      simp only [Numeral.exponentChars, if_pos hneg, List.cons_append, readExponent?, true_or,
        if_true, Text.splitSign, hspan, hne, Bool.false_eq_true, if_false,
        Nat.ofDigitChars_ten_toDigits, hvalue]
    · have hvalue : (n.natAbs : Int) = n := by omega
      simp only [Numeral.exponentChars, if_neg hneg, List.cons_append, readExponent?, true_or,
        if_true, Text.splitSign, hspan, hne, Bool.false_eq_true, if_false,
        Nat.ofDigitChars_ten_toDigits, hvalue]

theorem head?_exponentChars {rest : List Char} (hrest : Ends rest) (e : Option Int) :
    ∀ c ∈ (Numeral.exponentChars e ++ rest).head?, c.isDigit = false ∧ c ≠ '.' := by
  intro c hc
  cases e with
  | none =>
    obtain ⟨hdigit, hpoint, -⟩ := hrest c hc
    exact ⟨hdigit, hpoint⟩
  | some n =>
    obtain rfl := Option.some.inj hc
    decide

theorem readFraction?_written {fraction text : List Char}
    (hdigits : ∀ c ∈ fraction, c.isDigit = true)
    (htext : ∀ c ∈ text.head?, c.isDigit = false ∧ c ≠ '.') :
    readFraction? ((if fraction.isEmpty then [] else '.' :: fraction) ++ text) =
      some (fraction, text) := by
  cases fraction with
  | nil =>
    change readFraction? text = _
    rw [readFraction?.eq_def]
    split
    · exact absurd rfl (htext '.' rfl).2
    · rfl
  | cons d fraction =>
    have hspan := spanDigits_append hdigits fun c hc => (htext c hc).1
    change readFraction? ('.' :: (d :: fraction ++ text)) = _
    rw [readFraction?, hspan]
    rfl

/-- A numeral whose sign has been taken off. -/
def readParts? (negative : Bool) (text : List Char) : Option (Numeral × List Char) := do
  let (whole, text) := spanDigits text
  if whole.isEmpty || hasLeadingZero whole then none
  else
    let (fraction, text) ← readFraction? text
    let (exponent, text) ← readExponent? text
    return (⟨negative, whole, fraction, exponent⟩, text)

theorem readNumeral?_minus (text : List Char) :
    readNumeral? ('-' :: text) = readParts? true text := rfl

theorem readNumeral?_of_isDigit {c : Char} (hc : c.isDigit = true) (text : List Char) :
    readNumeral? (c :: text) = readParts? false (c :: text) := by
  unfold readNumeral?
  split
  next negative text' hsign =>
  split at hsign
  · next heq =>
    obtain ⟨rfl, -⟩ := List.cons.inj heq
    exact absurd hc (by decide)
  · obtain ⟨rfl, rfl⟩ := Prod.mk.inj hsign
    rfl

theorem readParts?_written {n : Numeral} (hn : n.WellFormed) {rest : List Char}
    (hrest : Ends rest) :
    readParts? n.negative (n.whole ++ ((if n.fraction.isEmpty then [] else '.' :: n.fraction) ++
      (Numeral.exponentChars n.exponent ++ rest))) = some (n, rest) := by
  have htail := head?_exponentChars hrest n.exponent
  have hempty : n.whole.isEmpty = false := List.isEmpty_eq_false_iff.mpr hn.whole_ne_nil
  have hpoint : ∀ c ∈ ((if n.fraction.isEmpty then [] else '.' :: n.fraction) ++
      (Numeral.exponentChars n.exponent ++ rest)).head?, c.isDigit = false := by
    intro c hc
    cases hfraction : n.fraction with
    | nil =>
      rw [hfraction] at hc
      exact (htail c hc).1
    | cons d fraction =>
      rw [hfraction] at hc
      obtain rfl := Option.some.inj hc
      decide
  rw [readParts?, spanDigits_append hn.whole_digits hpoint]
  simp only [hempty, hn.no_leading_zero, Bool.or_false, Bool.false_eq_true, if_false]
  rw [readFraction?_written hn.fraction_digits htail, Option.bind_eq_bind, Option.bind_some]
  simp only
  rw [readExponent?_exponentChars hrest]
  rfl

theorem readNumeral?_chars {n : Numeral} (hn : n.WellFormed) {rest : List Char}
    (hrest : Ends rest) : readNumeral? (n.chars ++ rest) = some (n, rest) := by
  have hparts := readParts?_written hn hrest
  rw [Numeral.chars]
  simp only [List.append_assoc]
  cases hsign : n.negative with
  | true =>
    rw [hsign] at hparts
    rw [if_pos rfl, List.singleton_append, readNumeral?_minus]
    exact hparts
  | false =>
    rw [hsign] at hparts
    obtain ⟨c, digits, hwhole⟩ := List.exists_cons_of_ne_nil hn.whole_ne_nil
    have hc := hn.whole_digits c (by rw [hwhole]; exact List.mem_cons_self)
    rw [if_neg Bool.false_ne_true, List.nil_append]
    rw [hwhole, List.cons_append] at hparts ⊢
    rw [readNumeral?_of_isDigit hc]
    exact hparts

/-! ## Documents -/

/-- A document whose numerals are those of JSON. -/
inductive WellFormed : Json → Prop
  | null : WellFormed null
  | bool (b : Bool) : WellFormed (bool b)
  | number {n : Numeral} (h : n.WellFormed) : WellFormed (number n)
  | string (s : Option String) : WellFormed (string s)
  | array {items : List Json} (h : ∀ item ∈ items, WellFormed item) : WellFormed (array items)
  | object {members : List (Option String × Json)} (h : ∀ member ∈ members, WellFormed member.2) :
    WellFormed (object members)

/-- Whether a numeral can start with the character. -/
def StartsNumeral (c : Char) : Prop := c.isDigit = true ∨ c = '-'

theorem StartsNumeral.ne {c d : Char} (hc : StartsNumeral c)
    (hd : d.isDigit = false ∧ d ≠ '-') : c ≠ d := by
  rintro rfl
  rcases hc with hc | hc
  · exact Bool.false_ne_true (hd.1.symm.trans hc)
  · exact hd.2 hc

theorem StartsNumeral.not_isBlank {c : Char} (hc : StartsNumeral c) : isBlank c = false := by
  have hspace : c ≠ ' ' := hc.ne (by decide)
  have hline : c ≠ '\n' := hc.ne (by decide)
  have htab : c ≠ '\t' := hc.ne (by decide)
  have hreturn : c ≠ '\r' := hc.ne (by decide)
  simp [isBlank, hspace, hline, htab, hreturn]

theorem exists_chars_numeral {n : Numeral} (hn : n.WellFormed) :
    ∃ c text, n.chars = c :: text ∧ StartsNumeral c := by
  obtain ⟨c, digits, hwhole⟩ := List.exists_cons_of_ne_nil hn.whole_ne_nil
  have hc := hn.whole_digits c (by rw [hwhole]; exact List.mem_cons_self)
  cases hsign : n.negative with
  | true => exact ⟨'-', _, by rw [Numeral.chars, hsign]; rfl, .inr rfl⟩
  | false => exact ⟨c, _, by rw [Numeral.chars, hsign, hwhole]; rfl, .inl hc⟩

/-- A document starts with a character that is no blank and closes no array. -/
theorem WellFormed.exists_chars {j : Json} (hj : j.WellFormed) :
    ∃ c text, j.chars = c :: text ∧ isBlank c = false ∧ c ≠ ']' := by
  cases hj with
  | null => exact ⟨'n', _, rfl, rfl, by decide⟩
  | bool b =>
    cases b with
    | true => exact ⟨'t', _, rfl, rfl, by decide⟩
    | false => exact ⟨'f', _, rfl, rfl, by decide⟩
  | number hn =>
    obtain ⟨c, text, htext, hc⟩ := exists_chars_numeral hn
    exact ⟨c, text, htext, hc.not_isBlank, hc.ne (by decide)⟩
  | string s => exact ⟨'"', _, rfl, rfl, by decide⟩
  | array h => exact ⟨'[', _, rfl, rfl, by decide⟩
  | object h => exact ⟨'\x7b', _, rfl, rfl, by decide⟩

/-! ## Readers -/

theorem skipBlanks_cons {c : Char} (hc : isBlank c = false) (text : List Char) :
    skipBlanks (c :: text) = c :: text := List.dropWhile_cons_of_neg (by simp [hc])

theorem readValue?_string {text rest : List Char} {s : Option String}
    (h : readString? text = some (s, rest)) (fuel : Nat) :
    readValue? (fuel + 1) ('"' :: text) = some (.string s, rest) := by
  change (readString? text).map _ = _
  rw [h]
  rfl

theorem readValue?_number {c : Char} {text rest : List Char} {n : Numeral} (hc : StartsNumeral c)
    (h : readNumeral? (c :: text) = some (n, rest)) (fuel : Nat) :
    readValue? (fuel + 1) (c :: text) = some (.number n, rest) := by
  have hn : c ≠ 'n' := hc.ne (by decide)
  have ht : c ≠ 't' := hc.ne (by decide)
  have hf : c ≠ 'f' := hc.ne (by decide)
  rw [readValue?, skipBlanks_cons hc.not_isBlank]
  split
  · next heq => exact absurd heq nofun
  · next heq => exact absurd (List.cons.inj heq).1 (hc.ne (by decide))
  · next heq => exact absurd (List.cons.inj heq).1 (hc.ne (by decide))
  · next heq => exact absurd (List.cons.inj heq).1 (hc.ne (by decide))
  · next heq =>
    obtain ⟨rfl, rfl⟩ := List.cons.inj heq
    rw [if_neg hn, if_neg ht, if_neg hf, h]
    rfl

theorem readValue?_array_nil (rest : List Char) (fuel : Nat) :
    readValue? (fuel + 1) ('[' :: ']' :: rest) = some (.array [], rest) := rfl

theorem readValue?_array {c : Char} {text rest : List Char} {items : List Json}
    (hblank : isBlank c = false) (hclose : c ≠ ']') {fuel : Nat}
    (h : readItems? fuel (c :: text) = some (items, rest)) :
    readValue? (fuel + 1) ('[' :: c :: text) = some (.array items, rest) := by
  have hopen : isBlank '[' = false := rfl
  rw [readValue?, skipBlanks_cons hopen]
  simp only [skipBlanks_cons hblank]
  split
  · next heq => exact absurd (List.cons.inj heq).1 hclose
  · rw [h]
    rfl

theorem readValue?_object_nil (rest : List Char) (fuel : Nat) :
    readValue? (fuel + 1) ('\x7b' :: '\x7d' :: rest) = some (.object [], rest) := rfl

theorem readValue?_object {text rest : List Char} {members : List (Option String × Json)}
    {fuel : Nat} (h : readMembers? fuel ('"' :: text) = some (members, rest)) :
    readValue? (fuel + 1) ('\x7b' :: '"' :: text) = some (.object members, rest) := by
  change (readMembers? fuel ('"' :: text)).map _ = _
  rw [h]
  rfl

theorem readItems?_last {text rest : List Char} {item : Json} {fuel : Nat}
    (h : readValue? fuel text = some (item, ']' :: rest)) :
    readItems? (fuel + 1) text = some ([item], rest) := by
  rw [readItems?, h]
  rfl

theorem readItems?_cons {text more rest : List Char} {item : Json} {items : List Json} {fuel : Nat}
    (h : readValue? fuel text = some (item, ',' :: more))
    (hmore : readItems? fuel more = some (items, rest)) :
    readItems? (fuel + 1) text = some (item :: items, rest) := by
  rw [readItems?, h]
  change (readItems? fuel more).map _ = _
  rw [hmore]
  rfl

theorem readMembers?_last {text value rest : List Char} {member : Option String × Json} {fuel : Nat}
    (hkey : readString? text = some (member.1, ':' :: value))
    (h : readValue? fuel value = some (member.2, '\x7d' :: rest)) :
    readMembers? (fuel + 1) ('"' :: text) = some ([member], rest) := by
  have hquote : isBlank '"' = false := rfl
  have hcolon : isBlank ':' = false := rfl
  rw [readMembers?, skipBlanks_cons hquote]
  simp only [hkey, skipBlanks_cons hcolon, h]
  rfl

theorem readMembers?_cons {text value more rest : List Char} {member : Option String × Json}
    {members : List (Option String × Json)} {fuel : Nat}
    (hkey : readString? text = some (member.1, ':' :: value))
    (h : readValue? fuel value = some (member.2, ',' :: more))
    (hmore : readMembers? fuel more = some (members, rest)) :
    readMembers? (fuel + 1) ('"' :: text) = some (member :: members, rest) := by
  have hquote : isBlank '"' = false := rfl
  have hcolon : isBlank ':' = false := rfl
  have hcomma : isBlank ',' = false := rfl
  rw [readMembers?, skipBlanks_cons hquote]
  simp only [hkey, skipBlanks_cons hcolon, h, skipBlanks_cons hcomma, hmore]
  rfl

/-! ## Documents in a text -/

/-- Whether a document is read off the front of each text that it starts, up to where it ends. -/
def ReadsBack (j : Json) : Prop :=
  ∀ (fuel : Nat) (rest : List Char), 2 * j.chars.length ≤ fuel → Ends rest →
    readValue? fuel (j.chars ++ rest) = some (j, rest)

theorem readItems?_itemsChars {item : Json} {items : List Json}
    (hitems : ∀ j ∈ item :: items, j.ReadsBack) {fuel : Nat}
    (hfuel : 2 * (itemsChars (item :: items)).length + 1 ≤ fuel) (rest : List Char) :
    readItems? fuel (itemsChars (item :: items) ++ ']' :: rest) = some (item :: items, rest) := by
  -- on the items; the list takes one unit of fuel for each, and the comma behind an item pays for it
  induction items generalizing item fuel with
  | nil =>
    obtain ⟨fuel, rfl⟩ := Nat.exists_eq_add_of_le' (Nat.le_of_add_left_le hfuel)
    rw [itemsChars] at hfuel ⊢
    have hitem := hitems item List.mem_cons_self fuel (']' :: rest) (by omega)
    exact readItems?_last (hitem (ends_cons (by decide) rest))
  | cons next items ih =>
    obtain ⟨fuel, rfl⟩ := Nat.exists_eq_add_of_le' (Nat.le_of_add_left_le hfuel)
    rw [itemsChars, List.length_append, List.length_cons] at hfuel
    rw [itemsChars, List.append_assoc, List.cons_append]
    have hmore := ih (fun j hj => hitems j (List.mem_cons_of_mem item hj)) (show _ ≤ fuel by omega)
    have hitem := hitems item List.mem_cons_self fuel
      (',' :: (itemsChars (next :: items) ++ ']' :: rest)) (by omega)
    exact readItems?_cons (hitem (ends_cons (by decide) _)) hmore

theorem readMembers?_membersChars {member : Option String × Json}
    {members : List (Option String × Json)}
    (hmembers : ∀ m ∈ member :: members, m.2.ReadsBack) {fuel : Nat}
    (hfuel : 2 * (membersChars (member :: members)).length + 1 ≤ fuel) (rest : List Char) :
    ∃ text, membersChars (member :: members) ++ '\x7d' :: rest = '"' :: text ∧
      readMembers? fuel ('"' :: text) = some (member :: members, rest) := by
  induction members generalizing member fuel with
  | nil =>
    obtain ⟨fuel, rfl⟩ := Nat.exists_eq_add_of_le' (Nat.le_of_add_left_le hfuel)
    obtain ⟨key, value⟩ := member
    obtain ⟨text, htext, hkey⟩ :=
      readString?_stringChars key (':' :: (value.chars ++ '\x7d' :: rest))
    rw [membersChars, memberChars, List.length_append, List.length_cons] at hfuel
    have hvalue := hmembers (key, value) List.mem_cons_self fuel ('\x7d' :: rest)
      (show _ ≤ fuel by simp only; omega)
    refine ⟨text, ?_, ?_⟩
    · rw [membersChars, memberChars, List.append_assoc, List.cons_append, htext]
    · exact readMembers?_last hkey (hvalue (ends_cons (by decide) rest))
  | cons next members ih =>
    obtain ⟨fuel, rfl⟩ := Nat.exists_eq_add_of_le' (Nat.le_of_add_left_le hfuel)
    obtain ⟨key, value⟩ := member
    rw [membersChars, memberChars, List.length_append, List.length_append, List.length_cons,
      List.length_cons] at hfuel
    obtain ⟨more, hstart, hmore⟩ :=
      ih (fun m hm => hmembers m (List.mem_cons_of_mem _ hm)) (show _ ≤ fuel by omega)
    obtain ⟨text, htext, hkey⟩ :=
      readString?_stringChars key (':' :: (value.chars ++ ',' :: '"' :: more))
    have hvalue := hmembers (key, value) List.mem_cons_self fuel (',' :: '"' :: more)
      (show _ ≤ fuel by simp only; omega)
    refine ⟨text, ?_, ?_⟩
    · rw [membersChars, memberChars, List.append_assoc, List.append_assoc, List.cons_append,
        List.cons_append, hstart, htext]
    · exact readMembers?_cons hkey (hvalue (ends_cons (by decide) _)) hmore

theorem exists_itemsChars {item : Json} (hitem : item.WellFormed) (items : List Json) :
    ∃ c text, itemsChars (item :: items) = c :: text ∧ isBlank c = false ∧ c ≠ ']' := by
  obtain ⟨c, text, htext, hc⟩ := hitem.exists_chars
  cases items with
  | nil => exact ⟨c, text, by rw [itemsChars, htext], hc⟩
  | cons next items => exact ⟨c, _, by rw [itemsChars, htext, List.cons_append], hc⟩

theorem WellFormed.exists_fuel {j : Json} (hj : j.WellFormed) {fuel : Nat}
    (hfuel : 2 * j.chars.length ≤ fuel) : ∃ less, fuel = less + 1 := by
  obtain ⟨c, text, htext, -⟩ := hj.exists_chars
  rw [htext, List.length_cons] at hfuel
  exact Nat.exists_eq_add_of_le' (by omega)

theorem WellFormed.readsBack {j : Json} (hj : j.WellFormed) : j.ReadsBack := by
  induction hj with
  | null =>
    intro fuel rest hfuel _
    obtain ⟨fuel, rfl⟩ := WellFormed.null.exists_fuel hfuel
    rfl
  | bool b =>
    intro fuel rest hfuel _
    obtain ⟨fuel, rfl⟩ := (WellFormed.bool b).exists_fuel hfuel
    cases b <;> rfl
  | @number n hn =>
    intro fuel rest hfuel hrest
    obtain ⟨fuel, rfl⟩ := (WellFormed.number hn).exists_fuel hfuel
    have hread := readNumeral?_chars hn hrest
    obtain ⟨c, text, htext, hc⟩ := exists_chars_numeral hn
    change readValue? (fuel + 1) (n.chars ++ rest) = _
    rw [htext, List.cons_append] at hread ⊢
    exact readValue?_number hc hread fuel
  | string s =>
    intro fuel rest hfuel _
    obtain ⟨fuel, rfl⟩ := (WellFormed.string s).exists_fuel hfuel
    obtain ⟨text, htext, hread⟩ := readString?_stringChars s rest
    change readValue? (fuel + 1) (stringChars s ++ rest) = _
    rw [htext]
    exact readValue?_string hread fuel
  | @array items hitems ih =>
    intro fuel rest hfuel _
    obtain ⟨fuel, rfl⟩ := (WellFormed.array hitems).exists_fuel hfuel
    rw [chars, List.append_assoc, List.cons_append, List.singleton_append]
    rw [chars, List.length_append, List.length_cons, List.length_singleton] at hfuel
    cases items with
    | nil => exact readValue?_array_nil rest fuel
    | cons item items =>
      obtain ⟨c, text, htext, hblank, hclose⟩ :=
        exists_itemsChars (hitems item List.mem_cons_self) items
      have hread := readItems?_itemsChars ih (show _ ≤ fuel by omega) rest
      rw [htext, List.cons_append] at hread ⊢
      exact readValue?_array hblank hclose hread
  | @object members hmembers ih =>
    intro fuel rest hfuel _
    obtain ⟨fuel, rfl⟩ := (WellFormed.object hmembers).exists_fuel hfuel
    rw [chars, List.append_assoc, List.cons_append, List.singleton_append]
    rw [chars, List.length_append, List.length_cons, List.length_singleton] at hfuel
    cases members with
    | nil => exact readValue?_object_nil rest fuel
    | cons member members =>
      obtain ⟨text, htext, hread⟩ :=
        readMembers?_membersChars ih (show _ ≤ fuel by omega) rest
      rw [htext]
      exact readValue?_object hread

/-- A document is read back from its compact text. -/
theorem parse?_chars {j : Json} (hj : j.WellFormed) : parse? j.chars = some j := by
  have hread := hj.readsBack (2 * j.chars.length + 2) [] (by omega) nofun
  rw [List.append_nil] at hread
  rw [parse?, hread]
  rfl

end Json
end Resultset
