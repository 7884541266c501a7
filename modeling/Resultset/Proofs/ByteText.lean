import Resultset.Extraction

/-! # Bytes read back from their text

A binary value is written with two hexadecimal digits for each byte. Each digit is read as the half
byte that it was written for, so the digits give the bytes back pairwise (`decode?_encode`) and no
two lists of bytes share a text. Only a string target sees that text: a binary target answers the
bytes themselves, which the longer text is never encoded as (`bytes_from_text`).
-/

namespace Resultset
set_option autoImplicit false

/-! ## Digits -/

namespace Text.Hex

/-- The lower-case hexadecimal digits. -/
def digits : List Char := "0123456789abcdef".toList

theorem digitChar_mem_digits {n : Nat} (hn : n < 16) : n.digitChar ∈ digits := by
  have hall : ∀ m : Fin 16, m.val.digitChar ∈ digits := by decide
  exact hall ⟨n, hn⟩

theorem digitValue?_digitChar {n : Nat} (hn : n < 16) : digitValue? n.digitChar = some n := by
  have hall : ∀ m : Fin 16, digitValue? m.val.digitChar = some m.val := by decide
  exact hall ⟨n, hn⟩

/-! ## Bytes -/

theorem encode_cons (byte : UInt8) (bytes : List UInt8) :
    encode (byte :: bytes) =
      (byte.toNat / 16).digitChar :: (byte.toNat % 16).digitChar :: encode bytes := rfl

theorem mem_digits_of_mem_encode {bytes : List UInt8} {c : Char} (h : c ∈ encode bytes) :
    c ∈ digits := by
  obtain ⟨byte, -, hc⟩ := List.mem_flatMap.mp h
  have hbyte : byte.toNat < 256 := byte.toNat_lt
  rw [List.mem_cons, List.mem_singleton] at hc
  rcases hc with rfl | rfl
  · exact digitChar_mem_digits (by omega)
  · exact digitChar_mem_digits (by omega)

/-- The two halves of a byte are below 16, so that each has a digit of its own, and make it up
again. -/
theorem decode?_encode (bytes : List UInt8) : decode? (encode bytes) = some bytes := by
  induction bytes with
  | nil => rfl
  | cons byte bytes ih =>
    have hbyte : byte.toNat < 256 := byte.toNat_lt
    have hhigh : digitValue? (byte.toNat / 16).digitChar = some (byte.toNat / 16) :=
      digitValue?_digitChar (by omega)
    have hlow : digitValue? (byte.toNat % 16).digitChar = some (byte.toNat % 16) :=
      digitValue?_digitChar (by omega)
    have hwhole : UInt8.ofNat (16 * (byte.toNat / 16) + byte.toNat % 16) = byte := by
      rw [Nat.div_add_mod, UInt8.ofNat_toNat]
    rw [encode_cons, decode?, hhigh, hlow, ih]
    simp only [Option.bind_eq_bind, Option.bind_some, Option.pure_def, hwhole]

theorem encode_inj {bytes other : List UInt8} (h : encode bytes = encode other) :
    bytes = other := by
  have hdecoded : decode? (encode bytes) = decode? (encode other) := congrArg decode? h
  rwa [decode?_encode, decode?_encode, Option.some.injEq] at hdecoded

end Text.Hex

/-! ## The encoding of a text -/

theorem length_toList_loop (b : ByteArray) (i : Nat) (read : List UInt8) :
    (ByteArray.toList.loop b i read).length = read.length + (b.size - i) := by
  fun_induction ByteArray.toList.loop b i read with
  | case1 i read hmore ih =>
    rw [ih, List.length_cons]
    omega
  | case2 i read hdone =>
    rw [List.length_reverse]
    omega

/-- No character is encoded as nothing. -/
theorem length_le_size_utf8Encode (text : List Char) : text.length ≤ text.utf8Encode.size := by
  induction text with
  | nil => exact Nat.zero_le _
  | cons c text ih =>
    have hpos : 0 < c.utf8Size := c.utf8Size_pos
    rw [List.utf8Encode_cons, ByteArray.size_append, List.utf8Encode_singleton,
      List.size_toByteArray, String.length_utf8EncodeChar, List.length_cons]
    omega

theorem length_le_length_toUTF8 (text : List Char) :
    text.length ≤ (String.ofList text).toUTF8.toList.length := by
  rw [ByteArray.toList, length_toList_loop, List.length_nil, Nat.zero_add, Nat.sub_zero,
    String.toUTF8, String.toByteArray_ofList]
  exact length_le_size_utf8Encode text

/-! ## Binary values -/

namespace Converter

/-- The text of a binary value has two lower-case digits for each byte, from which the bytes are
read back, so that it is the text of no other bytes. A string target of the textual converter takes
this text, whereas both converters answer a binary target with the bytes and not with the encoding
of the text. -/
theorem bytes_from_text {row : Row} {position : Nat} {bytes : List UInt8}
    (hvalue : row.get? position = some (.binary bytes)) :
    let text := (Value.binary bytes).text
    textual.read (.scalar .string) row position = .ok (some text) ∧
      text.toList.length = 2 * bytes.length ∧
      (∀ c ∈ text.toList, c ∈ Text.Hex.digits) ∧
      Text.Hex.decode? text.toList = some bytes ∧
      (∀ other : List UInt8, (Value.binary other).text = text → other = bytes) ∧
      (∀ converter : Converter,
        converter.read (.scalar .binary) row position = .ok (some bytes)) ∧
      (bytes ≠ [] → text.toUTF8.toList ≠ bytes) := by
  intro text
  have hchars : text.toList = Text.Hex.encode bytes := String.toList_ofList
  have hlength : text.toList.length = 2 * bytes.length := by
    rw [hchars, Text.Hex.length_encode]
  refine ⟨?_, hlength, ?_, ?_, ?_, ?_, ?_⟩
  · rw [read_of_some hvalue]
    rfl
  · rw [hchars]
    exact fun c => Text.Hex.mem_digits_of_mem_encode
  · rw [hchars, Text.Hex.decode?_encode]
  · intro other hother
    exact Text.Hex.encode_inj (String.ofList_injective hother)
  · intro converter
    rw [read_of_some hvalue]
    cases converter <;> rfl
  · intro hne hsame
    have hle : (Value.binary bytes).chars.length ≤ text.toUTF8.toList.length :=
      length_le_length_toUTF8 _
    have hpos : 0 < bytes.length := List.length_pos_iff.mpr hne
    rw [Value.chars, Text.Hex.length_encode, hsame] at hle
    omega

/-- A byte below 16 keeps the zero in front of its digit. -/
theorem bytes_from_text_at_small_byte :
    let row : Row := ⟨[.binary [1, 0xAB]]⟩
    row.get? 0 = some (.binary [1, 0xAB]) ∧
      textual.read (.scalar .string) row 0 = .ok (some "01ab") ∧
      textual.read (.scalar .binary) row 0 = .ok (some [1, 0xAB]) := by
  intro row
  have hvalue : row.get? 0 = some (.binary [1, 0xAB]) := rfl
  obtain ⟨hstring, -, -, -, -, hbinary, -⟩ := bytes_from_text hvalue
  exact ⟨hvalue, hstring, hbinary textual⟩

end Converter
end Resultset
