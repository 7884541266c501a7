import Resultset.Proofs.Agreement
import Resultset.Proofs.JsonShapes
import Resultset.Value.Json

/-! # Values read back from their text

A value whose content is exact comes back from its JSON text as it was, except that a decimal zero
has no sign any more. Each variant is read by its tag, and then its content by the reader of its own
shape: an integer within the 64 bits that hold every width, a decimal from its printed digits, the
bytes one by one. Floating-point numbers are not exact, and left out.
-/

namespace Resultset
set_option autoImplicit false

namespace Decimal

theorem sameNumber_unsignZero (d : Decimal) : d.sameNumber d.unsignZero = true := by
  by_cases hzero : d.mantissa = 0
  · simp [sameNumber, coefficient, unsignZero, hzero]
  · rw [unsignZero_of_ne_zero hzero]
    exact d.sameNumber_refl

theorem ofJson?_text {d : Decimal} (hscale : d.scale ≤ maxScale) :
    ofJson? (.text d.text) = some d.unsignZero := by
  change (readAny d.text.toList).toOption = _
  rw [text, String.toList_ofList, readAny_chars hscale]
  rfl

end Decimal

namespace Value

/-- Whether the content is a floating-point number. -/
def isFloating : Value → Bool
  | float _ | double _ => true
  | _ => false

/-! ## What is written -/

theorem wellFormed_toJson {v : Value} (hv : v.isFloating = false) : v.toJson.WellFormed := by
  cases v with
  | null => exact Json.wellFormed_text "Null"
  | boolean b => exact Json.wellFormed_variant "Boolean" (.bool b)
  | integer w n => exact Json.wellFormed_variant w.tag (Json.wellFormed_integer n.val)
  | float x => exact absurd hv nofun
  | double x => exact absurd hv nofun
  | decimal d => exact Json.wellFormed_variant "Decimal" (Json.wellFormed_text d.text)
  | string s => exact Json.wellFormed_variant "String" (Json.wellFormed_text s)
  | binary bytes =>
    refine Json.wellFormed_variant "Binary" (.array fun item hitem => ?_)
    obtain ⟨byte, _, rfl⟩ := List.mem_map.mp hitem
    exact Json.wellFormed_integer byte.toNat

/-! ## Each variant by its tag -/

theorem ofJson?_record (tag : String) (content : Json) :
    ofJson? (.record [(tag, content)]) = ofVariant? tag content := by
  have hvariant : (Json.record [(tag, content)]).variant? = some (tag, some content) := rfl
  simp only [ofJson?, hvariant]

theorem ofVariant?_integer {w : IntWidth} (n : w.Number) :
    ofVariant? w.tag (.integer n.val) = some (integer w n) := by
  have hhalf : IntWidth.big.half = 2 ^ (63 : Nat) := rfl
  obtain ⟨hlow, hhigh⟩ := n.holds.big
  have hcontent : (Json.integer n.val).integer? = some n.val :=
    Json.integer?_integer (by omega) (by omega)
  -- the equations of `ofVariant?` are those of single tags, and this tag is any of four
  rw [ofVariant?.eq_def, IntWidth.ofTag?_tag]
  simp only [hcontent, Option.bind_some, IntWidth.number?_val, Option.map_some]

theorem ofVariant?_decimal {d : Decimal} (hscale : d.scale ≤ maxScale) :
    ofVariant? "Decimal" (.text d.text) = some (decimal d.unsignZero) := by
  change (Decimal.ofJson? (.text d.text)).map decimal = _
  rw [Decimal.ofJson?_text hscale, Option.map_some]

theorem mapM_natural?_bytes (bytes : List UInt8) :
    (bytes.map fun byte => Json.integer byte.toNat).mapM (Json.natural? (2 ^ (8 : Nat))) =
      some (bytes.map UInt8.toNat) := by
  induction bytes with
  | nil => rfl
  | cons byte bytes ih =>
    rw [List.map_cons, List.mapM_cons, Json.natural?_integer byte.toNat_lt (by decide), ih]
    rfl

theorem ofVariant?_binary (bytes : List UInt8) :
    ofVariant? "Binary" (.array (bytes.map fun byte => .integer byte.toNat)) =
      some (binary bytes) := by
  have hbytes : (bytes.map UInt8.toNat).map UInt8.ofNat = bytes := by
    simp only [List.map_map, Function.comp_def, UInt8.ofNat_toNat, List.map_id']
  change (((bytes.map fun byte => Json.integer byte.toNat).mapM (Json.natural? (2 ^ (8 : Nat)))).bind
    fun read => some (binary (read.map UInt8.ofNat))) = _
  rw [mapM_natural?_bytes, Option.bind_some, hbytes]

/-! ## The text -/

/-- The value without the sign of a decimal zero. -/
def unsignZero : Value → Value
  | decimal d => decimal d.unsignZero
  | v => v

theorem ofJson?_toJson {v : Value} (hfloating : v.isFloating = false) (hreadable : v.Readable) :
    ofJson? v.toJson = some v.unsignZero := by
  cases v with
  | null => rfl
  | boolean b => rfl
  | integer w n => exact (ofJson?_record w.tag _).trans (ofVariant?_integer n)
  | float x => exact absurd hfloating nofun
  | double x => exact absurd hfloating nofun
  | decimal d => exact (ofJson?_record "Decimal" _).trans (ofVariant?_decimal (hreadable d rfl))
  | string s => rfl
  | binary bytes => exact (ofJson?_record "Binary" _).trans (ofVariant?_binary bytes)

theorem parse?_render {v : Value} (hfloating : v.isFloating = false) (hreadable : v.Readable) :
    parse? v.toJson.render = some v.unsignZero := by
  rw [parse?, Json.render, String.toList_ofList, Json.parse?_chars (wellFormed_toJson hfloating)]
  exact ofJson?_toJson hfloating hreadable

theorem same_unsignZero {v : Value} (hfloating : v.isFloating = false) :
    v.same v.unsignZero = true := by
  cases v with
  | float x => exact absurd hfloating nofun
  | double x => exact absurd hfloating nofun
  | decimal d => exact d.sameNumber_unsignZero
  | null => rfl
  | boolean b => exact beq_self_eq_true b
  | integer w n =>
    change (w == w && n.val == n.val) = true
    simp only [beq_self_eq_true, Bool.and_self]
  | string s => exact beq_self_eq_true s
  | binary bytes => exact beq_self_eq_true bytes

/-- Every value but a floating-point number is read back from its text, as the same variant with
equal content. A decimal keeps its mantissa, its scale and, unless it is zero, its sign; any other
value is the one that was written. -/
theorem same_from_text {v : Value} (hfloating : v.isFloating = false) (hreadable : v.Readable) :
    ∃ w, parse? v.toJson.render = some w ∧ v.same w = true ∧
      (∀ d, v = decimal d → ∃ e, w = decimal e ∧ e.mantissa = d.mantissa ∧ e.scale = d.scale ∧
        (d.mantissa ≠ 0 → e = d)) ∧
      ((∀ d, v ≠ decimal d) → w = v) := by
  refine ⟨v.unsignZero, parse?_render hfloating hreadable, same_unsignZero hfloating, ?_, ?_⟩
  · rintro d rfl
    exact ⟨d.unsignZero, rfl, rfl, rfl, Decimal.unsignZero_of_ne_zero⟩
  · intro hdecimal
    cases v with
    | decimal d => exact absurd rfl (hdecimal d)
    | _ => rfl

/-- The content of `-0.00` is equal to what comes back, `0.00`. -/
theorem same_from_text_at_negative_zero :
    (decimal ⟨true, 0, 2, Nat.zero_le _⟩).isFloating = false ∧
      (decimal ⟨true, 0, 2, Nat.zero_le _⟩).Readable ∧
      ∃ e : Decimal, parse? (decimal ⟨true, 0, 2, Nat.zero_le _⟩).toJson.render =
        some (decimal e) ∧ e.mantissa = 0 ∧ e.scale = 2 := by
  have hreadable : (decimal ⟨true, 0, 2, Nat.zero_le _⟩).Readable := by
    intro d hd
    rw [decimal.injEq] at hd
    subst hd
    decide
  refine ⟨rfl, hreadable, ?_⟩
  obtain ⟨w, hread, _, hdecimal, _⟩ := same_from_text rfl hreadable
  obtain ⟨e, rfl, hmantissa, hscale, _⟩ := hdecimal _ rfl
  exact ⟨e, hread, hmantissa, hscale⟩

end Value
end Resultset
