import Resultset.Proofs.JsonShapes
import Resultset.Schema.Json

/-! # Schemas read back from their text

A type, or a schema, is read back from its JSON text exactly if the text nests no more than
`Json.maxLevels` arrays and objects. The induction is on the nesting of the type; the levels that are
left for a part are those of the whole less the arrays and objects around it.
-/

namespace Resultset
set_option autoImplicit false

namespace ColumnType

/-- Induction on a type, with each field of a row type. -/
@[elab_as_elim]
theorem induction_on_fields {P : ColumnType → Prop} (t : ColumnType)
    (plain : ∀ k, P (plain k)) (sized : ∀ k n, P (sized k n)) (decimal : ∀ p s, P (decimal p s))
    (array : ∀ t, P t → P (array t)) (row : ∀ fs, (∀ f ∈ fs, P f.type) → P (row fs)) : P t := by
  refine @ColumnType.rec P (fun fs => ∀ f ∈ fs, P f.type) (fun f => P f.type) plain sized decimal
    array row ?nil ?cons ?field t
  case nil => exact nofun
  case cons => exact fun f fs hf hfs => List.forall_mem_cons.mpr ⟨hf, hfs⟩
  case field => exact fun _ t ht => ht

theorem fieldsToJson_eq_map (fs : List (Named ColumnType)) :
    fieldsToJson fs = fs.map fieldToJson := by
  induction fs with
  | nil => rfl
  | cons f fs ih => rw [fieldsToJson, ih, List.map_cons]

/-! ## What is written -/

theorem wellFormed_fieldToJson {f : Named ColumnType} (h : f.type.toJson.WellFormed) :
    (fieldToJson f).WellFormed := by
  rw [fieldToJson]
  refine Json.wellFormed_record ?_
  rw [List.forall_mem_cons, List.forall_mem_singleton]
  exact ⟨Json.wellFormed_text f.name, h⟩

theorem wellFormed_fieldsToJson {fs : List (Named ColumnType)}
    (h : ∀ f ∈ fs, f.type.toJson.WellFormed) : (Json.array (fieldsToJson fs)).WellFormed := by
  refine .array fun item hitem => ?_
  rw [fieldsToJson_eq_map] at hitem
  obtain ⟨f, hf, rfl⟩ := List.mem_map.mp hitem
  exact wellFormed_fieldToJson (h f hf)

theorem wellFormed_toJson (t : ColumnType) : t.toJson.WellFormed := by
  induction t using induction_on_fields with
  | plain k => exact Json.wellFormed_text k.tag
  | sized k n => exact Json.wellFormed_variant k.tag (Json.wellFormed_integer n.toNat)
  | decimal p s =>
    refine Json.wellFormed_variant "Decimal" (Json.wellFormed_record ?_)
    rw [List.forall_mem_cons, List.forall_mem_singleton]
    exact ⟨Json.wellFormed_integer p.toNat, Json.wellFormed_integer s.toNat⟩
  | array t ih => exact Json.wellFormed_variant "Array" ih
  | row fs ih => exact Json.wellFormed_variant "Row" (wellFormed_fieldsToJson ih)

theorem levels_fieldToJson (f : Named ColumnType) :
    (fieldToJson f).levels = f.type.toJson.levels + 1 := by
  rw [fieldToJson]
  change max 0 (max f.type.toJson.levels 0) + 1 = _
  rw [Nat.zero_max, Nat.max_zero]

/-! ## Flat types -/

theorem flatOfVariant?_sized (k : SizedType) (n : UInt64) :
    flatOfVariant? k.tag (.integer n.toNat) = some (sized k n) := by
  have hdecimal : k.tag ≠ "Decimal" := by cases k <;> decide
  have hlength : (Json.integer n.toNat).natural? (2 ^ (64 : Nat)) = some n.toNat :=
    Json.natural?_integer n.toNat_lt (Nat.le_refl _)
  rw [flatOfVariant?, if_neg hdecimal, SizedType.ofTag?_tag]
  simp only [hlength, Option.map_some, UInt64.ofNat_toNat]

theorem flatOfVariant?_decimal (p s : UInt32) :
    flatOfVariant? "Decimal"
      (.record [("precision", .integer p.toNat), ("scale", .integer s.toNat)]) =
        some (decimal p s) := by
  have hfields : (Json.record [("precision", .integer p.toNat), ("scale", .integer s.toNat)]).fields?
      ["precision", "scale"] = some [.integer p.toNat, .integer s.toNat] :=
    Json.fields?_record (show ["precision", "scale"].Nodup by decide)
  have hvalue : ∀ n : UInt32, (Json.integer n.toNat).natural? (2 ^ (32 : Nat)) = some n.toNat :=
    fun n => Json.natural?_integer n.toNat_lt (by decide)
  rw [flatOfVariant?, if_pos rfl, hfields]
  simp only [hvalue, Option.bind_eq_bind, Option.bind_some, UInt32.ofNat_toNat]
  rfl

/-! ## Nested types -/

theorem ofJson?_text (levels : Nat) (tag : String) :
    ofJson? levels (.text tag) = (PlainType.ofTag? tag).map plain := by
  cases levels <;> rfl

theorem ofJson?_zero (tag : String) (content : Json) :
    ofJson? 0 (.record [(tag, content)]) = none := rfl

theorem ofJson?_sized (levels : Nat) (k : SizedType) (content : Json) :
    ofJson? (levels + 1) (.record [(k.tag, content)]) = flatOfVariant? k.tag content := by
  cases k <;> rfl

theorem ofJson?_decimal_one (content : Json) :
    ofJson? 1 (.record [("Decimal", content)]) = none := rfl

theorem ofJson?_decimal (levels : Nat) (content : Json) :
    ofJson? (levels + 2) (.record [("Decimal", content)]) = flatOfVariant? "Decimal" content := rfl

theorem ofJson?_array (levels : Nat) (content : Json) :
    ofJson? (levels + 1) (.record [("Array", content)]) = (ofJson? levels content).map array := rfl

theorem ofJson?_row_one (items : List Json) :
    ofJson? 1 (.record [("Row", .array items)]) = none := rfl

theorem ofJson?_row (levels : Nat) (items : List Json) :
    ofJson? (levels + 2) (.record [("Row", .array items)]) =
      (items.mapM (fieldOfJson? levels)).map row := rfl

/-- Whether the document of a type is read back exactly within as many levels as it nests. -/
def ReadsBack (t : ColumnType) : Prop :=
  ∀ levels, ofJson? levels t.toJson = if t.toJson.levels ≤ levels then some t else none

theorem fieldOfJson?_fieldToJson {f : Named ColumnType} (h : f.type.ReadsBack) (levels : Nat) :
    fieldOfJson? levels (fieldToJson f) =
      if (fieldToJson f).levels ≤ levels then some f else none := by
  rw [levels_fieldToJson]
  cases levels with
  | zero => rfl
  | succ levels =>
    have hfields : (Json.record [("name", .text f.name), ("data_type", f.type.toJson)]).fields?
        ["name", "data_type"] = some [.text f.name, f.type.toJson] :=
      Json.fields?_record (show ["name", "data_type"].Nodup by decide)
    rw [fieldToJson, fieldOfJson?, hfields]
    simp only [h levels, Nat.add_le_add_iff_right]
    by_cases hle : f.type.toJson.levels ≤ levels
    · simp only [if_pos hle]
      rfl
    · simp only [if_neg hle]
      rfl

theorem mapM_fieldOfJson? {fs : List (Named ColumnType)} (h : ∀ f ∈ fs, f.type.ReadsBack)
    (levels : Nat) :
    (fieldsToJson fs).mapM (fieldOfJson? levels) =
      if Json.itemsLevels (fieldsToJson fs) ≤ levels then some fs else none := by
  induction fs with
  | nil => rfl
  | cons f fs ih =>
    rw [List.forall_mem_cons] at h
    rw [fieldsToJson, List.mapM_cons, fieldOfJson?_fieldToJson h.1, ih h.2, Json.itemsLevels]
    by_cases hf : (fieldToJson f).levels ≤ levels
    · by_cases hfs : Json.itemsLevels (fieldsToJson fs) ≤ levels
      · rw [if_pos hf, if_pos hfs, if_pos (Nat.max_le.mpr ⟨hf, hfs⟩)]
        rfl
      · rw [if_pos hf, if_neg hfs, if_neg fun h => hfs (Nat.max_le.mp h).2]
        rfl
    · rw [if_neg hf, if_neg fun h => hf (Nat.max_le.mp h).1]
      rfl

theorem readsBack (t : ColumnType) : t.ReadsBack := by
  induction t using induction_on_fields with
  | plain k =>
    intro levels
    rw [toJson, ofJson?_text, PlainType.ofTag?_tag]
    exact (if_pos (Nat.zero_le levels)).symm
  | sized k n =>
    intro levels
    rw [toJson, Json.levels_variant]
    cases levels with
    | zero => rw [ofJson?_zero, if_neg (Nat.not_succ_le_zero _)]
    | succ levels =>
      rw [ofJson?_sized, flatOfVariant?_sized]
      exact (if_pos (Nat.le_add_left 1 levels)).symm
  | decimal p s =>
    intro levels
    have hlevels : (decimal p s).toJson.levels = 2 := rfl
    rw [hlevels]
    match levels with
    | 0 => rw [toJson, ofJson?_zero, if_neg (by decide)]
    | 1 => rw [toJson, ofJson?_decimal_one, if_neg (by decide)]
    | levels + 2 =>
      rw [toJson, ofJson?_decimal, flatOfVariant?_decimal, if_pos (Nat.le_add_left 2 levels)]
  | array t ih =>
    intro levels
    rw [toJson, Json.levels_variant]
    cases levels with
    | zero => rw [ofJson?_zero, if_neg (Nat.not_succ_le_zero _)]
    | succ levels =>
      rw [ofJson?_array, ih levels]
      simp only [Nat.add_le_add_iff_right]
      split <;> rfl
  | row fs ih =>
    intro levels
    have hlevels : (row fs).toJson.levels = Json.itemsLevels (fieldsToJson fs) + 2 :=
      Json.levels_variant "Row" _
    rw [hlevels]
    -- the fields are two levels in: the object of the variant and the list of the fields
    match levels with
    | 0 => rw [toJson, ofJson?_zero, if_neg (by omega)]
    | 1 => rw [toJson, ofJson?_row_one, if_neg (by omega)]
    | levels + 2 =>
      rw [toJson, ofJson?_row, mapM_fieldOfJson? ih]
      simp only [Nat.add_le_add_iff_right]
      split <;> rfl

theorem parse?_render (t : ColumnType) :
    parse? t.toJson.render = if t.toJson.levels ≤ Json.maxLevels then some t else none := by
  rw [parse?, Json.render, String.toList_ofList, Json.parse?_chars t.wellFormed_toJson]
  exact t.readsBack Json.maxLevels

end ColumnType

/-! ## Schemas -/

namespace Schema

theorem wellFormed_toJson (schema : Schema) : schema.toJson.WellFormed :=
  Json.wellFormed_variant "columns"
    (ColumnType.wellFormed_fieldsToJson fun column _ => column.type.wellFormed_toJson)

theorem ofJson?_toJson (schema : Schema) :
    ofJson? schema.toJson = if schema.toJson.levels ≤ Json.maxLevels then some schema else none := by
  have hfields : schema.toJson.fields? ["columns"] =
      some [.array (ColumnType.fieldsToJson schema.columns)] :=
    Json.fields?_record (show ["columns"].Nodup by decide)
  have hlevels : schema.toJson.levels =
      Json.itemsLevels (ColumnType.fieldsToJson schema.columns) + 2 :=
    Json.levels_variant "columns" _
  rw [ofJson?, hfields, hlevels]
  simp only [Json.items?]
  rw [ColumnType.mapM_fieldOfJson? fun column _ => column.type.readsBack]
  by_cases hle : Json.itemsLevels (ColumnType.fieldsToJson schema.columns) ≤ Json.maxLevels - 2
  · rw [if_pos hle, if_pos (Nat.add_le_of_le_sub (by decide) hle)]
    rfl
  · rw [if_neg hle, if_neg fun h => hle (Nat.le_sub_of_add_le h)]
    rfl

theorem parse?_render (schema : Schema) :
    parse? schema.toJson.render =
      if schema.toJson.levels ≤ Json.maxLevels then some schema else none := by
  rw [parse?, Json.render, String.toList_ofList, Json.parse?_chars schema.wellFormed_toJson]
  exact schema.ofJson?_toJson

/-- A type and a schema are read back from their texts if these nest no deeper than the reader goes,
whatever the names and their order; deeper ones are not read. -/
theorem read_back_from_text :
    (∀ type : ColumnType, ColumnType.parse? type.toJson.render =
      if type.toJson.levels ≤ Json.maxLevels then some type else none) ∧
    ∀ schema : Schema, parse? schema.toJson.render =
      if schema.toJson.levels ≤ Json.maxLevels then some schema else none :=
  ⟨ColumnType.parse?_render, parse?_render⟩

/-- A row in a column: the schema, its columns, the column, its type, the fields and the field. -/
example : (toJson ⟨[⟨"", .row [⟨"", .plain .date⟩]⟩]⟩).levels = 6 := by decide

end Schema
end Resultset
