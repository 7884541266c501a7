import Resultset.Proofs.Overlaps
import Resultset.Proofs.Readings
import Resultset.Stream.Queue

/-! # Columns by name

A name stands for the first column that has it (`Schema.indexOf?_eq_some_iff`), and the number that
it is resolved to is the position of that column from 1, as long as the columns can be counted
(`ordinal_of_first`). A reading by name is therefore the reading by that number, in every state of
the cursor and within overlaps too (`read_by_name`).
-/

namespace Resultset
set_option autoImplicit false

namespace Schema

/-- Whether the column at a position, from 0, is the first one with this name. -/
def FirstAt (schema : Schema) (name : String) (position : Nat) : Prop :=
  schema.names[position]? = some name ∧ ∀ before < position, schema.names[before]? ≠ some name

theorem indexOf?_eq_some_iff {schema : Schema} {name : String} {position : Nat} :
    schema.indexOf? name = some position ↔ schema.FirstAt name position := by
  have hnames : schema.indexOf? name = schema.names.findIdx? (· == name) := by
    rw [names, List.findIdx?_map]
    rfl
  rw [hnames, List.findIdx?_eq_some_iff_getElem, FirstAt]
  simp only [List.getElem?_eq_some_iff, beq_iff_eq, ne_eq]
  constructor
  · rintro ⟨hlt, hname, hbefore⟩
    refine ⟨⟨hlt, hname⟩, ?_⟩
    rintro before hlower ⟨_, hsame⟩
    exact hbefore before hlower hsame
  · rintro ⟨⟨hlt, hname⟩, hbefore⟩
    exact ⟨hlt, hname, fun before hlower hsame =>
      hbefore before hlower ⟨Nat.lt_trans hlower hlt, hsame⟩⟩

theorem FirstAt.lt_size {schema : Schema} {name : String} {position : Nat}
    (h : schema.FirstAt name position) : position < schema.size :=
  lt_size_of_indexOf? (indexOf?_eq_some_iff.mpr h)

theorem exists_firstAt {schema : Schema} {name : String} (h : name ∈ schema.names) :
    ∃ position, schema.FirstAt name position := by
  cases hindex : schema.indexOf? name with
  | none => exact absurd h ((schema.indexOf?_eq_none_iff name).mp hindex)
  | some position => exact ⟨position, indexOf?_eq_some_iff.mp hindex⟩

end Schema

namespace Cursor
variable {σ : Type} {cursor : Cursor σ}

theorem ordinal_of_unknown {name : String} (h : name ∉ cursor.schema.names) :
    cursor.ordinal name = .error (.unknownColumn name) := by
  rw [ordinal_eq, (cursor.schema.indexOf?_eq_none_iff name).mpr h]

theorem ordinal_of_first {name : String} {position : Nat}
    (hfirst : cursor.schema.FirstAt name position) :
    cursor.ordinal name = .ok (Int32.ofNat position + 1) := by
  rw [ordinal_eq, Schema.indexOf?_eq_some_iff.mpr hfirst]

/-- The number of a column counts from 1. -/
theorem toInt_ordinal {position : Nat} (h : position + 1 < 2 ^ (31 : Nat)) :
    (Int32.ofNat position + 1).toInt = position + 1 := by
  have hsum : Int32.ofNat position + 1 = Int32.ofNat (position + 1) :=
    (Int32.ofNat_add position 1).symm
  rw [hsum, Int32.toInt_ofNat_of_lt h]
  rfl

/-! ## Two ways to say a column -/

theorem get_congr {a b : ColumnRef} (h : cursor.resolve a = cursor.resolve b) (g : Getter) :
    cursor.get a g = cursor.get b g := by
  rw [get_eq, get_eq, h]

theorem arrive_congr {a b : ColumnRef} (h : cursor.resolve a = cursor.resolve b) (g : Getter) :
    cursor.arrive a g = cursor.arrive b g := by
  refine Prod.ext ?_ ((cursor.arrive_snd a g).trans (cursor.arrive_snd b g).symm)
  rw [arrive_fst, arrive_fst, h]

theorem overlap_congr [RowStream σ] {a b : ColumnRef} (h : cursor.resolve a = cursor.resolve b)
    (arrival : Arrival) (g : Getter) : cursor.overlap arrival a g = cursor.overlap arrival b g := by
  have hresolve : ∀ c : Cursor σ, c.schema = cursor.schema → c.resolve a = c.resolve b := by
    intro c hschema
    rw [resolve_of_schema_eq hschema, resolve_of_schema_eq hschema, h]
  -- An idle cursor is read after the advance and the close, and those keep the columns.
  by_cases hidle : cursor.closed = true ∨ cursor.position = .afterLast
  · have hschema : cursor.advance.2.close.2.schema = cursor.schema :=
      (schema_close _).trans cursor.schema_advance
    rw [overlap_of_idle hidle, overlap_of_idle hidle, advanceCloseGet_eq, advanceCloseGet_eq,
      get_congr (hresolve _ hschema)]
  · have hmarked := hresolve cursor.markClosed rfl
    unfold overlap
    rw [if_neg hidle, if_neg hidle]
    cases arrival with
    | beforeMark => simp only [arrive_congr h]
    | afterMark => simp only [arrive_congr hmarked]

/-! ## Columns within the row -/

theorem isIndexError_of_refused {index : Int32} {e : CursorError} (h : Refused cursor index e)
    (hpositive : 0 < index.toInt)
    (hwithin : ∀ row, cursor.current = some row → index.toInt ≤ row.arity) :
    e.isIndexError = false := by
  cases h with
  | closed | unpositioned | empty => rfl
  | nonPositive hindex => omega
  | past hcurrent hindex => exact absurd (hwithin _ hcurrent) (by omega)

/-- No reading of a column that the row has fails for its number. -/
theorem isIndexError_getAt {index : Int32} {g : Getter} {e : CursorError}
    (h : cursor.getAt index g = .error e) (hpositive : 0 < index.toInt)
    (hwithin : ∀ row, cursor.current = some row → index.toInt ≤ row.arity) :
    e.isIndexError = false := by
  cases getAt_failed h with
  | refused hrefused => exact isIndexError_of_refused hrefused hpositive hwithin
  | undeclared | unread | unscaled | declined => rfl

/-! ## Readings by name -/

theorem get_of_ordinal_ok {name : String} {index : Int32} (h : cursor.ordinal name = .ok index)
    (g : Getter) : cursor.get (.name name) g = cursor.getAt index g := by
  rw [get_eq, resolve_name, h]
  rfl

theorem get_of_ordinal_error {name : String} {e : CursorError}
    (h : cursor.ordinal name = .error e) (g : Getter) :
    cursor.get (.name name) g = .error e := by
  rw [get_eq, resolve_name, h]
  rfl

/-- After any run over any stream whose columns can be counted, an unknown name is refused whatever
the cursor is at, and a known one has the number of the first column with that name. A reading by
name is the reading by that number, on its own and within an overlap. If the row has as many values
as there are columns, no reading by name fails for the number of its column. -/
theorem read_by_name {σ : Type} [RowStream σ] (stream : σ) (converter : Converter) (config : Config)
    (steps : List Step) (hsize : (RowStream.schema stream).size < 2 ^ (31 : Nat)) (name : String) :
    let schema := RowStream.schema stream
    let cursor := (start stream converter config).after steps
    (name ∉ schema.names →
        cursor.ordinal name = .error (.unknownColumn name) ∧
          ∀ g, cursor.get (.name name) g = .error (.unknownColumn name)) ∧
      (name ∈ schema.names →
        ∃ (position : Nat) (index : Int32),
          schema.FirstAt name position ∧ index.toInt = position + 1 ∧
            cursor.ordinal name = .ok index ∧
            (∀ g, cursor.get (.name name) g = cursor.getAt index g) ∧
            ∀ arrival g, cursor.overlap arrival (.name name) g =
              cursor.overlap arrival (.index index) g) ∧
      ((∀ row, cursor.current = some row → schema.size ≤ row.arity) →
        ∀ g e, cursor.get (.name name) g = .error e → e.isIndexError = false) := by
  intro schema cursor
  have hschema : cursor.schema = schema := (start stream converter config).schema_after steps
  have hunknown : name ∉ schema.names → cursor.ordinal name = .error (.unknownColumn name) :=
    fun habsent => ordinal_of_unknown (hschema ▸ habsent)
  have hknown : name ∈ schema.names → ∃ (position : Nat) (index : Int32),
      schema.FirstAt name position ∧ index.toInt = position + 1 ∧
        cursor.ordinal name = .ok index := fun hpresent => by
    obtain ⟨position, hfirst⟩ := Schema.exists_firstAt hpresent
    have hlt : position < (RowStream.schema stream).size := hfirst.lt_size
    exact ⟨position, _, hfirst, toInt_ordinal (by omega), ordinal_of_first (hschema ▸ hfirst)⟩
  refine ⟨fun habsent => ?_, fun hpresent => ?_, fun hwide g e hfails => ?_⟩
  · exact ⟨hunknown habsent, get_of_ordinal_error (hunknown habsent)⟩
  · obtain ⟨position, index, hfirst, hindex, hordinal⟩ := hknown hpresent
    exact ⟨position, index, hfirst, hindex, hordinal, get_of_ordinal_ok hordinal,
      overlap_congr hordinal⟩
  · by_cases hpresent : name ∈ schema.names
    · obtain ⟨position, index, hfirst, hindex, hordinal⟩ := hknown hpresent
      have hlt : position < schema.size := hfirst.lt_size
      rw [get_of_ordinal_ok hordinal] at hfails
      refine isIndexError_getAt hfails (by omega) fun row hcurrent => ?_
      have harity := hwide row hcurrent
      omega
    · rw [get_of_ordinal_error (hunknown hpresent)] at hfails
      exact Except.error.inj hfails ▸ rfl

/-- On a null row a name that two columns have is read as the first of them, the second column. -/
theorem read_by_name_of_repeated :
    let schema : Schema := ⟨[⟨"a", .plain .integer⟩, ⟨"b", .decimal 5 2⟩, ⟨"b", .plain .date⟩]⟩
    let stream := RowQueue.of schema [some ⟨[.null, .string "1.5", .null]⟩, none]
    let cursor := (start stream .textual Config.default).after [.advance, .query .wasNull, .advance]
    (RowStream.schema stream).size < 2 ^ (31 : Nat) ∧ schema.FirstAt "b" 1 ∧ cursor.ordinal "b" = .ok 2 ∧
      (∀ g, cursor.get (.name "b") g = cursor.getAt 2 g) ∧
      ∀ g, cursor.get (.name "c") g = .error (.unknownColumn "c") := by
  intro schema stream cursor
  have hsize : (RowStream.schema stream).size < 2 ^ (31 : Nat) := by decide
  obtain ⟨position, index, hfirst, hindex, hordinal, hget, -⟩ :=
    (read_by_name stream .textual Config.default [.advance, .query .wasNull, .advance] hsize "b").2.1
      (by decide)
  have hsecond : index = 2 := Except.ok.inj (hordinal.symm.trans rfl)
  subst hsecond
  obtain rfl : position = 1 := by
    have htwo : (2 : Int32).toInt = 2 := rfl
    omega
  refine ⟨hsize, hfirst, hordinal, hget, ?_⟩
  exact ((read_by_name stream .textual Config.default [.advance, .query .wasNull, .advance] hsize
    "c").1 (by decide)).2

end Cursor
end Resultset
