import Resultset.Cursor.Session

/-! # What a look finds and leaves

Each check and each reading keeps the cursor (`keeps_reading`, and `keeps_` of the steps), by the
checks and readings that it is made of. So its answer is that of its steps one after the other, all
of them at the same cursor (`answer_reading`, and `answer_` of the steps), and a step that asks
leaves the cursor as it is (`take_query`).
-/

namespace Resultset
set_option autoImplicit false

namespace Look
variable {σ : Type}

/-! ## Frames -/

theorem keeps_checkOpen : (checkOpen : Look σ Unit).Keeps := by
  refine keeps_get.bind fun cursor => ?_
  split
  · exact keeps_throw _
  · exact keeps_pure _

theorem keeps_validRow : (validRow : Look σ Row).Keeps := by
  refine keeps_get.bind fun cursor => ?_
  split
  · split
    · exact keeps_throw _
    · exact keeps_pure _
  · exact keeps_throw _

theorem keeps_validPosition (row : Row) (index : Int32) :
    (validPosition row index : Look σ Nat).Keeps := by
  unfold validPosition
  split
  · exact keeps_throw _
  · split
    · exact keeps_throw _
    · exact keeps_pure _

theorem keeps_locate (index : Int32) : (locate index : Look σ (Row × Nat)).Keeps :=
  keeps_checkOpen.bind fun _ => keeps_validRow.bind fun row =>
    (keeps_validPosition row index).bind fun _ => keeps_pure _

theorem keeps_declaredDecimal (position : Nat) :
    (declaredDecimal position : Look σ (UInt32 × UInt32)).Keeps := by
  refine keeps_get.bind fun cursor => ?_
  split
  · split
    · exact keeps_pure _
    · exact keeps_throw _
  · exact keeps_throw _

theorem keeps_extract (t : Target) (row : Row) (position : Nat) :
    (extract t row position : Look σ t.Result).Keeps :=
  keeps_get.bind fun _ => keeps_lift _

theorem keeps_scalarAt (s : Scalar) (index : Int32) :
    (scalarAt s index : Look σ s.Result).Keeps :=
  (keeps_locate index).bind fun _ => keeps_extract _ _ _

theorem keeps_decimalAt (index : Int32) : (decimalAt index : Look σ (Option Decimal)).Keeps :=
  (keeps_locate index).bind fun _ => (keeps_declaredDecimal _).bind fun _ => keeps_extract _ _ _

theorem keeps_decimalOfScaleAt (scale : Nat) (index : Int32) :
    (decimalOfScaleAt scale index : Look σ (Option Decimal)).Keeps := by
  refine (keeps_decimalAt index).bind fun found => ?_
  cases found with
  | none => exact keeps_pure _
  | some d => exact keeps_lift _

theorem keeps_ordinal (name : String) : (ordinal name : Look σ Int32).Keeps := by
  refine keeps_get.bind fun cursor => ?_
  split
  · exact keeps_pure _
  · exact keeps_throw _

theorem keeps_resolve (column : ColumnRef) : (resolve column : Look σ Int32).Keeps := by
  cases column with
  | index i => exact keeps_pure _
  | name n => exact keeps_ordinal n

theorem keeps_enter (g : Getter) : (enter g : Look σ Unit).Keeps := by
  unfold enter
  split
  · exact keeps_checkOpen
  · exact keeps_pure _

theorem keeps_reach (index : Int32) (g : Getter) : (reach index g : Look σ g.Result).Keeps := by
  cases g with
  | scalar s => exact keeps_scalarAt s index
  | decimal => exact keeps_decimalAt index
  | decimalOfScale scale => exact keeps_decimalOfScaleAt scale index
  | declined kind => exact keeps_checkOpen.bind fun _ => keeps_throw _

theorem keeps_readAt (index : Int32) (g : Getter) : (readAt index g : Look σ g.Result).Keeps :=
  (keeps_enter g).bind fun _ => keeps_reach index g

theorem keeps_reading (column : ColumnRef) (g : Getter) :
    (reading column g : Look σ g.Result).Keeps :=
  (keeps_resolve column).bind fun index => keeps_readAt index g

theorem keeps_approach (column : ColumnRef) (g : Getter) :
    (approach column g : Look σ Int32).Keeps :=
  (keeps_resolve column).bind fun _ => (keeps_enter g).bind fun _ => keeps_pure _

theorem keeps_isClosed : (isClosed : Look σ Bool).Keeps := keeps_get.bind fun _ => keeps_pure _

theorem keeps_isAt (position : Position) : (isAt position : Look σ Bool).Keeps :=
  keeps_get.bind fun _ => keeps_pure _

theorem keeps_schema : (schema : Look σ Schema).Keeps := keeps_get.bind fun _ => keeps_pure _

theorem keeps_wasNull : (wasNull : Look σ Bool).Keeps :=
  keeps_checkOpen.bind fun _ => keeps_get.bind fun _ => keeps_pure _

theorem keeps_metadata : (metadata : Look σ Schema).Keeps :=
  keeps_checkOpen.bind fun _ => keeps_throw _

/-! ## Answers -/

section
variable (cursor : Cursor σ)

theorem answer_checkOpen :
    checkOpen.answer cursor = if cursor.closed then .error .closed else .ok () := by
  rw [checkOpen, answer_get_bind]
  split <;> rfl

theorem answer_validRow :
    validRow.answer cursor =
      match cursor.position, cursor.current with
      | .onRow, some row => if row.arity = 0 then .error (.noCurrentRow .emptyRow) else .ok row
      | _, _ => .error (.noCurrentRow .notPositioned) := by
  rw [validRow, answer_get_bind]
  generalize cursor.position = position, cursor.current = current
  cases position with
  | onRow =>
    cases current with
    | none => rfl
    | some row =>
      simp only
      split <;> rfl
  | _ => rfl

theorem answer_validPosition (row : Row) (index : Int32) :
    (validPosition row index).answer cursor =
      if index.toInt ≤ 0 then .error (.nonPositiveIndex index)
      else if row.arity < index.toInt.toNat then .error (.indexOutOfBounds index row.arity)
      else .ok (index.toInt.toNat - 1) := by
  unfold validPosition
  split
  · rfl
  · split <;> rfl

theorem answer_locate (index : Int32) :
    (locate index).answer cursor = do
      checkOpen.answer cursor
      let row ← validRow.answer cursor
      let position ← (validPosition row index).answer cursor
      return (row, position) := by
  rw [locate, keeps_checkOpen.answer_bind]
  simp only [keeps_validRow.answer_bind, (keeps_validPosition _ _).answer_bind]
  rfl

theorem answer_declaredDecimal (position : Nat) :
    (declaredDecimal position).answer cursor =
      match cursor.schema.typeAt? position with
      | some type =>
        match type.decimalShape? with
        | some shape => .ok shape
        | none => .error (.notDecimal (some type))
      | none => .error (.notDecimal none) := by
  rw [declaredDecimal, answer_get_bind]
  cases cursor.schema.typeAt? position with
  | none => rfl
  | some type =>
    simp only
    cases type.decimalShape? <;> rfl

theorem answer_scalarAt (s : Scalar) (index : Int32) :
    (scalarAt s index).answer cursor = (do
      let (row, position) ← (locate index).answer cursor
      (cursor.converter.read (.scalar s) row position).mapError .extraction) := by
  rw [scalarAt, (keeps_locate index).answer_bind]
  rfl

theorem answer_decimalAt (index : Int32) :
    (decimalAt index).answer cursor = (do
      let (row, position) ← (locate index).answer cursor
      let (precision, scale) ← (declaredDecimal position).answer cursor
      (cursor.converter.read (.decimal precision.toNat scale.toNat) row position).mapError
        .extraction) := by
  rw [decimalAt, (keeps_locate index).answer_bind]
  simp only [(keeps_declaredDecimal _).answer_bind]
  rfl

theorem answer_decimalOfScaleAt (scale : Nat) (index : Int32) :
    (decimalOfScaleAt scale index).answer cursor = (do
      match ← (decimalAt index).answer cursor with
      | none => return none
      | some d => ((d.toScale scale).map some).mapError .extraction) := by
  rw [decimalOfScaleAt, (keeps_decimalAt index).answer_bind]
  congr 1
  funext found
  cases found <;> rfl

theorem answer_readAt (index : Int32) (g : Getter) :
    (readAt index g).answer cursor = (do
      (enter g).answer cursor
      (reach index g).answer cursor) := by
  rw [readAt, (keeps_enter g).answer_bind]

theorem answer_approach (column : ColumnRef) (g : Getter) :
    (approach column g).answer cursor = (do
      let index ← (resolve column).answer cursor
      (enter g).answer cursor
      return index) := by
  rw [approach, (keeps_resolve column).answer_bind]
  simp only [(keeps_enter g).answer_bind]
  rfl

theorem answer_reading (column : ColumnRef) (g : Getter) :
    (reading column g).answer cursor = (do
      let index ← (resolve column).answer cursor
      (readAt index g).answer cursor) := by
  rw [reading, (keeps_resolve column).answer_bind]

end

section
variable {cursor : Cursor σ}

theorem checkOpen_of_closed (h : cursor.closed = true) :
    checkOpen.answer cursor = .error .closed := by
  rw [answer_checkOpen, if_pos h]

theorem checkOpen_of_open (h : cursor.closed = false) : checkOpen.answer cursor = .ok () := by
  rw [answer_checkOpen, if_neg (by simp [h])]

theorem locate_of_closed (h : cursor.closed = true) (index : Int32) :
    (locate index).answer cursor = .error .closed := by
  rw [answer_locate, checkOpen_of_closed h]
  rfl

theorem reach_of_closed (h : cursor.closed = true) (index : Int32) (g : Getter) :
    (reach index g).answer cursor = .error .closed := by
  have hlocate := locate_of_closed h index
  have hdecimal : (decimalAt index).answer cursor = .error .closed := by
    rw [answer_decimalAt, hlocate]
    rfl
  cases g with
  | scalar s =>
    rw [reach, answer_scalarAt, hlocate]
    rfl
  | decimal => exact hdecimal
  | decimalOfScale scale =>
    rw [reach, answer_decimalOfScaleAt, hdecimal]
    rfl
  | declined kind =>
    rw [reach, keeps_checkOpen.answer_bind, checkOpen_of_closed h]
    rfl

/-- The second look whether the cursor is open finds what the first one found. -/
theorem answer_readAt_eq_reach (index : Int32) (g : Getter) :
    (readAt index g).answer cursor = (reach index g).answer cursor := by
  rw [answer_readAt, enter]
  cases hclosed : cursor.closed with
  | true =>
    rw [reach_of_closed hclosed]
    split
    · rw [checkOpen_of_closed hclosed]
      rfl
    · rfl
  | false =>
    split
    · rw [checkOpen_of_open hclosed]
      rfl
    · rfl

end
end Look

namespace Cursor
variable {σ : Type}

/-! ## Readings of one cursor -/

theorem ordinal_eq (cursor : Cursor σ) (name : String) :
    cursor.ordinal name =
      match cursor.schema.indexOf? name with
      | some position => .ok (Int32.ofNat position + 1)
      | none => .error (.unknownColumn name) := by
  rw [ordinal, Look.ordinal, Look.answer_get_bind]
  cases cursor.schema.indexOf? name <;> rfl

theorem ordinal_failed {cursor : Cursor σ} {name : String} {e : CursorError}
    (h : cursor.ordinal name = .error e) : e = .unknownColumn name := by
  rw [ordinal_eq] at h
  split at h
  · contradiction
  · exact (Except.error.inj h).symm

theorem resolve_name (cursor : Cursor σ) (n : String) :
    cursor.resolve (.name n) = cursor.ordinal n := rfl

theorem getAt_eq_reach (cursor : Cursor σ) (index : Int32) (g : Getter) :
    cursor.getAt index g = (Look.reach index g).answer cursor :=
  Look.answer_readAt_eq_reach index g

theorem getAt_of_closed {cursor : Cursor σ} (h : cursor.closed = true) (index : Int32)
    (g : Getter) : cursor.getAt index g = .error .closed := by
  rw [getAt_eq_reach, Look.reach_of_closed h]

theorem getAt_declined_of_open {cursor : Cursor σ} (h : cursor.closed = false) (index : Int32)
    (kind : DeclinedReading) :
    cursor.getAt index (.declined kind) = .error (.declined (.reading kind)) := by
  rw [getAt_eq_reach, Look.reach, Look.keeps_checkOpen.answer_bind, Look.checkOpen_of_open h]
  rfl

theorem get_eq (cursor : Cursor σ) (column : ColumnRef) (g : Getter) :
    cursor.get column g = (do
      let index ← cursor.resolve column
      cursor.getAt index g) :=
  Look.answer_reading cursor column g

theorem get_index (cursor : Cursor σ) (i : Int32) (g : Getter) :
    cursor.get (.index i) g = cursor.getAt i g := by
  rw [get_eq]
  rfl

theorem wasNull_eq (cursor : Cursor σ) :
    cursor.wasNull = (Look.checkOpen.answer cursor).map fun _ => cursor.nullRow := by
  rw [wasNull, Look.wasNull, Look.keeps_checkOpen.answer_bind]
  rfl

theorem wasNull_of_open {cursor : Cursor σ} (h : cursor.closed = false) :
    cursor.wasNull = .ok cursor.nullRow := by
  rw [wasNull_eq, Look.checkOpen_of_open h]
  rfl

theorem wasNull_of_closed {cursor : Cursor σ} (h : cursor.closed = true) :
    cursor.wasNull = .error .closed := by
  rw [wasNull_eq, Look.checkOpen_of_closed h]
  rfl

/-! ## Queries -/

theorem ask_snd (cursor : Cursor σ) (q : Query) : (cursor.ask q).2 = cursor := by
  cases q with
  | wasNull => exact Look.keeps_wasNull cursor
  | isClosed => exact Look.keeps_isClosed cursor
  | isAt position => exact Look.keeps_isAt position cursor
  | ordinal name => exact Look.keeps_ordinal name cursor
  | metadata => exact Look.keeps_metadata cursor
  | schema => exact Look.keeps_schema cursor
  | get column g => exact Look.keeps_reading column g cursor

theorem answer_wasNull (cursor : Cursor σ) : cursor.answer .wasNull = .flag cursor.wasNull := rfl

theorem answer_isClosed (cursor : Cursor σ) :
    cursor.answer .isClosed = .flag (.ok cursor.closed) := rfl

theorem answer_isAt (cursor : Cursor σ) (position : Position) :
    cursor.answer (.isAt position) = .flag (.ok (cursor.position == position)) := rfl

theorem answer_ordinal (cursor : Cursor σ) (name : String) :
    cursor.answer (.ordinal name) = .ordinal (cursor.ordinal name) := rfl

theorem answer_metadata (cursor : Cursor σ) :
    cursor.answer .metadata =
      .schema (Look.checkOpen.answer cursor >>= fun _ => .error (.declined .metadata)) :=
  congrArg Answer.schema (Look.keeps_checkOpen.answer_bind _ cursor)

theorem answer_schema (cursor : Cursor σ) :
    cursor.answer .schema = .schema (.ok cursor.schema) := rfl

theorem answer_get (cursor : Cursor σ) (column : ColumnRef) (g : Getter) :
    cursor.answer (.get column g) = .reading g (cursor.get column g) := rfl

theorem take_query [RowStream σ] (cursor : Cursor σ) (q : Query) :
    cursor.take (.query q) = (cursor.answer q, cursor) := Prod.ext rfl (cursor.ask_snd q)

/-! ## Readings in two parts -/

theorem arrive_snd (cursor : Cursor σ) (column : ColumnRef) (g : Getter) :
    (cursor.arrive column g).2 = cursor := by
  unfold arrive
  split
  · rw [(Look.keeps_approach column g).on_eq]
    split
    · next h => exact (Prod.mk.inj h).2.symm
    · next h => exact (Prod.mk.inj h).2.symm
  · exact Look.keeps_reading column g cursor

theorem settle_snd (cursor : Cursor σ) {g : Getter} (reader : Reader g) :
    (cursor.settle reader).2 = cursor := by
  cases reader with
  | waiting index => exact Look.keeps_reach index g cursor
  | done result => rfl

/-- What a reading that begins comes to. -/
theorem arrive_fst (cursor : Cursor σ) (column : ColumnRef) (g : Getter) :
    (cursor.arrive column g).1 =
      match cursor.resolve column with
      | .error e => .done (.error e)
      | .ok index =>
        if g.waits then
          match Look.checkOpen.answer cursor with
          | .error e => .done (.error e)
          | .ok _ => .waiting index
        else .done (cursor.getAt index g) := by
  unfold arrive
  cases hwaits : g.waits with
  | true =>
    rw [if_pos rfl, (Look.keeps_approach column g).on_eq, Look.answer_approach, Look.enter, hwaits]
    cases hindex : cursor.resolve column with
    | error e => rw [← resolve, hindex]; rfl
    | ok index =>
      rw [← resolve, hindex]
      simp only [if_true]
      cases Look.checkOpen.answer cursor <;> rfl
  | false =>
    rw [if_neg Bool.false_ne_true]
    change Reader.done (cursor.get column g) = _
    rw [get_eq]
    cases cursor.resolve column <;> rfl

end Cursor
end Resultset
