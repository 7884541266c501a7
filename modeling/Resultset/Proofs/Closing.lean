import Resultset.Proofs.Overlaps
import Resultset.Stream.Faulty
import Resultset.Stream.Queue

/-! # After the close

`lateAnswer` is what each kind of step answers on a closed cursor: whatever needs the row or the
stream is refused, names are still looked up, and the position is still known. One step answers so
and leaves the cursor as it is (`take_of_closed`). What a close changes has no part in these answers
(`lateAnswer_congr`), so they are those of the cursor that the close found, for the rest of the run
(`closed_for_good`).
-/

namespace Resultset.Cursor
set_option autoImplicit false
variable {σ : Type}

/-! ## Late answers -/

/-- The answer of a reading of a closed cursor with these columns. -/
def lateReading {α : Type} (schema : Schema) : ColumnRef → Except CursorError α
  | .index _ => .error .closed
  | .name n => .error (if n ∈ schema.names then .closed else .unknownColumn n)

/-- The answer of a step once the cursor is closed. -/
def lateAnswer (cursor : Cursor σ) : Step → Answer
  | .advance => .advanced (.error .closed)
  | .close => .closed (.ok ())
  | .overlap _ column g =>
    .overlap g ⟨.error .closed, .ok (), lateReading cursor.schema column⟩
  | .query .wasNull => .flag (.error .closed)
  | .query .isClosed => .flag (.ok true)
  | .query .metadata => .schema (.error .closed)
  | .query (.get column g) => .reading g (lateReading cursor.schema column)
  | .query (.isAt position) => cursor.answer (.isAt position)
  | .query (.ordinal name) => cursor.answer (.ordinal name)
  | .query .schema => cursor.answer .schema

theorem lateAnswer_congr {c d : Cursor σ} (hschema : c.schema = d.schema)
    (hposition : c.position = d.position) (step : Step) : c.lateAnswer step = d.lateAnswer step := by
  cases step with
  | advance => rfl
  | close => rfl
  | overlap arrival column g => rw [lateAnswer, lateAnswer, hschema]
  | query q =>
    cases q with
    | wasNull => rfl
    | isClosed => rfl
    | metadata => rfl
    | get column g => rw [lateAnswer, lateAnswer, hschema]
    | isAt position => rw [lateAnswer, lateAnswer, answer_isAt, answer_isAt, hposition]
    | ordinal name =>
      rw [lateAnswer, lateAnswer, answer_ordinal, answer_ordinal, ordinal_eq, ordinal_eq, hschema]
    | schema => rw [lateAnswer, lateAnswer, answer_schema, answer_schema, hschema]

/-! ## Steps of a closed cursor -/

theorem get_eq_lateReading {cursor : Cursor σ} (hclosed : cursor.closed = true)
    (column : ColumnRef) (g : Getter) :
    cursor.get column g = lateReading cursor.schema column := by
  rw [get_of_closed hclosed, refusal]
  cases column with
  | index i => rfl
  | name n =>
    rw [resolve_name, ordinal_eq, lateReading]
    by_cases hknown : n ∈ cursor.schema.names
    · have hfound : cursor.schema.indexOf? n ≠ none := fun h =>
        (cursor.schema.indexOf?_eq_none_iff n).mp h hknown
      obtain ⟨position, hposition⟩ := Option.ne_none_iff_exists'.mp hfound
      rw [hposition, if_pos hknown]
    · rw [(cursor.schema.indexOf?_eq_none_iff n).mpr hknown, if_neg hknown]

theorem answer_of_closed {cursor : Cursor σ} (hclosed : cursor.closed = true) (q : Query) :
    cursor.answer q = cursor.lateAnswer (.query q) := by
  cases q with
  | wasNull => rw [answer_wasNull, wasNull_of_closed hclosed, lateAnswer]
  | isClosed => rw [answer_isClosed, hclosed, lateAnswer]
  | metadata =>
    rw [answer_metadata, Look.checkOpen_of_closed hclosed, lateAnswer]
    rfl
  | get column g => rw [answer_get, get_eq_lateReading hclosed, lateAnswer]
  | isAt position => rfl
  | ordinal name => rfl
  | schema => rfl

variable [RowStream σ]

theorem take_of_closed {cursor : Cursor σ} (hclosed : cursor.closed = true) (step : Step) :
    cursor.take step = (cursor.lateAnswer step, cursor) := by
  cases step with
  | advance => rw [take_advance, advance_of_closed hclosed, lateAnswer]
  | close => rw [take_close, close_of_closed hclosed, lateAnswer]
  | overlap arrival column g =>
    simp only [take, overlap_of_idle (Or.inl hclosed), advanceCloseGet_eq,
      advance_of_closed hclosed, close_of_closed hclosed, get_eq_lateReading hclosed, lateAnswer]
  | query q => rw [take_query, answer_of_closed hclosed]

theorem history_of_closed {cursor : Cursor σ} (hclosed : cursor.closed = true)
    (steps : List Step) :
    cursor.history steps = steps.map fun step => (cursor.lateAnswer step, cursor) := by
  induction steps with
  | nil => rfl
  | cons step steps ih => rw [history, take_of_closed hclosed, ih, List.map_cons]

theorem drop_of_closed {cursor : Cursor σ} (hclosed : cursor.closed = true) :
    cursor.drop = cursor := by
  rw [drop, shut, if_pos hclosed]
  split <;> rfl

/-! ## The step that closes -/

/-- The cursor that the close within a step finds. In an overlap the fetch comes first. -/
def found (cursor : Cursor σ) : Step → Cursor σ
  | .overlap _ _ _ => cursor.advance.2
  | .advance | .close | .query _ => cursor

theorem take_snd_of_closes (cursor : Cursor σ) {step : Step} (hcloses : step.closes = true) :
    (cursor.take step).2 = (cursor.found step).close.2 := by
  cases step with
  | advance => exact absurd hcloses nofun
  | close => rfl
  | overlap arrival column g => exact cursor.take_overlap_snd arrival column g
  | query q => exact absurd hcloses nofun

/-- Once a step of a run has closed the cursor, every later step is answered from what the close
found, and no later step nor the drop changes the cursor: its position, its log and its stream stay
as they are. The answer of the release has no say in this. -/
theorem closed_for_good (cursor : Cursor σ) (before : List Step) (closing : Step)
    (hcloses : closing.closes = true) (later : List Step) :
    let found := (cursor.after before).found closing
    let shut := cursor.after (before ++ [closing])
    cursor.history (before ++ closing :: later) =
        cursor.history (before ++ [closing]) ++
          later.map (fun step => (found.lateAnswer step, shut)) ∧
      cursor.finish (before ++ closing :: later) = shut ∧
      shut.closed = true ∧ shut.position = found.position := by
  intro found shut
  have hshut : shut = found.close.2 := by
    have hlast : shut = ((cursor.after before).take closing).2 := by
      simp only [shut, after_append]
      rfl
    rw [hlast, take_snd_of_closes _ hcloses]
  have hclosed : shut.closed = true := by rw [hshut, closed_close]
  have hposition : shut.position = found.position := by rw [hshut, position_close]
  have hschema : shut.schema = found.schema := by rw [hshut, schema_close]
  have hsplit : before ++ closing :: later = (before ++ [closing]) ++ later := by
    rw [List.append_assoc, List.singleton_append]
  refine ⟨?_, ?_, hclosed, hposition⟩
  · rw [hsplit, history_append, history_of_closed hclosed]
    congr 1
    refine List.map_congr_left fun step _ => ?_
    rw [lateAnswer_congr hschema hposition]
  · rw [hsplit, finish, after_append, after_of_closed hclosed, drop_of_closed hclosed]

/-- A failed release that comes in during a fetch: the row is there, and no reading gets at it. -/
theorem closed_for_good_past_failed_release :
    let cursor := start (Faulty.of (RowQueue.of ⟨[⟨"id", .plain .integer⟩]⟩ [some ⟨[.null]⟩])
      [⟨.release, 1, .io "reset"⟩]) .typed Config.default
    let closing : Step := .overlap .beforeMark (.index 1) (.scalar .string)
    let shut := cursor.after [closing]
    closing.closes = true ∧
      cursor.history [closing, .query (.get (.name "no") .decimal),
          .query (.get (.name "id") .decimal), .query (.isAt .onRow), .close] =
        cursor.history [closing] ++
          [(.reading .decimal (.error (.unknownColumn "no")), shut),
            (.reading .decimal (.error .closed), shut), (.flag (.ok true), shut),
            (.closed (.ok ()), shut)] := by
  intro cursor closing shut
  exact ⟨rfl, (closed_for_good cursor [] closing rfl [.query (.get (.name "no") .decimal),
    .query (.get (.name "id") .decimal), .query (.isAt .onRow), .close]).1⟩

end Resultset.Cursor
