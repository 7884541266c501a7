import Resultset.Proofs.Readings
import Resultset.Proofs.Steps
import Resultset.Stream.Faulty
import Resultset.Stream.Queue

/-! # Queries leave no trace

A run with some of its queries left out answers the other steps as before and leaves the same cursor
behind each of them. Left out are the steps at the positions that `retain` does not keep, so the two
runs are compared position by position (`run_retain`): the induction is on the steps, and a step that
is left out leaves the cursor to the rest of both runs as it was, because each look that it is made of
does (`Look.Keeps`).
-/

namespace Resultset
set_option autoImplicit false

/-- The members of a list at the positions, from 0, that are kept. -/
def retain {α : Type} : (keep : Nat → Bool) → List α → List α
  | _, [] => []
  | keep, a :: l =>
    if keep 0 then a :: retain (fun i => keep (i + 1)) l else retain (fun i => keep (i + 1)) l

theorem retain_cons_of_kept {α : Type} {keep : Nat → Bool} (hkeep : keep 0 = true) (a : α)
    (l : List α) : retain keep (a :: l) = a :: retain (fun i => keep (i + 1)) l := if_pos hkeep

theorem retain_cons_of_omitted {α : Type} {keep : Nat → Bool} (hkeep : keep 0 = false) (a : α)
    (l : List α) : retain keep (a :: l) = retain (fun i => keep (i + 1)) l :=
  if_neg (by simp [hkeep])

def Step.isQuery : Step → Bool
  | .query _ => true
  | .advance | .close | .overlap _ _ _ => false

namespace Cursor
variable {σ : Type} [RowStream σ]

theorem take_snd_of_isQuery (cursor : Cursor σ) {step : Step} (hquery : step.isQuery = true) :
    (cursor.take step).2 = cursor := by
  cases step with
  | advance => exact absurd hquery nofun
  | close => exact absurd hquery nofun
  | overlap arrival column g => exact absurd hquery nofun
  | query q => rw [take_query]

/-- Both runs at once: what they answer and where they end. -/
theorem run_retain (cursor : Cursor σ) {keep : Nat → Bool} {steps : List Step}
    (hqueries : ∀ step ∈ retain (fun i => !keep i) steps, step.isQuery = true) :
    cursor.history (retain keep steps) = retain keep (cursor.history steps) ∧
      cursor.after (retain keep steps) = cursor.after steps := by
  induction steps generalizing cursor keep with
  | nil => exact ⟨rfl, rfl⟩
  | cons step steps ih =>
    rw [history, after_cons]
    cases hkeep : keep 0 with
    | true =>
      rw [retain_cons_of_omitted (by simp [hkeep])] at hqueries
      obtain ⟨hhistory, hafter⟩ := ih (cursor.take step).2 hqueries
      rw [retain_cons_of_kept hkeep, retain_cons_of_kept hkeep, history, after_cons, hhistory]
      exact ⟨rfl, hafter⟩
    | false =>
      rw [retain_cons_of_kept (by simp [hkeep])] at hqueries
      have hquery : step.isQuery = true := hqueries step List.mem_cons_self
      have hrest : ∀ s ∈ retain (fun i => !keep (i + 1)) steps, s.isQuery = true :=
        fun s hs => hqueries s (List.mem_cons_of_mem _ hs)
      rw [retain_cons_of_omitted hkeep, retain_cons_of_omitted hkeep,
        take_snd_of_isQuery cursor hquery]
      exact ih cursor hrest

/-! ## Readings of a NULL -/

section
variable {σ : Type} {cursor : Cursor σ} {row : Row} {position : Nat} {index : Int32}
  (hopen : cursor.closed = false) (hon : cursor.position = .onRow)
  (hcurrent : cursor.current = some row) (hnull : row.get? position = some .null)
  (hindex : index.toInt = position + 1)
include hopen hon hcurrent hnull hindex

theorem locate_of_null : (Look.locate index).answer cursor = .ok (row, position) := by
  refine Look.locate_of_within hopen hon hcurrent (Nat.lt_of_not_le fun hle => ?_) hindex
  rw [(row.get?_eq_none_iff position).mpr hle] at hnull
  contradiction

theorem getAt_scalar_of_null (s : Scalar) : cursor.getAt index (.scalar s) = .ok s.whenNull := by
  rw [getAt_scalar, Look.scalarAt_of_locate (locate_of_null hopen hon hcurrent hnull hindex),
    Converter.read_of_some hnull, Converter.convert_null]
  rfl

theorem getAt_decimal_of_null {precision scale : UInt32}
    (htype : cursor.schema.typeAt? position = some (.decimal precision scale)) :
    cursor.getAt index .decimal = .ok none := by
  rw [getAt_decimal, Look.decimalAt_of_declared
    (locate_of_null hopen hon hcurrent hnull hindex) htype, Converter.read_of_some hnull,
    Converter.convert_null]
  rfl

end

/-! ## Runs without their queries -/

/-- Leaving queries out of a run changes neither the answer to another step, nor the cursor after
it, nor the cursor after the drop: its position, its row, its marks, its log and its stream. Each
query hands on the cursor that it was asked of, a reading with its value or its error alike, and a
reading of a NULL is no different: what it answers stands for the NULL, and the mark of null rows
stays. -/
theorem queries_unseen (cursor : Cursor σ) (keep : Nat → Bool) (steps : List Step)
    (hqueries : ∀ step ∈ retain (fun i => !keep i) steps, step.isQuery = true) :
    let reached := cursor.after steps
    cursor.history (retain keep steps) = retain keep (cursor.history steps) ∧
      cursor.finish (retain keep steps) = cursor.finish steps ∧
      (∀ q, (reached.take (.query q)).2 = reached) ∧
      (∀ column g,
        reached.take (.query (.get column g)) = (.reading g (reached.get column g), reached)) ∧
      ∀ (row : Row) (position : Nat) (index : Int32), reached.closed = false →
        reached.position = .onRow → reached.current = some row →
        row.get? position = some .null → index.toInt = position + 1 →
        (∀ s, reached.take (.query (.get (.index index) (.scalar s))) =
          (.reading (.scalar s) (.ok s.whenNull), reached)) ∧
        (∀ precision scale, reached.schema.typeAt? position = some (.decimal precision scale) →
          reached.take (.query (.get (.index index) .decimal)) =
            (.reading .decimal (.ok none), reached)) ∧
        ∀ g, (reached.take (.query (.get (.index index) g))).2.take (.query .wasNull) =
          (.flag (.ok reached.nullRow), reached) := by
  intro reached
  obtain ⟨hhistory, hafter⟩ := cursor.run_retain hqueries
  have hget : ∀ column g,
      reached.take (.query (.get column g)) = (.reading g (reached.get column g), reached) :=
    fun column g => reached.take_query (.get column g)
  refine ⟨hhistory, ?_, fun q => take_snd_of_isQuery _ rfl, hget, ?_⟩
  · rw [finish, hafter, finish]
  · intro row position index hopen hon hcurrent hnull hindex
    refine ⟨fun s => ?_, fun precision scale htype => ?_, fun g => ?_⟩
    · rw [hget, get_index, getAt_scalar_of_null hopen hon hcurrent hnull hindex]
    · rw [hget, get_index, getAt_decimal_of_null hopen hon hcurrent hnull hindex htype]
    · rw [hget, take_query, answer_wasNull, wasNull_of_open hopen]

/-- A look at a null, a reading past the row and a look at the mark, left out between the fetch of a
row and a failing close. -/
theorem queries_unseen_around_null :
    let cursor := start (Faulty.of (RowQueue.of Schema.empty [some ⟨[.null]⟩, none])
      [⟨.release, 1, .io "reset"⟩]) .typed Config.default
    let steps := [.advance, .query (.get (.index 1) (.scalar .string)),
      .query (.get (.index 9) .decimal), .query .wasNull, .close]
    (∀ step ∈ retain (fun i => !(i == 0 || i == 4)) steps, step.isQuery = true) ∧
      cursor.history [.advance, .close] =
        retain (fun i => i == 0 || i == 4) (cursor.history steps) ∧
      cursor.finish [.advance, .close] = cursor.finish steps ∧
      cursor.advance.2.take (.query (.get (.index 1) (.scalar .string))) =
        (.reading (.scalar .string) (.ok none), cursor.advance.2) ∧
      cursor.advance.2.take (.query .wasNull) = (.flag (.ok false), cursor.advance.2) := by
  intro cursor steps
  have hqueries : ∀ step ∈ retain (fun i => !(i == 0 || i == 4)) steps, step.isQuery = true := by
    decide
  obtain ⟨hhistory, hfinish, -⟩ :=
    queries_unseen cursor (fun i => i == 0 || i == 4) steps hqueries
  obtain ⟨-, -, -, -, hnull⟩ := queries_unseen cursor (fun _ => true) [.advance] (by decide)
  obtain ⟨hscalar, -, hmark⟩ := hnull ⟨[.null]⟩ 0 1 rfl rfl rfl rfl rfl
  have hread := hscalar .string
  have hlook := hmark (.scalar .string)
  rw [hread] at hlook
  exact ⟨hqueries, hhistory, hfinish, hread, hlook⟩

end Cursor
end Resultset
