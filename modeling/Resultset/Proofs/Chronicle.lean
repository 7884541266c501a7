import Resultset.Proofs.Overlaps
import Resultset.Proofs.Recovery
import Resultset.Proofs.Release

/-! # The log of a run

Each step appends events of its own to the log (`log_take`), and so does the drop (`log_drop`). Over
a run on a queue they add up to the `story` of the cursor: the opening, one event for each entry that
was delivered, and what the position and the closed mark stand for. `Chronicle` is kept by every call,
because a cursor that is closed or past the last entry delivers nothing more. What is shown of a story
is said line by line, with the texts (`shown_story`, `shown_warnings`).
-/

namespace Resultset
set_option autoImplicit false

/-- The events of an advance that asks the stream, by its answer and by the null mark after it. -/
def fetchEvents (result : Except CursorError Bool) (nullRow : Bool) : List Event :=
  match result with
  | .ok true => [.advanced nullRow]
  | .ok false => [.exhausted]
  | .error _ => []

/-- What the drop has to say about the answer of its release. -/
def warnings : Except StreamError Unit → List Event
  | .ok _ => []
  | .error e => [.releaseFailed e]

def labelled (label : String) (events : List Event) : List LogEntry :=
  events.map (LogEntry.mk label)

theorem labelled_append (label : String) (events more : List Event) :
    labelled label (events ++ more) = labelled label events ++ labelled label more :=
  List.map_append

/-- What is shown of the events under a label. -/
def shown (label : String) (events : List Event) : List LogLine :=
  (labelled label events).map LogEntry.line

theorem shown_append (label : String) (events more : List Event) :
    shown label (events ++ more) = shown label events ++ shown label more := by
  rw [shown, labelled_append, List.map_append]
  rfl

/-- A warning shows the text of the failed release, as the error of a cursor has it. -/
theorem shown_warnings (label : String) (result : Except StreamError Unit) :
    shown label (warnings result) =
      match result with
      | .ok _ => []
      | .error e =>
        [{ label, level := .warn, message := "failed to release row source on drop",
           error := some ("Row source error: " ++ e.message) }] := by
  cases result <;> rfl

namespace Cursor
variable {σ : Type} [RowStream σ]

/-! ## Events of a step -/

def advanceEvents (cursor : Cursor σ) : List Event :=
  if cursor.position = .afterLast then []
  else fetchEvents cursor.advance.1 cursor.advance.2.nullRow

def closeEvents (cursor : Cursor σ) : List Event := if cursor.closed then [] else [.closed]

def dropEvents (cursor : Cursor σ) : List Event :=
  if cursor.closed || !cursor.config.closeOnDrop then []
  else .closed :: warnings (RowStream.release cursor.stream).1

def events (cursor : Cursor σ) : Step → List Event
  | .advance => cursor.advanceEvents
  | .close => cursor.closeEvents
  | .overlap _ _ _ => cursor.advanceEvents ++ cursor.advance.2.closeEvents
  | .query _ => []

theorem log_fetch (cursor : Cursor σ) :
    cursor.fetch.2.log =
      cursor.log ++
        labelled cursor.config.label (fetchEvents cursor.fetch.1 cursor.fetch.2.nullRow) := by
  rcases hasked : RowStream.hasNext cursor.stream with ⟨e | more, asked⟩
  · rw [fetch_of_unasked hasked]
    exact (List.append_nil _).symm
  · cases more with
    | false => rw [fetch_of_exhausted hasked]; rfl
    | true =>
      rcases hnext : RowStream.next asked with ⟨e | entry, stream⟩
      · rw [fetch_of_withheld hasked hnext]
        exact (List.append_nil _).symm
      · rw [fetch_of_delivered hasked hnext]
        rfl

theorem log_advance (cursor : Cursor σ) :
    cursor.advance.2.log = cursor.log ++ labelled cursor.config.label cursor.advanceEvents := by
  rw [advanceEvents]
  rcases cursor.advance_routes with ⟨-, h⟩ | ⟨-, hlast, h⟩ | ⟨-, hmore, h⟩
  · rw [h, fetchEvents, ite_self]
    exact (List.append_nil _).symm
  · rw [h, if_pos hlast]
    exact (List.append_nil _).symm
  · rw [h, if_neg hmore, log_fetch]

theorem log_close (cursor : Cursor σ) :
    cursor.close.2.log = cursor.log ++ labelled cursor.config.label cursor.closeEvents := by
  rw [closeEvents]
  cases hclosed : cursor.closed with
  | true =>
    rw [close_of_closed hclosed, if_pos rfl]
    exact (List.append_nil _).symm
  | false =>
    rw [close, shut_of_open hclosed]
    rfl

/-- Each step appends its events to the log. -/
theorem log_take (cursor : Cursor σ) (step : Step) :
    (cursor.take step).2.log = cursor.log ++ labelled cursor.config.label (cursor.events step) := by
  cases step with
  | advance => exact cursor.log_advance
  | close => exact cursor.log_close
  | overlap arrival column g =>
    rw [take_overlap_snd, log_close, log_advance, config_advance, events, labelled_append,
      List.append_assoc]
  | query q =>
    rw [take_query]
    exact (List.append_nil _).symm

theorem log_drop (cursor : Cursor σ) :
    cursor.drop.log = cursor.log ++ labelled cursor.config.label cursor.dropEvents := by
  rw [dropEvents]
  cases hdrop : cursor.config.closeOnDrop with
  | false =>
    rw [drop_of_not_closeOnDrop hdrop, Bool.not_false, Bool.or_true, if_pos rfl]
    exact (List.append_nil _).symm
  | true =>
    rw [drop, if_pos hdrop]
    cases hclosed : cursor.closed with
    | true =>
      rw [shut, if_pos hclosed]
      exact (List.append_nil _).symm
    | false =>
      have hrelease : cursor.markClosed.release =
          ((RowStream.release cursor.stream).1, cursor.markClosed.release.2) := rfl
      rw [shut_of_open hclosed, hrelease]
      rcases (RowStream.release cursor.stream).1 with e | _
      · exact List.append_assoc cursor.log _ _
      · rfl

/-! ## Stories -/

/-- The events in the life of a cursor: it opens, delivers entries, may run out of them and may be
closed. -/
def story (columns : Nat) (delivered : List Entry) (exhausted closed : Bool) : List Event :=
  .opened columns :: (delivered.map fun entry => .advanced entry.isNone) ++
    (if exhausted then [.exhausted] else []) ++ (if closed then [.closed] else [])

theorem story_concat (columns : Nat) (delivered : List Entry) (entry : Entry) :
    story columns (delivered ++ [entry]) false false =
      story columns delivered false false ++ [.advanced entry.isNone] := by
  simp [story]

theorem story_exhausted (columns : Nat) (delivered : List Entry) :
    story columns delivered true false = story columns delivered false false ++ [.exhausted] := by
  simp [story]

theorem story_closed (columns : Nat) (delivered : List Entry) (exhausted : Bool) :
    story columns delivered exhausted true = story columns delivered exhausted false ++ [.closed] := by
  simp [story]

/-- The lines of a story: the number of columns stands with the opening, and the null mark with each
entry that was delivered. -/
theorem shown_story (label : String) (columns : Nat) (delivered : List Entry)
    (exhausted closed : Bool) :
    shown label (story columns delivered exhausted closed) =
      { label, level := .debug, message := "cursor opened", columns := some columns } ::
          (delivered.map fun entry =>
            { label, level := .trace, message := "advanced", nullRow := some entry.isNone }) ++
        (if exhausted then [{ label, level := .debug, message := "result exhausted" }] else []) ++
        (if closed then [{ label, level := .debug, message := "cursor closed" }] else []) := by
  have hdelivered : shown label (delivered.map fun entry => .advanced entry.isNone) =
      delivered.map fun entry =>
        { label, level := .trace, message := "advanced", nullRow := some entry.isNone } := by
    rw [shown, labelled, List.map_map, List.map_map]
    rfl
  rw [story, shown_append, shown_append, ← hdelivered]
  cases exhausted <;> cases closed <;> rfl

/-- The log of a cursor after `k` deliveries out of `entries`. -/
structure Chronicle (entries : List Entry) (k : Nat) (c : Cursor (Faulty RowQueue)) : Prop where
  delivery : Delivery entries k c
  log_eq : c.log = labelled c.config.label
    (story c.schema.size (entries.take k) (c.position == .afterLast) c.closed)

theorem chronicle_start (schema : Schema) (entries : List Entry) (script : List Fault)
    (converter : Converter) (config : Config) :
    Chronicle entries 0
      (start (Faulty.of (RowQueue.of schema entries) script) converter config) where
  delivery := delivery_start schema entries script converter config
  log_eq := rfl

theorem Chronicle.fetch {entries : List Entry} {k : Nat} {c d : Cursor (Faulty RowQueue)}
    {result : Except CursorError Bool} (h : Chronicle entries k c) (hopen : c.closed = false)
    (hmore : c.position ≠ .afterLast) (hfetch : Fetched c result d) :
    Chronicle entries (k + gain result) d := by
  refine ⟨h.delivery.fetch hopen hfetch, ?_⟩
  have hlog := h.log_eq
  have hrest := h.delivery.remaining (h.delivery.live hopen)
  cases hfetch with
  | unasked => exact hlog
  | withheld => exact hlog
  | exhausted =>
    rw [beq_false_of_ne hmore, hopen] at hlog
    change c.log ++ labelled c.config.label [.exhausted] =
      labelled c.config.label (story c.schema.size (entries.take k) true c.closed)
    rw [hlog, hopen, story_exhausted, labelled_append]
  | @delivered entry rest _ hentries _ =>
    rw [beq_false_of_ne hmore, hopen] at hlog
    have hentry : entries[k]? = some entry := nthEntry_succ_of_drop (hrest.symm.trans hentries)
    change c.log ++ labelled c.config.label [.advanced entry.isNone] =
      labelled c.config.label (story c.schema.size (entries.take (k + 1)) false c.closed)
    rw [hlog, hopen, List.take_add_one, hentry, Option.toList_some, story_concat, labelled_append]

theorem Chronicle.advance {entries : List Entry} {k : Nat} {c : Cursor (Faulty RowQueue)}
    (h : Chronicle entries k c) : Chronicle entries (k + gain c.advance.1) c.advance.2 := by
  have hcases := advance_cases h.delivery.live
  generalize c.advance.1 = result, c.advance.2 = d at hcases
  cases hcases with
  | refused => exact h
  | idle => exact h
  | fetched hopen hmore hfetch => exact h.fetch hopen hmore hfetch

theorem Chronicle.close {entries : List Entry} {k : Nat} {c : Cursor (Faulty RowQueue)}
    (h : Chronicle entries k c) : Chronicle entries k c.close.2 := by
  refine ⟨h.delivery.close, ?_⟩
  have hlog := h.log_eq
  cases hclosed : c.closed with
  | true => rwa [close_of_closed hclosed]
  | false =>
    rw [hclosed] at hlog
    rw [log_close, closeEvents, hclosed, if_neg Bool.false_ne_true, hlog, config_close,
      schema_close, position_close, closed_close, story_closed, labelled_append]

theorem Chronicle.after {entries : List Entry} {k : Nat} {c : Cursor (Faulty RowQueue)}
    (h : Chronicle entries k c) (steps : List Step) :
    Chronicle entries (k + c.deliveries steps) (c.after steps) :=
  after_counts (P := Chronicle entries) (fun _ _ => Chronicle.advance) (fun _ _ => Chronicle.close)
    h steps

/-! ## The log after the drop -/

theorem any_isExhaustion_iff {results : List (Except CursorError Bool)} :
    results.any isExhaustion = true ↔ .ok false ∈ results := by
  rw [List.any_eq_true]
  constructor
  · rintro ⟨result, hmem, hresult⟩
    match result, hresult with
    | .ok false, _ => exact hmem
  · intro hmem
    exact ⟨.ok false, hmem, rfl⟩

/-- A run is past the last entry exactly if an advance of it has found none left. -/
theorem exhausted_after {c : Cursor (Faulty RowQueue)} (hmore : c.position ≠ .afterLast)
    (hlive : c.Live) (steps : List Step) :
    ((c.after steps).position == .afterLast) = (c.advances steps).any isExhaustion := by
  rw [Bool.eq_iff_iff, beq_iff_eq, any_isExhaustion_iff, position_after hlive steps,
    or_iff_right hmore]

/-- What the drop adds to a story: the closing and perhaps a warning, if it is the drop that
releases. -/
theorem Reckoning.story_drop {script : List Fault} {c : Cursor (Faulty RowQueue)}
    (h : Reckoning script c) (columns : Nat) (delivered : List Entry) (exhausted : Bool) :
    story columns delivered exhausted c.closed ++ c.dropEvents =
      story columns delivered exhausted (decide (c.drop.stream.calls.release = 1)) ++
        if c.drop.stream.calls.release = c.stream.calls.release then []
        else warnings (RowStream.release c.stream).1 := by
  rw [dropEvents, h.drop.calls_release, h.calls_release, c.closed_drop]
  cases c.closed with
  | true =>
    rw [Bool.true_or, Bool.true_or, if_pos rfl, if_pos rfl, if_pos rfl, decide_eq_true rfl]
  | false =>
    cases c.config.closeOnDrop with
    | false => rfl
    | true =>
      change _ = story columns delivered exhausted true ++ warnings (RowStream.release c.stream).1
      rw [story_closed, List.append_assoc]
      rfl

/-- A run on a queue and the drop after it log the story of the cursor: one opening with the number
of columns, one event for each entry that was delivered, which says whether it was a null row, one
exhaustion if an advance found no entry left, and one closing if the stream was released. A warning
with the error follows if it was the drop that released and the release failed. The log shows these
under the label of the cursor, each with its level, its message and its fields, and the warning with
the text of the error. Each step logs its own events and no others. -/
theorem logged_in_order (schema : Schema) (entries : List Entry) (script : List Fault)
    (converter : Converter) (config : Config) (steps : List Step) :
    let started := start (Faulty.of (RowQueue.of schema entries) script) converter config
    let cursor := started.after steps
    let last := started.finish steps
    let results := started.advances steps
    let delivered := entries.take (results.countP isDelivery)
    last.log = labelled config.label
        (story schema.size delivered (results.any isExhaustion)
            (decide (last.stream.calls.release = 1)) ++
          if last.stream.calls.release = cursor.stream.calls.release then []
          else warnings (RowStream.release cursor.stream).1) ∧
      last.log.map LogEntry.line =
        { label := config.label, level := .debug, message := "cursor opened",
          columns := some schema.size } ::
            (delivered.map fun entry =>
              { label := config.label, level := .trace, message := "advanced",
                nullRow := some entry.isNone }) ++
          (if results.any isExhaustion then
            [{ label := config.label, level := .debug, message := "result exhausted" }] else []) ++
          (if last.stream.calls.release = 1 then
            [{ label := config.label, level := .debug, message := "cursor closed" }] else []) ++
          (if last.stream.calls.release = cursor.stream.calls.release then [] else
            match (RowStream.release cursor.stream).1 with
            | .ok _ => []
            | .error e =>
              [{ label := config.label, level := .warn,
                 message := "failed to release row source on drop",
                 error := some ("Row source error: " ++ e.message) }]) ∧
      delivered.length = results.countP isDelivery ∧
      last.stream.calls.release ≤ 1 ∧
      ∀ step, (cursor.take step).2.log =
        cursor.log ++ labelled config.label (cursor.events step) := by
  intro started cursor last results delivered
  have hstart : Chronicle entries 0 started :=
    chronicle_start schema entries script converter config
  have h : Chronicle entries (results.countP isDelivery) cursor := by
    have hafter := hstart.after steps
    rwa [Nat.zero_add] at hafter
  have hconfig : cursor.config = config := started.config_after steps
  have hschema : cursor.schema = schema := started.schema_after steps
  have hexhausted : (cursor.position == .afterLast) = results.any isExhaustion :=
    exhausted_after (nofun : started.position ≠ .afterLast) hstart.delivery.live steps
  have hreckoning : Reckoning script cursor :=
    (reckoning_start schema entries script converter config).after steps
  have hlog : last.log = cursor.log ++ labelled config.label cursor.dropEvents := by
    rw [← hconfig]
    exact cursor.log_drop
  have hstory : last.log = labelled config.label
      (story schema.size delivered (results.any isExhaustion)
          (decide (last.stream.calls.release = 1)) ++
        if last.stream.calls.release = cursor.stream.calls.release then []
        else warnings (RowStream.release cursor.stream).1) := by
    rw [hlog, h.log_eq, hconfig, hschema, hexhausted, ← labelled_append, hreckoning.story_drop]
    rfl
  refine ⟨hstory, ?_, ?_, ?_, ?_⟩
  · have hline : last.log.map LogEntry.line = shown config.label _ :=
      congrArg (List.map LogEntry.line) hstory
    rw [hline, shown_append, shown_story, apply_ite (shown config.label), shown_warnings]
    simp only [decide_eq_true_eq]
    rfl
  · rw [List.length_take, Nat.min_eq_left h.delivery.count_le]
  · have hdropped : Reckoning script last := hreckoning.drop
    rw [hdropped.calls_release]
    split <;> decide
  · intro step
    rw [log_take, hconfig]

-- A null row is delivered, the stream is lost, and the drop tries to release it.
example :
    let stream := Faulty.of (RowQueue.of ⟨[]⟩ [none, some ⟨[]⟩])
      [⟨.next, 2, .io "connection reset"⟩, ⟨.release, 0, .released⟩]
    ((start stream .typed .default).finish [.advance, .advance]).log.map LogEntry.line =
      [{ label := "cursor", level := .debug, message := "cursor opened", columns := some 0 },
       { label := "cursor", level := .trace, message := "advanced", nullRow := some true },
       { label := "cursor", level := .debug, message := "cursor closed" },
       { label := "cursor", level := .warn, message := "failed to release row source on drop",
         error := some "Row source error: Row source already released" }] := by
  decide

end Cursor
end Resultset
