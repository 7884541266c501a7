import Resultset.Proofs.Overlaps
import Resultset.Stream.Faulty
import Resultset.Stream.Queue

/-! # The calls of an overlap, turn by turn

An overlap is three calls of three callers. A `Meeting` is a state in which they are under way: the
fetch has the row and the stream to itself until it is through, the close leaves its mark before it
waits for the stream, and a reading waits for the row. `Meeting.turn` takes one step of one call,
and `Follows` says where any order of such steps can lead. So the overlap of an arrival is what the
turns come to (`Meeting.outcome_iff`), and it is what the calls come to one after the other, save
for a declined reading that starts before the mark.
-/

namespace Resultset
set_option autoImplicit false

/-! ## Turns -/

inductive Caller where
  | advance
  | close
  | reading
deriving DecidableEq, Repr

/-- How far a close has got. -/
inductive Closing where
  | arriving
  /-- It has left its mark and waits for the stream. -/
  | marked
  /-- It has released the stream and has yet to clear the row. -/
  | released (result : Except StreamError Unit)
  | done (result : Except StreamError Unit)

/-- Three calls under way on one cursor. -/
structure Meeting (σ : Type) (g : Getter) where
  cursor : Cursor σ
  /-- What the fetch has come to. Until then it has the row and the stream to itself. -/
  fetched : Option (Except CursorError Bool)
  closing : Closing
  /-- The reading, once it has begun. -/
  reader : Option (Reader g)

namespace Cursor
variable {σ : Type}

def clearRow (cursor : Cursor σ) : Cursor σ := emit { cursor with current := none } .closed

variable [RowStream σ]

def freeStream (cursor : Cursor σ) : Except StreamError Unit × Cursor σ :=
  let (result, stream) := RowStream.release cursor.stream
  (result, { cursor with stream })

end Cursor

namespace Meeting
variable {σ : Type} [RowStream σ] {g : Getter}

/-- The fetch is under way, and the other two calls are about to start. -/
def begin (cursor : Cursor σ) (g : Getter) : Meeting σ g := ⟨cursor, none, .arriving, none⟩

/-- The next step of one of the calls, unless the call has to wait or is done. The stream answers
the fetch once the cursor is marked closed. -/
def turn (column : ColumnRef) (m : Meeting σ g) : Caller → Option (Meeting σ g)
  | .advance =>
    if m.fetched.isNone && m.cursor.closed then
      some { m with cursor := m.cursor.fetch.2, fetched := some m.cursor.fetch.1 }
    else none
  | .close =>
    match m.closing with
    | .arriving => some { m with cursor := m.cursor.markClosed, closing := .marked }
    | .marked =>
      if m.fetched.isSome then
        some { m with
          cursor := m.cursor.freeStream.2, closing := .released m.cursor.freeStream.1 }
      else none
    | .released result => some { m with cursor := m.cursor.clearRow, closing := .done result }
    | .done _ => none
  | .reading =>
    match m.reader with
    | none =>
      let (reader, cursor) := m.cursor.arrive column g
      some { m with cursor, reader := some reader }
    | some (.waiting index) =>
      if m.fetched.isSome then
        let (result, cursor) := (Look.reach index g).on m.cursor
        some { m with cursor, reader := some (.done result) }
      else none
    | some (.done _) => none

def play (column : ColumnRef) (m : Meeting σ g) (turns : List Caller) : Option (Meeting σ g) :=
  turns.foldlM (fun m caller => m.turn column caller) m

/-- The answers, once all three calls are done, and the cursor that they leave. -/
def outcome? (m : Meeting σ g) : Option (Overlap g × Cursor σ) :=
  match m.fetched, m.closing, m.reader with
  | some advance, .done close, some (.done reading) =>
    some (⟨advance, close.mapError .stream, reading⟩, m.cursor)
  | _, _, _ => none

/-! ## Where the turns lead -/

/-- How far the advance and the close have got on a cursor: the cursor as they leave it, what the
fetch has come to, and the state of the close. -/
inductive Phase (c : Cursor σ) :
    Cursor σ → Option (Except CursorError Bool) → Closing → Prop
  | held : Phase c c none .arriving
  | marked : Phase c c.markClosed none .marked
  | fetched : Phase c c.fetch.2.markClosed (some c.fetch.1) .marked
  | released : Phase c c.fetch.2.markClosed.freeStream.2 (some c.fetch.1)
      (.released c.fetch.2.markClosed.freeStream.1)
  | done : Phase c c.fetch.2.markClosed.release.2 (some c.fetch.1)
      (.done c.fetch.2.markClosed.release.1)

/-- What a reading may have come to. -/
inductive Replies (c : Cursor σ) (column : ColumnRef) (g : Getter) : Option (Reader g) → Prop
  | arriving : Replies c column g none
  | waiting {index : Int32} (hresolve : c.resolve column = .ok index) (hwaits : g.waits = true) :
      Replies c column g (some (.waiting index))
  | done (arrival : Arrival) :
      Replies c column g (some (.done (c.overlap arrival column g).1.reading))

structure Follows (c : Cursor σ) (column : ColumnRef) (m : Meeting σ g) : Prop where
  phase : Phase c m.cursor m.fetched m.closing
  replies : Replies c column g m.reader

theorem follows_begin (c : Cursor σ) (column : ColumnRef) (g : Getter) :
    Follows c column (begin c g) := ⟨.held, .arriving⟩

/-- Once the mark is left, the cursor is closed and has the columns that it had. -/
theorem Phase.closed {c d : Cursor σ} {fetched : Option (Except CursorError Bool)}
    {closing : Closing} (h : Phase c d fetched closing) :
    (d = c ∧ fetched = none) ∨ (d.closed = true ∧ d.schema = c.schema) := by
  cases h with
  | held => exact Or.inl ⟨rfl, rfl⟩
  | marked => exact Or.inr ⟨rfl, rfl⟩
  | fetched => exact Or.inr ⟨rfl, c.schema_fetch⟩
  | released => exact Or.inr ⟨rfl, c.schema_fetch⟩
  | done => exact Or.inr ⟨rfl, c.schema_fetch⟩

/-- The stream is not released before the fetch is through with it. -/
theorem Phase.waits {c d : Cursor σ} {fetched : Option (Except CursorError Bool)}
    {closing : Closing} (h : Phase c d fetched closing) (hnone : fetched = none) :
    closing = .arriving ∨ closing = .marked := by
  cases h with
  | held => exact Or.inl rfl
  | marked => exact Or.inr rfl
  | fetched => exact absurd hnone nofun
  | released => exact absurd hnone nofun
  | done => exact absurd hnone nofun

variable {c d : Cursor σ} {column : ColumnRef}

/-- A reading that finds the cursor closed answers as it does when it comes last. -/
theorem reading_of_closed {arrival : Arrival} (hahead : c.answersAhead arrival g = false)
    (hclosed : d.closed = true) (hschema : d.schema = c.schema) :
    (c.overlap arrival column g).1.reading = d.get column g := by
  rw [c.overlap_reading, hahead, if_neg Bool.false_ne_true]
  refine Cursor.get_congr_of_closed (Cursor.closed_close _) hclosed ?_ column g
  rw [Cursor.schema_close, Cursor.schema_advance, hschema]

theorem arrive_of_closed (hclosed : d.closed = true) (hschema : d.schema = c.schema) :
    (d.arrive column g).1 = .done (c.overlap .afterMark column g).1.reading := by
  have hahead : c.answersAhead .afterMark g = false := rfl
  rw [reading_of_closed hahead hclosed hschema, d.arrive_fst, Cursor.get_of_closed hclosed,
    Cursor.refusal, Look.checkOpen_of_closed hclosed]
  cases d.resolve column with
  | error e => rfl
  | ok index =>
    cases g.waits with
    | true => rfl
    | false => exact congrArg Reader.done (Cursor.getAt_of_closed hclosed index g)

theorem arrive_of_open (hopen : c.closed = false) (hmore : c.position ≠ .afterLast)
    (column : ColumnRef) (g : Getter) :
    (c.arrive column g).1 = .done (c.overlap .beforeMark column g).1.reading ∨
      ∃ index, (c.arrive column g).1 = .waiting index ∧ c.resolve column = .ok index ∧
        g.waits = true := by
  have hcheck := Look.checkOpen_of_open hopen
  rw [Cursor.overlap_reading_of_open hopen hmore, c.arrive_fst, Cursor.getAcross_eq]
  cases c.resolve column with
  | error e => exact Or.inl rfl
  | ok index =>
    cases hwaits : g.waits with
    | true => exact Or.inr ⟨index, by rw [hcheck]; rfl, rfl, rfl⟩
    | false => exact Or.inl rfl

theorem reach_of_waiting {index : Int32} (hresolve : c.resolve column = .ok index)
    (hwaits : g.waits = true) (hclosed : d.closed = true) (hschema : d.schema = c.schema) :
    (Look.reach index g).answer d = (c.overlap .beforeMark column g).1.reading := by
  have hahead : c.answersAhead .beforeMark g = false := by simp [Cursor.answersAhead, hwaits]
  rw [reading_of_closed hahead hclosed hschema, Cursor.get_eq,
    Cursor.resolve_of_schema_eq hschema, hresolve, ← d.getAt_eq_reach]
  rfl

theorem outcome?_of_done (hopen : c.closed = false) (hmore : c.position ≠ .afterLast)
    (arrival : Arrival) (column : ColumnRef) (g : Getter) :
    (⟨c.fetch.2.markClosed.release.2, some c.fetch.1, .done c.fetch.2.markClosed.release.1,
        some (.done (c.overlap arrival column g).1.reading)⟩ : Meeting σ g).outcome? =
      some (c.overlap arrival column g) := by
  obtain ⟨hadvance, hclose, hcursor⟩ := Cursor.overlap_of_open hopen hmore arrival column g
  show some ((⟨c.fetch.1, c.fetch.2.markClosed.release.1.mapError .stream,
    (c.overlap arrival column g).1.reading⟩ : Overlap g), c.fetch.2.markClosed.release.2) = _
  rw [← hadvance, ← hclose, ← hcursor]

theorem turn_of_arriving (d : Cursor σ) (fetched : Option (Except CursorError Bool))
    (closing : Closing) :
    (⟨d, fetched, closing, none⟩ : Meeting σ g).turn column .reading =
      some ⟨d, fetched, closing, some (d.arrive column g).1⟩ := by
  have harrive : d.arrive column g = ((d.arrive column g).1, d) := Prod.ext rfl (d.arrive_snd _ _)
  simp only [Meeting.turn]
  rw [harrive]

theorem turn_of_waiting (d : Cursor σ) (result : Except CursorError Bool) (closing : Closing)
    (index : Int32) :
    (⟨d, some result, closing, some (.waiting index)⟩ : Meeting σ g).turn column .reading =
      some ⟨d, some result, closing, some (.done ((Look.reach index g).answer d))⟩ := by
  simp only [Meeting.turn, (Look.keeps_reach index g).on_eq, Option.isSome_some, if_true]

theorem Follows.turn (hopen : c.closed = false) (hmore : c.position ≠ .afterLast)
    {m n : Meeting σ g} (h : Follows c column m) {caller : Caller}
    (hturn : m.turn column caller = some n) : Follows c column n := by
  obtain ⟨d, fetched, closing, reader⟩ := m
  obtain ⟨hphase, hreplies⟩ := h
  simp only at hphase hreplies
  cases caller with
  | advance =>
    simp only [Meeting.turn] at hturn
    split at hturn
    · next hready =>
      obtain rfl := Option.some.inj hturn
      refine ⟨?_, hreplies⟩
      cases hphase with
      | held => simp [hopen] at hready
      | marked =>
        simp only [Cursor.fetch_markClosed]
        exact .fetched
      | fetched => simp at hready
      | released => simp at hready
      | done => simp at hready
    · exact absurd hturn nofun
  | close =>
    cases hphase with
    | held =>
      obtain rfl := Option.some.inj hturn
      exact ⟨.marked, hreplies⟩
    | marked => exact absurd hturn nofun
    | fetched =>
      obtain rfl := Option.some.inj hturn
      exact ⟨.released, hreplies⟩
    | released =>
      obtain rfl := Option.some.inj hturn
      exact ⟨.done, hreplies⟩
    | done => exact absurd hturn nofun
  | reading =>
    cases hreplies with
    | arriving =>
      obtain rfl := Option.some.inj ((turn_of_arriving d fetched closing).symm.trans hturn)
      refine ⟨hphase, ?_⟩
      -- ahead of the mark it answers or waits for the fetch; behind it, it is refused on arrival
      rcases hphase.closed with ⟨rfl, -⟩ | ⟨hclosed, hschema⟩
      · rcases arrive_of_open hopen hmore column g with
          hdone | ⟨index, hwaiting, hresolve, hwaits⟩
        · simp only [hdone]
          exact .done .beforeMark
        · simp only [hwaiting]
          exact .waiting hresolve hwaits
      · simp only [arrive_of_closed hclosed hschema]
        exact .done .afterMark
    | @waiting index hresolve hwaits =>
      simp only [Meeting.turn] at hturn
      split at hturn
      · next hfetched =>
        obtain rfl := Option.some.inj hturn
        simp only [(Look.keeps_reach index g).on_eq]
        refine ⟨hphase, ?_⟩
        rcases hphase.closed with ⟨-, hnone⟩ | ⟨hclosed, hschema⟩
        · rw [hnone] at hfetched
          exact absurd hfetched nofun
        · simp only [reach_of_waiting hresolve hwaits hclosed hschema]
          exact .done .beforeMark
      · exact absurd hturn nofun
    | done => exact absurd hturn nofun

theorem Follows.play (hopen : c.closed = false) (hmore : c.position ≠ .afterLast)
    {m n : Meeting σ g} (h : Follows c column m) {turns : List Caller}
    (hplay : m.play column turns = some n) : Follows c column n := by
  induction turns generalizing m with
  | nil =>
    obtain rfl := Option.some.inj hplay
    exact h
  | cons caller turns ih =>
    rw [Meeting.play, List.foldlM_cons] at hplay
    obtain ⟨next, hturn, hrest⟩ := Option.bind_eq_some_iff.mp hplay
    exact ih (h.turn hopen hmore hturn) hrest

/-- While a call is not done, one of the three can go on. -/
theorem Follows.progress {m : Meeting σ g} (h : Follows c column m) (hundone : m.outcome? = none) :
    ∃ caller, (m.turn column caller).isSome = true := by
  obtain ⟨d, fetched, closing, reader⟩ := m
  obtain ⟨hphase, hreplies⟩ := h
  simp only at hphase hreplies
  cases hphase with
  | held => exact ⟨.close, rfl⟩
  | marked => exact ⟨.advance, rfl⟩
  | fetched => exact ⟨.close, rfl⟩
  | released => exact ⟨.close, rfl⟩
  | done =>
    cases hreplies with
    | arriving => exact ⟨.reading, rfl⟩
    | waiting => exact ⟨.reading, rfl⟩
    | done => exact absurd hundone nofun

theorem Follows.outcome (hopen : c.closed = false) (hmore : c.position ≠ .afterLast)
    {m : Meeting σ g} (h : Follows c column m) {o : Overlap g × Cursor σ}
    (hdone : m.outcome? = some o) : ∃ arrival, o = c.overlap arrival column g := by
  obtain ⟨d, fetched, closing, reader⟩ := m
  obtain ⟨hphase, hreplies⟩ := h
  simp only at hphase hreplies
  cases hphase with
  | held => exact absurd hdone nofun
  | marked => exact absurd hdone nofun
  | fetched => exact absurd hdone nofun
  | released => exact absurd hdone nofun
  | done =>
    cases hreplies with
    | arriving => exact absurd hdone nofun
    | waiting => exact absurd hdone nofun
    | done arrival =>
      rw [outcome?_of_done hopen hmore arrival column g] at hdone
      exact ⟨arrival, (Option.some.inj hdone).symm⟩

/-! ## What the turns can come to -/

theorem play_cons {m n : Meeting σ g} {caller : Caller} (hturn : m.turn column caller = some n)
    (turns : List Caller) : m.play column (caller :: turns) = n.play column turns := by
  rw [play, List.foldlM_cons, hturn]
  rfl

/-- Once the mark is left, the fetch and the close go on to their ends. -/
theorem play_of_marked (reader : Option (Reader g)) (turns : List Caller) :
    (⟨c.markClosed, none, .marked, reader⟩ : Meeting σ g).play column
        (.advance :: .close :: .close :: turns) =
      (⟨c.fetch.2.markClosed.release.2, some c.fetch.1, .done c.fetch.2.markClosed.release.1,
        reader⟩ : Meeting σ g).play column turns := by
  have hfetch : (⟨c.markClosed, none, .marked, reader⟩ : Meeting σ g).turn column .advance =
      some ⟨c.fetch.2.markClosed, some c.fetch.1, .marked, reader⟩ := by
    simp only [turn, Cursor.fetch_markClosed]
    rfl
  rw [play_cons hfetch]
  rfl

/-- Both arrivals come about, and nothing else does. -/
theorem outcome_iff (hopen : c.closed = false) (hmore : c.position ≠ .afterLast)
    (column : ColumnRef) (g : Getter) (o : Overlap g × Cursor σ) :
    (∃ turns m, (begin c g).play column turns = some m ∧ m.outcome? = some o) ↔
      ∃ arrival, o = c.overlap arrival column g := by
  constructor
  · rintro ⟨turns, m, hplay, hdone⟩
    exact ((follows_begin c column g).play hopen hmore hplay).outcome hopen hmore hdone
  · rintro ⟨arrival, rfl⟩
    have hend := outcome?_of_done hopen hmore arrival column g
    have hschema : c.markClosed.schema = c.schema := rfl
    cases arrival with
    -- the reading takes its turn right behind the mark, or ahead of it and again at the end
    | afterMark =>
      refine ⟨[.close, .reading, .advance, .close, .close], _, ?_, hend⟩
      rw [play_cons (n := ⟨c.markClosed, none, .marked, none⟩) rfl,
        play_cons (turn_of_arriving _ _ _), play_of_marked, arrive_of_closed rfl hschema]
      rfl
    | beforeMark =>
      rcases arrive_of_open hopen hmore column g with
        hdone | ⟨index, hwaiting, hresolve, hwaits⟩
      · refine ⟨[.reading, .close, .advance, .close, .close], _, ?_, hend⟩
        rw [begin, play_cons (turn_of_arriving _ _ _),
          play_cons (n := ⟨c.markClosed, none, .marked, some (c.arrive column g).1⟩) rfl,
          play_of_marked, hdone]
        rfl
      · have hlast : c.fetch.2.markClosed.release.2.schema = c.schema := c.schema_fetch
        have hreply := reach_of_waiting hresolve hwaits (rfl : _ = true) hlast
        refine ⟨[.reading, .close, .advance, .close, .close, .reading], _, ?_, hend⟩
        rw [begin, play_cons (turn_of_arriving _ _ _),
          play_cons (n := ⟨c.markClosed, none, .marked, some (c.arrive column g).1⟩) rfl,
          play_of_marked, hwaiting, play_cons (turn_of_waiting _ _ _ _), hreply]
        rfl

end Meeting

/-! ## Overlaps in turn -/

/-- A step with the calls of an overlap made one after the other. -/
def Step.inTurn : Step → List Step
  | .overlap _ column g => [.advance, .close, .query (.get column g)]
  | step => [step]

namespace Cursor
variable {σ : Type} [RowStream σ]

theorem after_inTurn (cursor : Cursor σ) (step : Step) :
    cursor.after step.inTurn = (cursor.take step).2 := by
  cases step with
  | advance => rfl
  | close => rfl
  | overlap arrival column g =>
    rw [take_overlap_snd]
    exact congrArg Prod.snd (cursor.advance.2.close.2.take_query (.get column g))
  | query q => rfl

theorem after_flatMap_inTurn (cursor : Cursor σ) (steps : List Step) :
    cursor.after (steps.flatMap Step.inTurn) = cursor.after steps := by
  induction steps generalizing cursor with
  | nil => rfl
  | cons step steps ih =>
    rw [List.flatMap_cons, after_append, after_inTurn, ih, after_cons]

theorem history_flatMap_inTurn (cursor : Cursor σ) (steps : List Step) :
    cursor.history (steps.flatMap Step.inTurn) =
      (cursor.visits steps).flatMap fun visit => visit.1.history visit.2.inTurn := by
  induction steps generalizing cursor with
  | nil => rfl
  | cons step steps ih =>
    rw [List.flatMap_cons, history_append, after_inTurn, ih, visits, List.flatMap_cons]

theorem overlap_eq_inTurn (cursor : Cursor σ) (arrival : Arrival) (column : ColumnRef)
    (g : Getter) :
    cursor.overlap arrival column g =
      ({ (cursor.advanceCloseGet column g).1 with
          reading := if cursor.answersAhead arrival g then cursor.get column g
            else (cursor.advanceCloseGet column g).1.reading },
        (cursor.advanceCloseGet column g).2) := by
  obtain ⟨hadvance, hclose, hlast⟩ := cursor.overlap_eq arrival column g
  have hreading := cursor.overlap_reading arrival column g
  generalize cursor.overlap arrival column g = both at *
  obtain ⟨⟨advance, close, reading⟩, last⟩ := both
  simp only at hadvance hclose hlast hreading
  rw [hadvance, hclose, hlast, hreading, advanceCloseGet_eq]

theorem overlap_reading_ne_noCurrentRow (cursor : Cursor σ) (arrival : Arrival)
    (column : ColumnRef) (g : Getter) (reason : NoRow) :
    (cursor.overlap arrival column g).1.reading ≠ .error (.noCurrentRow reason) := by
  rw [overlap_reading]
  cases hahead : cursor.answersAhead arrival g with
  | true =>
    obtain ⟨kind, rfl, hget⟩ := get_of_answersAhead hahead column
    rw [if_pos rfl, hget]
    exact cursor.refusal_ne_noCurrentRow column nofun
  | false =>
    rw [if_neg Bool.false_ne_true, get_of_closed (closed_close _)]
    exact refusal_ne_noCurrentRow _ column nofun

/-- An overlap comes to the same as an advance, a close and the reading one after the other, save
that a declined reading that starts before the mark answers as it does ahead of the other two. The
overlap of an arrival is what the turns of the three calls come to: they never get stuck, and the
stream is not released before the fetch is through. With the calls of every overlap made in turn, a
run answers its other steps alike and leaves the same cursor behind each of them. -/
theorem overlapped_in_turn (cursor : Cursor σ) :
    (∀ arrival column g, cursor.overlap arrival column g =
      ({ (cursor.advanceCloseGet column g).1 with
          reading := if cursor.answersAhead arrival g then cursor.get column g
            else (cursor.advanceCloseGet column g).1.reading },
        (cursor.advanceCloseGet column g).2)) ∧
      (∀ arrival column g reason,
        (cursor.overlap arrival column g).1.reading ≠ .error (.noCurrentRow reason)) ∧
      (cursor.closed = false → cursor.position ≠ .afterLast → ∀ column g,
        (∀ turns m, (Meeting.begin cursor g).play column turns = some m →
          (m.fetched = none → m.closing = .arriving ∨ m.closing = .marked) ∧
            (m.outcome? = none → ∃ caller, (m.turn column caller).isSome = true)) ∧
          ∀ o, (∃ turns m, (Meeting.begin cursor g).play column turns = some m ∧
              m.outcome? = some o) ↔
            ∃ arrival, o = cursor.overlap arrival column g) ∧
      ∀ steps,
        cursor.history steps = ((cursor.visits steps).map fun visit => visit.1.take visit.2) ∧
          cursor.history (steps.flatMap Step.inTurn) =
            ((cursor.visits steps).flatMap fun visit => visit.1.history visit.2.inTurn) ∧
          cursor.finish (steps.flatMap Step.inTurn) = cursor.finish steps := by
  refine ⟨cursor.overlap_eq_inTurn, cursor.overlap_reading_ne_noCurrentRow, ?_, ?_⟩
  · intro hopen hmore column g
    refine ⟨?_, Meeting.outcome_iff hopen hmore column g⟩
    intro turns m hplay
    have hfollows := (Meeting.follows_begin cursor column g).play hopen hmore hplay
    exact ⟨hfollows.phase.waits, hfollows.progress⟩
  · intro steps
    refine ⟨cursor.history_eq_map_visits steps, cursor.history_flatMap_inTurn steps, ?_⟩
    rw [finish, after_flatMap_inTurn, finish]

/-- A declined reading takes its only turn before the close leaves its mark, and is not told that the
cursor is closed, as it is when the calls are made in turn. -/
theorem declined_ahead_of_close :
    let cursor := start (Faulty.of (RowQueue.of Schema.empty []) []) .typed Config.default
    let column := ColumnRef.index 1
    let g := Getter.declined .date
    (cursor.overlap .beforeMark column g).1.reading = .error (.declined (.reading .date)) ∧
      (cursor.advanceCloseGet column g).1.reading = .error .closed ∧
      ∃ m, (Meeting.begin cursor g).play column [.reading, .close, .advance, .close, .close] =
          some m ∧
        m.outcome? = some (cursor.overlap .beforeMark column g) :=
  ⟨rfl, rfl, _, rfl, rfl⟩

end Cursor
end Resultset
