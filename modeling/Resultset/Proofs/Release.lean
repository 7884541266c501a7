import Resultset.Proofs.Outcomes
import Resultset.Proofs.Recording

/-! # Release

A stream is released at most once in the life of its cursor: by the first close, or by the drop if
the cursor is still open and closes on drop. `Reckoning` ties the closed mark to the release counter
and to what the release did to the queue; `Sealed` says that a release is the last call in the
record. Both hold along every run, also past a release that fails.
-/

namespace Resultset
set_option autoImplicit false

def releaseFault? (script : List Fault) : Option StreamError :=
  (script.find? (·.hits .release 1)).map (·.error)

/-- The answer of the first release under a script. -/
def verdict (script : List Fault) : Except StreamError Unit :=
  match releaseFault? script with
  | some e => .error e
  | none => .ok ()

/-- The results of `m` closes of which the first one releases. -/
def closeResults (first : Except CursorError Unit) : (m : Nat) → List (Except CursorError Unit)
  | 0 => []
  | m + 1 => first :: List.replicate m (.ok ())

namespace Cursor

/-! ## Release counters -/

/-- What the closed mark says about the release of the queue. -/
structure Reckoning (script : List Fault) (c : Cursor (Faulty RowQueue)) : Prop where
  script_eq : c.stream.script = script
  live : c.Live
  of_open : c.closed = false → c.stream.calls.release = 0
  of_closed : c.closed = true → c.stream.calls.release = 1 ∧
    (c.stream.stream.released = true ↔ releaseFault? script = none)

theorem reckoning_start (schema : Schema) (entries : List Entry) (script : List Fault)
    (converter : Converter) (config : Config) :
    Reckoning script (start (Faulty.of (RowQueue.of schema entries) script) converter config) where
  script_eq := rfl
  live := live_start schema entries script converter config
  of_open _ := rfl
  of_closed := nofun

theorem Reckoning.advance {script : List Fault} {c : Cursor (Faulty RowQueue)}
    (h : Reckoning script c) : Reckoning script c.advance.2 := by
  have hcases := advance_cases h.live
  generalize c.advance.1 = result, c.advance.2 = d at hcases
  cases hcases with
  | refused => exact h
  | idle => exact h
  | fetched _ _ hfetch =>
    cases hfetch with
    | unasked => exact ⟨h.script_eq, h.live, h.of_open, h.of_closed⟩
    | exhausted => exact ⟨h.script_eq, h.live, h.of_open, h.of_closed⟩
    | withheld => exact ⟨h.script_eq, h.live, h.of_open, h.of_closed⟩
    | delivered => exact ⟨h.script_eq, h.live, h.of_open, h.of_closed⟩

theorem Reckoning.fault?_release {script : List Fault} {c : Cursor (Faulty RowQueue)}
    (h : Reckoning script c) (hopen : c.closed = false) :
    c.stream.fault? .release = releaseFault? script := by
  have hcount : c.stream.calls.count .release = 0 := h.of_open hopen
  rw [Faulty.fault?, hcount, h.script_eq, releaseFault?]

theorem Reckoning.shut {script : List Fault} {c : Cursor (Faulty RowQueue)}
    (h : Reckoning script c) : Reckoning script c.shut.2 := by
  have hcases := shut_cases h.live
  generalize c.shut.1 = result, c.shut.2 = d at hcases
  cases hcases with
  | again => exact h
  | @failed e hopen hfault =>
    have hscript := (h.fault?_release hopen).symm.trans hfault
    have hlive := h.live hopen
    have hcount := h.of_open hopen
    refine ⟨h.script_eq, nofun, nofun, fun _ => ⟨?_, ?_⟩⟩
    · change c.stream.calls.release + 1 = 1
      rw [hcount]
    · change c.stream.stream.released = true ↔ _
      rw [hlive, hscript]
      exact ⟨nofun, nofun⟩
  | released hopen hfault =>
    have hscript := (h.fault?_release hopen).symm.trans hfault
    have hcount := h.of_open hopen
    refine ⟨h.script_eq, nofun, nofun, fun _ => ⟨?_, ?_⟩⟩
    · change c.stream.calls.release + 1 = 1
      rw [hcount]
    · exact ⟨fun _ => hscript, fun _ => rfl⟩

theorem Reckoning.close {script : List Fault} {c : Cursor (Faulty RowQueue)}
    (h : Reckoning script c) : Reckoning script c.close.2 := h.shut

theorem Reckoning.shut_fst {script : List Fault} {c : Cursor (Faulty RowQueue)}
    (h : Reckoning script c) (hopen : c.closed = false) : c.shut.1 = verdict script := by
  have hfault := h.fault?_release hopen
  have hcases := shut_cases h.live
  generalize c.shut.1 = result, c.shut.2 = d at hcases
  cases hcases with
  | again hclosed => exact absurd (hopen.symm.trans hclosed) nofun
  | failed _ hfailed => rw [verdict, ← hfault, hfailed]
  | released _ hnone => rw [verdict, ← hfault, hnone]

theorem Reckoning.close_fst {script : List Fault} {c : Cursor (Faulty RowQueue)}
    (h : Reckoning script c) (hopen : c.closed = false) :
    c.close.1 = (verdict script).mapError .stream := by
  rw [← h.shut_fst hopen]
  rfl

theorem Reckoning.after {script : List Fault} {c : Cursor (Faulty RowQueue)}
    (h : Reckoning script c) (steps : List Step) : Reckoning script (c.after steps) :=
  after_preserves (P := Reckoning script) (fun _ => Reckoning.advance) (fun _ => Reckoning.close)
    h steps

/-- The stream sees one release, by the close, and none before it. -/
theorem Reckoning.calls_release {script : List Fault} {c : Cursor (Faulty RowQueue)}
    (h : Reckoning script c) : c.stream.calls.release = if c.closed then 1 else 0 := by
  cases hclosed : c.closed with
  | false => exact h.of_open hclosed
  | true => exact (h.of_closed hclosed).1

/-! ## Results of closes -/

theorem closes_of_closed {σ : Type} [RowStream σ] {cursor : Cursor σ}
    (hclosed : cursor.closed = true) (steps : List Step) :
    cursor.closes steps = List.replicate (steps.countP Step.closes) (.ok ()) := by
  have hadvance : cursor.advance.2 = cursor := by rw [advance_of_closed hclosed]
  induction steps with
  | nil => rfl
  | cons step steps ih =>
    cases step with
    | advance =>
      rw [closes_advance, hadvance, ih, List.countP_cons_of_neg (by simp [Step.closes])]
    | close =>
      rw [closes_close, close_of_closed hclosed, ih, List.countP_cons_of_pos (by rfl)]
      rfl
    | overlap arrival column g =>
      rw [closes_overlap, hadvance, close_of_closed hclosed, ih,
        List.countP_cons_of_pos (by rfl)]
      rfl
    | query q => rw [closes_query, ih, List.countP_cons_of_neg (by simp [Step.closes])]

/-- Of the closes of a run the first one reports the release, and the others nothing. -/
theorem Reckoning.closes_eq {script : List Fault} {c : Cursor (Faulty RowQueue)}
    (h : Reckoning script c) (hopen : c.closed = false) (steps : List Step) :
    c.closes steps =
      closeResults ((verdict script).mapError .stream) (steps.countP Step.closes) := by
  induction steps generalizing c with
  | nil => rfl
  | cons step steps ih =>
    cases step with
    | advance =>
      rw [closes_advance, ih h.advance (c.closed_advance.trans hopen),
        List.countP_cons_of_neg (by simp [Step.closes])]
    | close =>
      rw [closes_close, closes_of_closed c.closed_close, List.countP_cons_of_pos (by rfl),
        h.close_fst hopen]
      rfl
    | overlap arrival column g =>
      have hopen' : c.advance.2.closed = false := c.closed_advance.trans hopen
      rw [closes_overlap, closes_of_closed c.advance.2.closed_close,
        List.countP_cons_of_pos (by rfl), h.advance.close_fst hopen']
      rfl
    | query q => rw [closes_query, ih h hopen, List.countP_cons_of_neg (by simp [Step.closes])]

/-! ## The record of a run -/

/-- A release is the last call in the record, and there is one once the cursor is closed. -/
structure Sealed (script : List Fault) (c : Cursor (Recorded (Faulty RowQueue))) : Prop where
  reckoning : Reckoning script c.forget
  trace_eq : ∃ before : List Response, (∀ r ∈ before, r.isRelease = false) ∧
    c.stream.trace = before ++ if c.closed then [.release (verdict script)] else []

theorem Sealed.advance {script : List Fault} {c : Cursor (Recorded (Faulty RowQueue))}
    (h : Sealed script c) : Sealed script c.advance.2 := by
  have hforget : c.forget.advance.2 = c.advance.2.forget := by rw [advance_forget]
  refine ⟨hforget ▸ h.reckoning.advance, ?_⟩
  by_cases hclosed : c.closed = true
  · rw [advance_of_closed hclosed]
    exact h.trace_eq
  · have hopen : c.closed = false := Bool.eq_false_iff.mpr hclosed
    obtain ⟨before, hbefore, htrace⟩ := h.trace_eq
    obtain ⟨calls, hcalls, hmore⟩ := c.trace_advance
    rw [hopen, if_neg Bool.false_ne_true, List.append_nil] at htrace
    refine ⟨before ++ calls, ?_, ?_⟩
    · intro r hr
      rcases List.mem_append.mp hr with hr | hr
      · exact hbefore r hr
      · exact hcalls r hr
    · rw [closed_advance, hopen, if_neg Bool.false_ne_true, List.append_nil, hmore, htrace]

theorem Sealed.shut {script : List Fault} {c : Cursor (Recorded (Faulty RowQueue))}
    (h : Sealed script c) : Sealed script c.shut.2 := by
  have hforget : c.forget.shut.2 = c.shut.2.forget := by rw [shut_forget]
  refine ⟨hforget ▸ h.reckoning.shut, ?_⟩
  by_cases hclosed : c.closed = true
  · rw [Cursor.shut, if_pos hclosed]
    exact h.trace_eq
  · have hopen : c.closed = false := Bool.eq_false_iff.mpr hclosed
    have hanswer : c.shut.1 = verdict script := by
      have hfirst := h.reckoning.shut_fst hopen
      rwa [shut_forget] at hfirst
    obtain ⟨before, hbefore, htrace⟩ := h.trace_eq
    rw [hopen, if_neg Bool.false_ne_true, List.append_nil] at htrace
    have hafter : c.shut.2.closed = true := c.closed_close
    refine ⟨before, hbefore, ?_⟩
    rw [trace_shut_of_open hopen, htrace, hanswer, hafter, if_pos rfl]

theorem Sealed.after {script : List Fault} {c : Cursor (Recorded (Faulty RowQueue))}
    (h : Sealed script c) (steps : List Step) : Sealed script (c.after steps) :=
  after_preserves (P := Sealed script) (fun _ => Sealed.advance) (fun _ => Sealed.shut) h steps

/-! ## The drop -/

/-- The drop adds at most a warning to what the close does. -/
theorem drop_of_closeOnDrop {σ : Type} [RowStream σ] {cursor : Cursor σ}
    (hdrop : cursor.config.closeOnDrop = true) : ∃ log, cursor.drop = { cursor.shut.2 with log } := by
  rw [drop, if_pos hdrop]
  rcases cursor.shut with ⟨e | _, shut⟩
  · exact ⟨_, rfl⟩
  · exact ⟨shut.log, rfl⟩

theorem drop_of_not_closeOnDrop {σ : Type} [RowStream σ] {cursor : Cursor σ}
    (hkeep : cursor.config.closeOnDrop = false) : cursor.drop = cursor := by
  rw [drop, if_neg (by simp [hkeep])]

theorem closed_drop {σ : Type} [RowStream σ] (cursor : Cursor σ) :
    cursor.drop.closed = (cursor.closed || cursor.config.closeOnDrop) := by
  cases hdrop : cursor.config.closeOnDrop with
  | false => rw [drop_of_not_closeOnDrop hdrop, Bool.or_false]
  | true =>
    obtain ⟨log, hlog⟩ := drop_of_closeOnDrop hdrop
    rw [hlog, Bool.or_true]
    exact cursor.closed_close

theorem Reckoning.drop {script : List Fault} {c : Cursor (Faulty RowQueue)}
    (h : Reckoning script c) : Reckoning script c.drop := by
  cases hdrop : c.config.closeOnDrop with
  | false =>
    rw [drop_of_not_closeOnDrop hdrop]
    exact h
  | true =>
    obtain ⟨log, hlog⟩ := drop_of_closeOnDrop hdrop
    have hshut := h.shut
    rw [hlog]
    exact ⟨hshut.script_eq, hshut.live, hshut.of_open, hshut.of_closed⟩

theorem Sealed.drop {script : List Fault} {c : Cursor (Recorded (Faulty RowQueue))}
    (h : Sealed script c) : Sealed script c.drop := by
  refine ⟨c.drop_forget ▸ h.reckoning.drop, ?_⟩
  cases hdrop : c.config.closeOnDrop with
  | false =>
    rw [drop_of_not_closeOnDrop hdrop]
    exact h.trace_eq
  | true =>
    obtain ⟨log, hlog⟩ := drop_of_closeOnDrop hdrop
    rw [hlog]
    exact h.shut.trace_eq

theorem closed_finish {σ : Type} [RowStream σ] (cursor : Cursor σ) (steps : List Step) :
    (cursor.finish steps).closed =
      (cursor.closed || steps.any Step.closes || cursor.config.closeOnDrop) := by
  rw [finish, closed_drop, closed_after, config_after]

/-! ## The whole life of a cursor -/

/-- Over a run and the drop, the stream is released once if a step closes the cursor or the drop
does, and not at all otherwise. The release is the last call that the stream sees, the first close
reports its answer, and the queue is freed unless that answer is a fault. -/
theorem released_once (schema : Schema) (entries : List Entry) (script : List Fault)
    (converter : Converter) (config : Config) (steps : List Step) :
    let started := start (Faulty.of (RowQueue.of schema entries) script) converter config
    let cursor := started.after steps
    let last := started.finish steps
    let ends := steps.any Step.closes || config.closeOnDrop
    (∃ before : List Response, (∀ r ∈ before, r.isRelease = false) ∧
      started.trace steps = before ++ if ends then [.release (verdict script)] else []) ∧
      last.stream.calls.release = (if ends then 1 else 0) ∧
      (last.stream.stream.released = true ↔ ends = true ∧ releaseFault? script = none) ∧
      cursor.closed = steps.any Step.closes ∧
      started.closes steps =
        closeResults ((verdict script).mapError .stream) (steps.countP Step.closes) ∧
      (cursor.closed = true → ∀ step, (cursor.take step).2 = cursor) := by
  intro started cursor last ends
  have hstart : Reckoning script started :=
    reckoning_start schema entries script converter config
  have hsealed : Sealed script (started.record.finish steps) := by
    have hrecord : Sealed script started.record := ⟨hstart, [], nofun, rfl⟩
    exact (hrecord.after steps).drop
  -- The run that is recorded leaves the counters and the queue of the plain one.
  have hforget : last = (started.record.finish steps).forget := started.record.finish_forget steps
  have hlast : Reckoning script last := by
    rw [hforget]
    exact hsealed.reckoning
  have hends : last.closed = ends := started.closed_finish steps
  refine ⟨?_, ?_, ?_, ?_, hstart.closes_eq rfl steps, ?_⟩
  · obtain ⟨before, hbefore, htrace⟩ := hsealed.trace_eq
    refine ⟨before, hbefore, ?_⟩
    rwa [show (started.record.finish steps).closed = ends from
      started.record.closed_finish steps] at htrace
  · rw [hlast.calls_release, hends]
  · cases hcase : ends with
    | false =>
      rw [hlast.live (hends.trans hcase)]
      exact ⟨nofun, nofun⟩
    | true =>
      rw [(hlast.of_closed (hends.trans hcase)).2]
      exact ⟨fun hnone => ⟨rfl, hnone⟩, fun h => h.2⟩
  · exact (started.closed_after steps).trans (Bool.false_or _)
  · intro hclosed step
    exact take_snd_of_closed hclosed step

end Cursor
end Resultset
