import Resultset.Proofs.Delivery

/-! # Recovery from transient faults

Where every fault of a script names one call, a caller who goes on advancing gets all entries. A
fault is `pending` while its call is still to come. A failed advance uses up a pending fault and no
call adds one (`pending_advance`), so a run fails at most as often as there are faults, and every
other advance delivers an entry or finds that there is none left.
-/

namespace Resultset
set_option autoImplicit false

def isExhaustion : Except CursorError Bool → Bool
  | .ok false => true
  | _ => false

def Step.isAdvance : Step → Bool
  | .advance => true
  | _ => false

def Fault.ofFetch (fault : Fault) : Bool := fault.call != .release

/-- Whether each fault of a script that can stop a fetch names one call. -/
def Transient (script : List Fault) : Prop :=
  ∀ fault ∈ script, fault.ofFetch = true → 1 ≤ fault.nth

instance (script : List Fault) : Decidable (Transient script) :=
  inferInstanceAs (Decidable (∀ fault ∈ script, fault.ofFetch = true → 1 ≤ fault.nth))

inductive Unclosed : List Step → Prop
  | nil : Unclosed []
  | advance {steps : List Step} : Unclosed steps → Unclosed (.advance :: steps)
  | query {steps : List Step} (q : Query) : Unclosed steps → Unclosed (.query q :: steps)

theorem unclosed_of {steps : List Step} (h : ∀ step ∈ steps, step.closes = false) :
    Unclosed steps := by
  induction steps with
  | nil => exact .nil
  | cons step steps ih =>
    have hrest : Unclosed steps := ih fun s hs => h s (List.mem_cons_of_mem _ hs)
    have hstep := h step List.mem_cons_self
    cases step with
    | advance => exact .advance hrest
    | close => exact absurd hstep nofun
    | overlap arrival column g => exact absurd hstep nofun
    | query q => exact .query q hrest

theorem countP_lt_countP {α : Type} {p q : α → Bool} {l : List α} {a : α}
    (himp : ∀ x ∈ l, p x = true → q x = true) (hmem : a ∈ l) (hq : q a = true)
    (hp : ¬p a = true) : l.countP p < l.countP q := by
  obtain ⟨front, back, rfl⟩ := List.append_of_mem hmem
  have hfront : front.countP p ≤ front.countP q :=
    List.countP_mono_left fun x hx => himp x (by simp [hx])
  have hback : back.countP p ≤ back.countP q :=
    List.countP_mono_left fun x hx => himp x (by simp [hx])
  rw [List.countP_append, List.countP_append, List.countP_cons_of_pos hq,
    List.countP_cons_of_neg hp]
  omega

/-! ## Pending faults -/

namespace Faulty
variable {σ : Type}

/-- Whether a fault can still stop a fetch. -/
def awaits (calls : Calls) (fault : Fault) : Bool :=
  fault.ofFetch && decide (calls.count fault.call < fault.nth)

/-- How many faults can still stop a fetch. -/
def pending (faulty : Faulty σ) : Nat := faulty.script.countP (awaits faulty.calls)

theorem awaits_of_add {calls : Calls} {call : Call} {fault : Fault}
    (h : awaits (calls.add call) fault = true) : awaits calls fault = true := by
  rw [awaits, Bool.and_eq_true, decide_eq_true_eq] at h ⊢
  have hle := calls.count_le_count_add call fault.call
  exact ⟨h.1, by omega⟩

theorem pending_counted_le (faulty : Faulty σ) (call : Call) :
    (faulty.counted call).pending ≤ faulty.pending :=
  List.countP_mono_left fun _ _ => awaits_of_add

/-- A call that fails uses up the fault that it meets. -/
theorem pending_counted_lt {faulty : Faulty σ} {call : Call} {e : StreamError}
    (htransient : Transient faulty.script) (hcall : call ≠ .release)
    (hfault : faulty.fault? call = some e) :
    (faulty.counted call).pending < faulty.pending := by
  obtain ⟨fault, hfind, -⟩ := Option.map_eq_some_iff.mp hfault
  have hmem : fault ∈ faulty.script := List.mem_of_find?_eq_some hfind
  have hhits := List.find?_some hfind
  rw [Fault.hits, Bool.and_eq_true, beq_iff_eq, Bool.or_eq_true, beq_iff_eq, beq_iff_eq] at hhits
  obtain ⟨rfl, hnth⟩ := hhits
  have hfetch : fault.ofFetch = true := by simp [Fault.ofFetch, hcall]
  have hpos := htransient fault hmem hfetch
  have hnow : fault.nth = faulty.calls.count fault.call + 1 := by omega
  -- The fault names this very call: it is awaited before it and not after it.
  refine countP_lt_countP (fun _ _ => awaits_of_add) hmem ?_ ?_
  · rw [awaits, hfetch, Bool.true_and, decide_eq_true_eq]
    omega
  · have hcount : (faulty.counted fault.call).calls.count fault.call =
        faulty.calls.count fault.call + 1 := faulty.calls.count_add_self fault.call
    rw [awaits, hfetch, Bool.true_and, decide_eq_true_eq]
    omega

theorem pending_of {script : List Fault} (htransient : Transient script) (stream : σ) :
    (of stream script).pending = script.countP Fault.ofFetch := by
  refine List.countP_congr fun fault hmem => ?_
  rw [awaits, Bool.and_eq_true, decide_eq_true_eq]
  have hzero : (of stream script).calls.count fault.call = 0 := by cases fault.call <;> rfl
  constructor
  · exact fun h => h.1
  · intro hfetch
    have hpos := htransient fault hmem hfetch
    exact ⟨hfetch, by omega⟩

end Faulty

namespace Cursor

/-! ## Failures -/

def loss (result : Except CursorError Bool) : Nat := if isFailure result then 1 else 0

/-- A failed advance uses up a pending fault, and no advance adds one. -/
theorem pending_advance {c : Cursor (Faulty RowQueue)} (hlive : c.Live)
    (htransient : Transient c.stream.script) (hopen : c.closed = false) :
    loss c.advance.1 + c.advance.2.stream.pending ≤ c.stream.pending := by
  have hcases := advance_cases hlive
  generalize c.advance.1 = result, c.advance.2 = d at hcases
  cases hcases with
  | refused hclosed => exact absurd (hopen.symm.trans hclosed) nofun
  | idle => exact Nat.le_of_eq (Nat.zero_add _)
  | fetched _ _ hfetch =>
    cases hfetch with
    | unasked hfault =>
      have hlt := Faulty.pending_counted_lt htransient (by decide) hfault
      change 1 + (c.stream.counted .hasNext).pending ≤ _
      omega
    | exhausted =>
      have hle := c.stream.pending_counted_le .hasNext
      change 0 + (c.stream.counted .hasNext).pending ≤ _
      omega
    | withheld hfault hentries hnext =>
      have hle := c.stream.pending_counted_le .hasNext
      have hshift : (c.stream.counted .hasNext).fault? .next = c.stream.fault? .next :=
        Faulty.fault?_counted (by decide)
      have hlt : ((c.stream.counted .hasNext).counted .next).pending <
          (c.stream.counted .hasNext).pending :=
        Faulty.pending_counted_lt htransient (by decide) (hshift.trans hnext)
      change 1 + ((c.stream.counted .hasNext).counted .next).pending ≤ _
      omega
    | delivered =>
      have hle := c.stream.pending_counted_le .hasNext
      have hle' := (c.stream.counted .hasNext).pending_counted_le .next
      change 0 + ((c.stream.counted .hasNext).counted .next).pending ≤ _
      omega

theorem script_advance {c : Cursor (Faulty RowQueue)} (hlive : c.Live) :
    c.advance.2.stream.script = c.stream.script := by
  have hcases := advance_cases hlive
  generalize c.advance.1 = result, c.advance.2 = d at hcases
  cases hcases with
  | refused => rfl
  | idle => rfl
  | fetched _ _ hfetch => cases hfetch <;> rfl

/-- A run that does not close fails at most as often as faults are pending. -/
theorem failures_le {c : Cursor (Faulty RowQueue)} (hlive : c.Live)
    (htransient : Transient c.stream.script) (hopen : c.closed = false) {steps : List Step}
    (hsteps : Unclosed steps) : (c.advances steps).countP isFailure ≤ c.stream.pending := by
  induction hsteps generalizing c with
  | nil => exact Nat.zero_le _
  | advance _ ih =>
    have hscript : Transient c.advance.2.stream.script := by rwa [script_advance hlive]
    have hmore := ih hlive.advance hscript (c.closed_advance.trans hopen)
    have hpending := pending_advance hlive htransient hopen
    rw [advances_advance, List.countP_cons]
    rw [loss] at hpending
    omega
  | query q _ ih =>
    rw [advances_query]
    exact ih hlive htransient hopen

/-! ## Runs that do not close -/

variable {σ : Type} [RowStream σ]

theorem length_advances {steps : List Step} (hsteps : Unclosed steps) (cursor : Cursor σ) :
    (cursor.advances steps).length = steps.countP Step.isAdvance := by
  induction hsteps generalizing cursor with
  | nil => rfl
  | advance _ ih =>
    rw [advances_advance, List.length_cons, ih, List.countP_cons_of_pos (by rfl)]
  | query q _ ih => rw [advances_query, ih, List.countP_cons_of_neg (by simp [Step.isAdvance])]

theorem length_exposures {steps : List Step} (hsteps : Unclosed steps) (cursor : Cursor σ) :
    (cursor.exposures steps).length = (cursor.advances steps).countP isDelivery := by
  induction hsteps generalizing cursor with
  | nil => rfl
  | advance _ ih =>
    rw [advances_advance]
    by_cases hok : isDelivery cursor.advance.1 = true
    · rw [exposures_advance_of_ok (isDelivery_iff.mp hok), List.length_cons, ih,
        List.countP_cons_of_pos hok]
    · rw [exposures_advance_of_not (Bool.eq_false_iff.mpr hok), ih,
        List.countP_cons_of_neg hok]
  | query q _ ih => rw [exposures_query, advances_query, ih]

/-- Past the last entry, a run that does not close finds none, without the stream. -/
theorem after_of_afterLast {cursor : Cursor σ} (hopen : cursor.closed = false)
    (hlast : cursor.position = .afterLast) {steps : List Step} (hsteps : Unclosed steps) :
    cursor.after steps = cursor ∧ ∀ result ∈ cursor.advances steps, result = .ok false := by
  induction hsteps with
  | nil => exact ⟨rfl, nofun⟩
  | advance _ ih =>
    obtain ⟨hafter, hresults⟩ := ih
    rw [after_cons, take_advance, advances_advance, advance_of_afterLast hopen hlast]
    refine ⟨hafter, ?_⟩
    intro result hmem
    rcases List.mem_cons.mp hmem with rfl | hmem
    · rfl
    · exact hresults result hmem
  | query q _ ih =>
    rw [after_cons, take_query, advances_query]
    exact ih

theorem countP_results (results : List (Except CursorError Bool)) :
    results.countP isDelivery + results.countP isFailure + results.countP isExhaustion =
      results.length := by
  induction results with
  | nil => rfl
  | cons result results ih =>
    rw [List.length_cons, ← ih, List.countP_cons, List.countP_cons, List.countP_cons]
    match result with
    | .error e => simp [isDelivery, isFailure, isExhaustion]; omega
    | .ok true => simp [isDelivery, isFailure, isExhaustion]; omega
    | .ok false => simp [isDelivery, isFailure, isExhaustion]; omega

/-! ## Enough advances -/

/-- With one advance for each entry, one for each fault and one more, a caller gets every entry once
and in order. At most one advance fails for each fault, the others find that no entry is left, and so
does every later one, without the stream. -/
theorem recovered (schema : Schema) (entries : List Entry) (script : List Fault)
    (converter : Converter) (config : Config) (steps : List Step) (hscript : Transient script)
    (hsteps : ∀ step ∈ steps, step.closes = false)
    (hcount : entries.length + 1 + script.countP Fault.ofFetch ≤ steps.countP Step.isAdvance) :
    let started := start (Faulty.of (RowQueue.of schema entries) script) converter config
    let cursor := started.after steps
    let results := started.advances steps
    cursor.position = .afterLast ∧
      started.exposures steps = entries ∧
      results.countP isDelivery = entries.length ∧
      results.countP isFailure ≤ script.countP Fault.ofFetch ∧
      results.countP isDelivery + results.countP isFailure + results.countP isExhaustion =
        steps.countP Step.isAdvance ∧
      ∀ more : List Step, (∀ step ∈ more, step.closes = false) →
        cursor.after more = cursor ∧ ∀ result ∈ cursor.advances more, result = .ok false := by
  intro started cursor results
  have hstart : Delivery entries 0 started :=
    delivery_start schema entries script converter config
  have hafter : Delivery entries (0 + results.countP isDelivery) cursor := hstart.after steps
  rw [Nat.zero_add] at hafter
  have hrun : Unclosed steps := unclosed_of hsteps
  have hfailures : results.countP isFailure ≤ script.countP Fault.ofFetch := by
    have hle := failures_le hstart.live (c := started) hscript rfl hrun
    rwa [show started.stream.pending = script.countP Fault.ofFetch from
      Faulty.pending_of hscript _] at hle
  have hresults : results.length = steps.countP Step.isAdvance := length_advances hrun started
  have hsum := countP_results results
  have hdelivered := hafter.count_le
  -- Without an exhaustion there would be too few results.
  have hlast : cursor.position = .afterLast := by
    rw [position_after hstart.live steps]
    have hsome : 0 < results.countP isExhaustion := by omega
    obtain ⟨result, hmem, hresult⟩ := List.countP_pos_iff.mp hsome
    match result, hresult with
    | .ok false, _ => exact Or.inr hmem
  have hall : results.countP isDelivery = entries.length := hafter.of_afterLast hlast
  have hopen : cursor.closed = false := by
    have hany : steps.any Step.closes = false := by
      rw [List.any_eq_false]
      intro step hmem
      simp [hsteps step hmem]
    exact (started.closed_after steps).trans hany
  refine ⟨hlast, ?_, hall, hfailures, hsum.trans hresults, ?_⟩
  · have hprefix := hstart.exposures_prefix steps
    rw [List.drop_zero] at hprefix
    exact hprefix.eq_of_length ((length_exposures hrun started).trans hall)
  · intro more hmore
    exact after_of_afterLast hopen hlast (unclosed_of hmore)

/-- Two faults on one call, one that comes between the question and the entry, and one that is never
met. -/
theorem recovered_past_four_faults :
    Transient [⟨.hasNext, 1, .released⟩, ⟨.next, 1, .io "reset"⟩, ⟨.hasNext, 1, .other "down"⟩,
        ⟨.next, 9, .released⟩] ∧
      (∀ step ∈ Step.query .wasNull :: List.replicate 7 Step.advance, step.closes = false) ∧
      [some ⟨[.null]⟩, (none : Entry)].length + 1 +
          List.countP Fault.ofFetch [⟨.hasNext, 1, .released⟩, ⟨.next, 1, .io "reset"⟩,
            ⟨.hasNext, 1, .other "down"⟩, ⟨.next, 9, .released⟩] ≤
        (Step.query .wasNull :: List.replicate 7 Step.advance).countP Step.isAdvance ∧
      (start (Faulty.of (RowQueue.of Schema.empty [some ⟨[.null]⟩, none])
          [⟨.hasNext, 1, .released⟩, ⟨.next, 1, .io "reset"⟩, ⟨.hasNext, 1, .other "down"⟩,
            ⟨.next, 9, .released⟩]) .typed Config.default).exposures
          (.query .wasNull :: List.replicate 7 .advance) = [some ⟨[.null]⟩, none] :=
  ⟨by decide, by decide, by decide,
    (recovered Schema.empty [some ⟨[.null]⟩, none]
      [⟨.hasNext, 1, .released⟩, ⟨.next, 1, .io "reset"⟩, ⟨.hasNext, 1, .other "down"⟩,
        ⟨.next, 9, .released⟩] .typed Config.default
      (.query .wasNull :: List.replicate 7 .advance) (by decide) (by decide) (by decide)).2.1⟩

end Cursor
end Resultset
