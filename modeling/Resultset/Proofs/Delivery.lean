import Resultset.Proofs.Outcomes

/-! # Delivery

The entries of the queue reach the caller in order and once each. `Delivery entries k c` says where
a cursor stands after `k` advances have delivered an entry: what it shows of the `k`-th entry, and
which entries the queue still holds. Every call keeps it (`Delivery.advance`, `Delivery.close`),
under any fault script, and the state after any run is read off from it.
-/

namespace Resultset
set_option autoImplicit false

/-- The entry that the `k`-th successful advance delivers. -/
def nthEntry (entries : List Entry) : (k : Nat) → Option Entry
  | 0 => none
  | k + 1 => entries[k]?

theorem nthEntry_succ_of_drop {entries rest : List Entry} {entry : Entry} {k : Nat}
    (h : entries.drop k = entry :: rest) : nthEntry entries (k + 1) = some entry := by
  have hhead : (entries.drop k)[0]? = some entry := by rw [h]; rfl
  rw [List.getElem?_drop, Nat.add_zero] at hhead
  exact hhead

namespace Cursor

/-! ## Where a cursor stands -/

/-- The state of a cursor after `k` deliveries out of `entries`. -/
structure Delivery (entries : List Entry) (k : Nat) (c : Cursor (Faulty RowQueue)) : Prop where
  live : c.Live
  count_le : k ≤ entries.length
  of_afterLast : c.position = .afterLast → k = entries.length
  position_eq : c.position ≠ .afterLast →
    c.position = if k = 0 then .beforeFirst else .onRow
  current_eq : c.current =
    if c.closed = false ∧ c.position = .onRow then (nthEntry entries k).join else none
  nullRow_iff : c.nullRow = true ↔ nthEntry entries k = some none
  remaining : c.stream.stream.released = false → c.stream.stream.entries = entries.drop k

theorem delivery_start (schema : Schema) (entries : List Entry) (script : List Fault)
    (converter : Converter) (config : Config) :
    Delivery entries 0
      (start (Faulty.of (RowQueue.of schema entries) script) converter config) where
  live := live_start schema entries script converter config
  count_le := Nat.zero_le _
  of_afterLast := nofun
  position_eq _ := rfl
  current_eq := rfl
  nullRow_iff := ⟨nofun, nofun⟩
  remaining _ := rfl

def gain (result : Except CursorError Bool) : Nat := if isDelivery result then 1 else 0

theorem Delivery.counted {entries : List Entry} {k : Nat} {c : Cursor (Faulty RowQueue)}
    (h : Delivery entries k c) (call : Call) :
    Delivery entries k { c with stream := c.stream.counted call } :=
  ⟨h.live, h.count_le, h.of_afterLast, h.position_eq, h.current_eq, h.nullRow_iff, h.remaining⟩

/-- A fetch delivers the entry after the `k`-th, or none. -/
theorem Delivery.fetch {entries : List Entry} {k : Nat} {c d : Cursor (Faulty RowQueue)}
    {result : Except CursorError Bool} (h : Delivery entries k c) (hopen : c.closed = false)
    (hfetch : Fetched c result d) : Delivery entries (k + gain result) d := by
  have hrest := h.remaining (h.live hopen)
  cases hfetch with
  | unasked => exact h.counted _
  | withheld => exact (h.counted _).counted _
  | exhausted hfault hempty =>
    have hlast : k = entries.length := by
      rw [hempty] at hrest
      have hle := List.drop_eq_nil_iff.mp hrest.symm
      have := h.count_le
      omega
    exact {
      live := h.live
      count_le := h.count_le
      of_afterLast := fun _ => hlast
      position_eq := fun hmore => absurd rfl hmore
      current_eq := by simp [emit]
      nullRow_iff := h.nullRow_iff
      remaining := h.remaining }
  | @delivered entry rest hfault hentries hnext =>
    have hdrop : entries.drop k = entry :: rest := hrest.symm.trans hentries
    have hentry : nthEntry entries (k + 1) = some entry := nthEntry_succ_of_drop hdrop
    have hlt : k < entries.length := by
      have hlength := congrArg List.length hdrop
      rw [List.length_drop, List.length_cons] at hlength
      omega
    exact {
      live := h.live
      count_le := hlt
      of_afterLast := nofun
      position_eq := fun _ => rfl
      current_eq := by
        change entry = if c.closed = false ∧ Position.onRow = Position.onRow then
          (nthEntry entries (k + 1)).join else none
        rw [if_pos ⟨hopen, rfl⟩, hentry]
        rfl
      nullRow_iff := by
        change entry.isNone = true ↔ nthEntry entries (k + 1) = some none
        rw [hentry, Option.some.injEq, Option.isNone_iff_eq_none]
      remaining := fun _ => by
        change rest = entries.drop (k + 1)
        rw [← List.drop_drop, hdrop]
        rfl }

theorem Delivery.advance {entries : List Entry} {k : Nat} {c : Cursor (Faulty RowQueue)}
    (h : Delivery entries k c) : Delivery entries (k + gain c.advance.1) c.advance.2 := by
  have hcases := advance_cases h.live
  generalize c.advance.1 = result, c.advance.2 = d at hcases
  cases hcases with
  | refused => exact h
  | idle => exact h
  | fetched hopen _ hfetch => exact h.fetch hopen hfetch

theorem Delivery.close {entries : List Entry} {k : Nat} {c : Cursor (Faulty RowQueue)}
    (h : Delivery entries k c) : Delivery entries k c.close.2 := by
  have hcases := shut_cases h.live
  change Delivery entries k c.shut.2
  generalize c.shut.1 = result, c.shut.2 = d at hcases
  cases hcases with
  | again => exact h
  | failed hopen =>
    exact {
      live := nofun
      count_le := h.count_le
      of_afterLast := h.of_afterLast
      position_eq := h.position_eq
      current_eq := by simp [emit]
      nullRow_iff := h.nullRow_iff
      remaining := h.remaining }
  | released hopen =>
    exact {
      live := nofun
      count_le := h.count_le
      of_afterLast := h.of_afterLast
      position_eq := h.position_eq
      current_eq := by simp [emit]
      nullRow_iff := h.nullRow_iff
      remaining := nofun }

/-- A failed call of the stream leaves an advancing cursor as it was, but for the counters. -/
theorem advance_of_stream_error {c : Cursor (Faulty RowQueue)} (hlive : c.Live) {e : StreamError}
    (herror : c.advance.1 = .error (.stream e)) :
    ∃ calls, c.advance.2 = { c with stream := { c.stream with calls } } := by
  have hcases := advance_cases hlive
  rw [herror] at hcases
  generalize c.advance.2 = d at hcases
  cases hcases with
  | fetched _ _ hfetch =>
    cases hfetch with
    | unasked => exact ⟨_, rfl⟩
    | withheld => exact ⟨_, rfl⟩

/-! ## Runs -/

def deliveries (c : Cursor (Faulty RowQueue)) (steps : List Step) : Nat :=
  (c.advances steps).countP isDelivery

/-- What every advance keeps for the number of entries that it makes it, and every close for the same
number, a run keeps for all its deliveries. -/
theorem after_counts {P : Nat → Cursor (Faulty RowQueue) → Prop}
    (hadvance : ∀ k c, P k c → P (k + gain c.advance.1) c.advance.2)
    (hclose : ∀ k c, P k c → P k c.close.2) {k : Nat} {c : Cursor (Faulty RowQueue)} (h : P k c)
    (steps : List Step) : P (k + c.deliveries steps) (c.after steps) := by
  induction steps generalizing c k with
  | nil => exact h
  | cons step steps ih =>
    rw [after_cons, deliveries]
    cases step with
    | advance =>
      have hrest := ih (hadvance k c h)
      rw [deliveries, Nat.add_assoc, gain, Nat.add_comm (ite _ _ _)] at hrest
      rwa [advances_advance, List.countP_cons]
    | close => exact ih (hclose k c h)
    | overlap arrival column g =>
      have hrest := ih (hclose _ _ (hadvance k c h))
      rw [deliveries, Nat.add_assoc, gain, Nat.add_comm (ite _ _ _)] at hrest
      rwa [advances_overlap, List.countP_cons, take_overlap_snd]
    | query q =>
      rw [advances_query, take_query]
      exact ih h

theorem Delivery.after {entries : List Entry} {k : Nat} {c : Cursor (Faulty RowQueue)}
    (h : Delivery entries k c) (steps : List Step) :
    Delivery entries (k + c.deliveries steps) (c.after steps) :=
  after_counts (P := Delivery entries) (fun _ _ => Delivery.advance) (fun _ _ => Delivery.close) h steps

/-- An advance that finds no other entry is what takes a cursor past the last one. -/
theorem position_advance {c : Cursor (Faulty RowQueue)} (hlive : c.Live) :
    c.advance.2.position = .afterLast ↔ c.position = .afterLast ∨ c.advance.1 = .ok false := by
  have hcases := advance_cases hlive
  generalize c.advance.1 = result, c.advance.2 = d at hcases
  cases hcases with
  | refused => simp
  | idle _ hlast => simp [hlast]
  | fetched _ hmore hfetch =>
    cases hfetch with
    | unasked => simp
    | exhausted => simp [emit]
    | withheld => simp
    | delivered => simp [emit, hmore]

theorem position_after {c : Cursor (Faulty RowQueue)} (hlive : c.Live) (steps : List Step) :
    (c.after steps).position = .afterLast ↔
      c.position = .afterLast ∨ .ok false ∈ c.advances steps := by
  induction steps generalizing c with
  | nil => simp [after, advances, history]
  | cons step steps ih =>
    rw [after_cons]
    cases step with
    | advance =>
      rw [advances_advance, List.mem_cons, take_advance, ih hlive.advance,
        position_advance hlive, or_assoc, eq_comm (a := c.advance.1)]
    | close => rw [advances_close, take_close, ih Live.close, position_close]
    | overlap arrival column g =>
      rw [advances_overlap, List.mem_cons, take_overlap_snd, ih Live.close, position_close,
        position_advance hlive, or_assoc, eq_comm (a := c.advance.1)]
    | query q => rw [advances_query, take_query, ih hlive]

/-! ## Exposed entries -/

variable {σ : Type} [RowStream σ]

def exposed? : Answer × Cursor σ → Option Entry
  | (.advanced (.ok true), cursor) => some cursor.current
  | _ => none

/-- The entries that a run leaves to be read, in order. -/
def exposures (cursor : Cursor σ) (steps : List Step) : List Entry :=
  (cursor.history steps).filterMap exposed?

theorem exposures_of_closed {cursor : Cursor σ} (hclosed : cursor.closed = true)
    (steps : List Step) : cursor.exposures steps = [] := by
  induction steps with
  | nil => rfl
  | cons step steps ih =>
    have hnone : exposed? (cursor.take step) = none := by
      cases step with
      | advance => rw [take_advance, advance_of_closed hclosed]; rfl
      | close => rfl
      | overlap arrival column g => rfl
      | query q => cases q <;> rfl
    rw [exposures, history, List.filterMap_cons_none hnone, take_snd_of_closed hclosed]
    exact ih

theorem Delivery.current_advance {entries : List Entry} {k : Nat} {c : Cursor (Faulty RowQueue)}
    (h : Delivery entries k c) (hok : c.advance.1 = .ok true) :
    entries.drop k = c.advance.2.current :: entries.drop (k + 1) := by
  have hcases := advance_cases h.live
  rw [hok] at hcases
  generalize c.advance.2 = d at hcases
  cases hcases with
  | fetched hopen _ hfetch =>
    cases hfetch with
    | @delivered entry rest _ hentries _ =>
      have hdrop := (h.remaining (h.live hopen)).symm.trans hentries
      change entries.drop k = entry :: entries.drop (k + 1)
      rw [← List.drop_drop, hdrop]
      rfl

theorem exposures_advance_of_ok {cursor : Cursor σ} (hok : cursor.advance.1 = .ok true)
    (steps : List Step) : cursor.exposures (.advance :: steps) =
      cursor.advance.2.current :: cursor.advance.2.exposures steps := by
  have hshown : exposed? (cursor.take .advance) = some cursor.advance.2.current := by
    rw [take_advance, hok]
    rfl
  exact List.filterMap_cons_some hshown

theorem exposures_advance_of_not {cursor : Cursor σ} (hno : isDelivery cursor.advance.1 = false)
    (steps : List Step) :
    cursor.exposures (.advance :: steps) = cursor.advance.2.exposures steps := by
  have hnone : exposed? (cursor.take .advance) = none := by
    rw [take_advance]
    generalize cursor.advance.1 = result at hno
    cases result with
    | error e => rfl
    | ok more =>
      cases more with
      | false => rfl
      | true => exact absurd hno nofun
  exact List.filterMap_cons_none hnone

theorem exposures_close (cursor : Cursor σ) (steps : List Step) :
    cursor.exposures (.close :: steps) = cursor.close.2.exposures steps := rfl

theorem exposures_query (cursor : Cursor σ) (q : Query) (steps : List Step) :
    cursor.exposures (.query q :: steps) = cursor.exposures steps := by
  have hnone : exposed? (cursor.take (.query q)) = none := by
    rw [take_query]
    cases q <;> rfl
  rw [exposures, history, List.filterMap_cons_none hnone, take_query, exposures]

theorem isDelivery_iff {result : Except CursorError Bool} :
    isDelivery result = true ↔ result = .ok true := by
  cases result with
  | error e => exact ⟨nofun, nofun⟩
  | ok more => cases more <;> simp [isDelivery]

/-- No run loses, repeats or reorders an entry. -/
theorem Delivery.exposures_prefix {entries : List Entry} {k : Nat} {c : Cursor (Faulty RowQueue)}
    (h : Delivery entries k c) (steps : List Step) : c.exposures steps <+: entries.drop k := by
  induction steps generalizing c k with
  | nil => exact List.nil_prefix
  | cons step steps ih =>
    cases step with
    | advance =>
      have hrest := ih h.advance
      by_cases hok : isDelivery c.advance.1 = true
      · rw [gain, if_pos hok] at hrest
        have hok' := isDelivery_iff.mp hok
        rw [exposures_advance_of_ok hok', h.current_advance hok', List.cons_prefix_cons]
        exact ⟨rfl, hrest⟩
      · rw [gain, if_neg hok] at hrest
        rwa [exposures_advance_of_not (Bool.eq_false_iff.mpr hok)]
    | close =>
      rw [exposures_close]
      exact ih h.close
    | overlap arrival column g =>
      -- The close clears what the advance may have delivered, and no entry comes after it.
      have hclosed : (c.take (.overlap arrival column g)).2.closed = true := by
        rw [take_overlap_snd, closed_close]
      have hnone : exposed? (c.take (.overlap arrival column g)) = none := rfl
      rw [exposures, history, List.filterMap_cons_none hnone]
      change (c.take (.overlap arrival column g)).2.exposures steps <+: _
      rw [exposures_of_closed hclosed]
      exact List.nil_prefix
    | query q =>
      rw [exposures_query]
      exact ih h

/-! ## The state after a run -/

/-- After any run under any fault script, with `k` deliveries out of `entries`: how far the cursor
got, what it shows of the `k`-th entry, and which entries the queue still holds. An advance that a
fault stops changes nothing but the call counters. -/
theorem delivered_in_order (schema : Schema) (entries : List Entry) (script : List Fault)
    (converter : Converter) (config : Config) (steps : List Step) :
    let started := start (Faulty.of (RowQueue.of schema entries) script) converter config
    let cursor := started.after steps
    let k := (started.advances steps).countP isDelivery
    k ≤ entries.length ∧
      (cursor.position = .afterLast ↔ .ok false ∈ started.advances steps) ∧
      (cursor.position = .afterLast → k = entries.length) ∧
      (cursor.position ≠ .afterLast →
        cursor.position = if k = 0 then .beforeFirst else .onRow) ∧
      (cursor.current =
        if cursor.closed = false ∧ cursor.position = .onRow then (nthEntry entries k).join
        else none) ∧
      (cursor.closed = false →
        ∃ flag, cursor.wasNull = .ok flag ∧ (flag = true ↔ nthEntry entries k = some none)) ∧
      (cursor.stream.stream.released = false →
        cursor.stream.stream.entries = entries.drop k) ∧
      started.exposures steps <+: entries ∧
      (∀ e, cursor.advance.1 = .error (.stream e) →
        ∃ calls, cursor.advance.2 = { cursor with stream := { cursor.stream with calls } }) ∧
      (∀ e arrival column g, (cursor.overlap arrival column g).1.advance = .error (.stream e) →
        ∃ calls, (cursor.overlap arrival column g).2 =
          { cursor with stream := { cursor.stream with calls } : Cursor _ }.close.2) := by
  intro started cursor k
  have hstart : Delivery entries 0 started :=
    delivery_start schema entries script converter config
  have h : Delivery entries k cursor := by
    have hafter := hstart.after steps
    rwa [Nat.zero_add] at hafter
  refine ⟨h.count_le, ?_, h.of_afterLast, h.position_eq, h.current_eq, ?_, h.remaining, ?_, ?_, ?_⟩
  · have hposition := position_after hstart.live steps
    rwa [or_iff_right (nofun : started.position ≠ .afterLast)] at hposition
  · intro hopen
    exact ⟨cursor.nullRow, wasNull_of_open hopen, h.nullRow_iff⟩
  · have hprefix := hstart.exposures_prefix steps
    rwa [List.drop_zero] at hprefix
  · intro e herror
    exact advance_of_stream_error h.live herror
  · intro e arrival column g herror
    rw [overlap_advance] at herror
    obtain ⟨calls, hadvance⟩ := advance_of_stream_error h.live herror
    exact ⟨calls, by rw [overlap_snd, hadvance]⟩

end Cursor
end Resultset
