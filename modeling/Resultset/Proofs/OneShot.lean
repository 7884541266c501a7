import Resultset.Stream.Queue

/-! # Histories of a row queue

A queue hands out its entries once, in order, until the first release. `Served` says what a queue is
after some calls: which entries were taken and whether it was released. One call keeps it
(`Served.step`), so a sequence of calls does, and what the next call is answered is read off from it
(`one_shot`).
-/

namespace Resultset
set_option autoImplicit false

/-- The entry that a response hands out. -/
def Response.taken? : Response → Option Entry
  | .entry (.ok e) => some e
  | _ => none

namespace RowStream
variable {σ : Type} [RowStream σ]

/-! ## Sequences of calls -/

/-- The stream after a sequence of calls. -/
def after (stream : σ) (requests : List Request) : σ :=
  requests.foldl (fun stream request => (serve stream request).2) stream

/-- The entries that a sequence of calls takes, in order. -/
def taken (stream : σ) (requests : List Request) : List Entry :=
  (serveAll stream requests).filterMap fun answer => answer.1.taken?

theorem serveAll_append (stream : σ) (requests more : List Request) :
    serveAll stream (requests ++ more) =
      serveAll stream requests ++ serveAll (after stream requests) more := by
  induction requests generalizing stream with
  | nil => rfl
  | cons request requests ih =>
    rw [List.cons_append, serveAll, serveAll, List.cons_append, ih]
    rfl

theorem taken_cons (stream : σ) (request : Request) (requests : List Request) :
    taken stream (request :: requests) =
      (serve stream request).1.taken?.toList ++ taken (serve stream request).2 requests := by
  rw [taken, serveAll]
  cases htaken : (serve stream request).1.taken? with
  | none => exact List.filterMap_cons_none htaken
  | some entry => exact List.filterMap_cons_some htaken

end RowStream

namespace RowQueue
open RowStream

/-! ## One call -/

/-- A queue of `entries` after calls that took `taken` and released it or not. -/
structure Served (schema : Schema) (entries taken : List Entry) (released : Bool)
    (queue : RowQueue) : Prop where
  schema_eq : queue.schema = schema
  taken_prefix : taken <+: entries
  released_eq : queue.released = released
  entries_eq : queue.entries = if released then [] else entries.drop taken.length
  releases_eq : queue.releases = if released then 1 else 0

theorem served_of (schema : Schema) (entries : List Entry) :
    Served schema entries [] false (of schema entries) where
  schema_eq := rfl
  taken_prefix := List.nil_prefix
  released_eq := rfl
  entries_eq := rfl
  releases_eq := rfl

variable {schema : Schema} {entries taken : List Entry} {released : Bool} {queue : RowQueue}

/-- What is taken next from a queue that is not released is the entry after those taken. -/
theorem Served.next {entry : Entry} {rest : List Entry}
    (h : Served schema entries taken false queue) (hentries : queue.entries = entry :: rest) :
    Served schema entries (taken ++ [entry]) false { queue with entries := rest } := by
  obtain ⟨left, rfl⟩ := h.taken_prefix
  have hleft : left = entry :: rest := by
    rw [← hentries, h.entries_eq, if_neg Bool.false_ne_true, List.drop_left]
  subst hleft
  have hsplit : taken ++ entry :: rest = taken ++ [entry] ++ rest := List.append_cons ..
  refine ⟨h.schema_eq, ⟨rest, hsplit.symm⟩, h.released_eq, ?_, h.releases_eq⟩
  change rest = (taken ++ entry :: rest).drop (taken ++ [entry]).length
  rw [hsplit, List.drop_left]

/-- A call that hands nothing out and leaves the queue as it is keeps what is known of it. -/
theorem Served.unchanged (h : Served schema entries taken released queue) {request : Request}
    {response : Response} (hserve : serve queue request = (response, queue))
    (hnone : response.taken? = none) (hlive : released = true ∨ request ≠ .release) :
    Served schema entries (taken ++ (serve queue request).1.taken?.toList)
      (released || decide (request = .release)) (serve queue request).2 := by
  have hreleased : (released || decide (request = .release)) = released := by
    rcases hlive with rfl | hne
    · exact Bool.true_or _
    · rw [decide_eq_false hne, Bool.or_false]
  rw [hserve, hreleased]
  simp only [hnone, Option.toList_none, List.append_nil]
  exact h

theorem Served.step (h : Served schema entries taken released queue) (request : Request) :
    Served schema entries (taken ++ (serve queue request).1.taken?.toList)
      (released || decide (request = .release)) (serve queue request).2 := by
  cases request with
  | schema => exact h.unchanged rfl rfl (.inr nofun)
  | hasNext =>
    cases released with
    | true => exact h.unchanged (serve_hasNext (hasNext_of_released h.released_eq)) rfl (.inl rfl)
    | false => exact h.unchanged (serve_hasNext (hasNext_of_live h.released_eq)) rfl (.inr nofun)
  | next =>
    cases released with
    | true => exact h.unchanged (serve_next (next_of_released h.released_eq)) rfl (.inl rfl)
    | false =>
      cases hentries : queue.entries with
      | nil => exact h.unchanged (serve_next (next_of_nil h.released_eq hentries)) rfl (.inr nofun)
      | cons entry rest =>
        rw [serve_next (next_of_cons h.released_eq hentries)]
        exact h.next hentries
  | release =>
    cases released with
    | true => exact h.unchanged (serve_release (release_of_released h.released_eq)) rfl (.inl rfl)
    | false =>
      have hreleases : queue.releases = 0 := h.releases_eq
      rw [serve_release (release_of_live h.released_eq), hreleases]
      refine ⟨h.schema_eq, ?_, rfl, rfl, rfl⟩
      simpa [Response.taken?] using h.taken_prefix

/-! ## Before the release -/

theorem Served.remaining_add (h : Served schema entries taken false queue) :
    queue.remaining + taken.length = entries.length := by
  have hle := h.taken_prefix.length_le
  have hentries : queue.entries = entries.drop taken.length := h.entries_eq
  rw [remaining, hentries, List.length_drop, Nat.sub_add_cancel hle]

theorem Served.next_of_empty (h : Served schema entries taken false queue)
    (hempty : queue.remaining = 0) : serve queue .next = (.entry (.error noMoreRows), queue) :=
  serve_next (next_of_nil h.released_eq (List.eq_nil_of_length_eq_zero hempty))

theorem Served.next_ok_iff (h : Served schema entries taken false queue) (entry : Entry) :
    (serve queue .next).1 = .entry (.ok entry) ↔ entries[taken.length]? = some entry := by
  have hentries : queue.entries[0]? = entries[taken.length]? := by
    rw [h.entries_eq, if_neg Bool.false_ne_true, List.getElem?_drop, Nat.add_zero]
  rw [← hentries]
  cases hqueue : queue.entries with
  | nil =>
    rw [serve_next (next_of_nil h.released_eq hqueue)]
    exact ⟨nofun, nofun⟩
  | cons first rest =>
    rw [serve_next (next_of_cons h.released_eq hqueue), List.getElem?_cons_zero]
    simp

theorem Served.hasNext_iff (h : Served schema entries taken false queue) :
    ∃ more, serve queue .hasNext = (.more (.ok more), queue) ∧
      (more = true ↔ ∃ entry, (serve queue .next).1 = .entry (.ok entry)) := by
  refine ⟨_, serve_hasNext (hasNext_of_live h.released_eq), ?_⟩
  cases hqueue : queue.entries with
  | nil =>
    rw [serve_next (next_of_nil h.released_eq hqueue)]
    exact ⟨nofun, nofun⟩
  | cons first rest =>
    rw [serve_next (next_of_cons h.released_eq hqueue)]
    exact ⟨fun _ => ⟨first, rfl⟩, fun _ => rfl⟩

/-! ## Any number of calls -/

theorem Served.run (h : Served schema entries taken released queue) (requests : List Request) :
    Served schema entries (taken ++ RowStream.taken queue requests)
      (released || decide (.release ∈ requests)) (after queue requests) := by
  induction requests generalizing taken released queue with
  | nil => simpa [RowStream.taken, serveAll, after] using h
  | cons request requests ih =>
    -- The first call adds its entry to those taken before, the others theirs behind it.
    have hrest := ih (h.step request)
    have hreleased : .release ∈ request :: requests ↔ request = .release ∨ .release ∈ requests := by
      rw [List.mem_cons, eq_comm]
    rw [List.append_assoc, ← taken_cons, Bool.or_assoc, ← Bool.decide_or] at hrest
    rw [decide_eq_decide.mpr hreleased]
    exact hrest

/-- Whatever was asked of a queue before: the entries taken so far are the first ones, in order.
Until the first release the next one is the entry after them, a null row too, the question whether
there is one changes nothing, and past the last one only an error is left. From the first release on
the queue is empty and refuses, and further releases have no effect. -/
theorem one_shot (schema : Schema) (entries : List Entry) (requests : List Request) :
    let fresh := of schema entries
    let queue := after fresh requests
    let taken := RowStream.taken fresh requests
    (∀ request, serveAll fresh (requests ++ [request]) =
        serveAll fresh requests ++ [serve queue request]) ∧
      taken <+: entries ∧
      serve queue .schema = (.schema schema, queue) ∧
      (serve queue .release).1 = .release (.ok ()) ∧
      (.release ∉ requests →
        queue.remaining + taken.length = entries.length ∧ queue.releases = 0 ∧
          (∀ entry, (serve queue .next).1 = .entry (.ok entry) ↔
            entries[taken.length]? = some entry) ∧
          (queue.remaining = 0 →
            serve queue .next = (.entry (.error (.other "no more rows")), queue)) ∧
          ∃ more, serve queue .hasNext = (.more (.ok more), queue) ∧
            (more = true ↔ ∃ entry, (serve queue .next).1 = .entry (.ok entry))) ∧
      (.release ∈ requests →
        queue.remaining = 0 ∧ queue.releases = 1 ∧
          serve queue .hasNext = (.more (.error .released), queue) ∧
          serve queue .next = (.entry (.error .released), queue)) := by
  intro fresh queue taken
  have h : Served schema entries taken (decide (.release ∈ requests)) queue := by
    simpa using (served_of schema entries).run requests
  refine ⟨fun request => ?_, h.taken_prefix, ?_, ?_, fun hlive => ?_, fun hreleased => ?_⟩
  · rw [serveAll_append]
    rfl
  · change (Response.schema queue.schema, queue) = _
    rw [h.schema_eq]
  · cases hreleased : queue.released with
    | true => rw [serve_release (release_of_released hreleased)]
    | false => rw [serve_release (release_of_live hreleased)]
  · rw [decide_eq_false hlive] at h
    exact ⟨h.remaining_add, h.releases_eq, h.next_ok_iff, h.next_of_empty, h.hasNext_iff⟩
  · rw [decide_eq_true hreleased] at h
    have hempty : queue.remaining = 0 := by rw [remaining, h.entries_eq]; rfl
    exact ⟨hempty, h.releases_eq, serve_hasNext (hasNext_of_released h.released_eq),
      serve_next (next_of_released h.released_eq)⟩

end RowQueue
end Resultset
