import Resultset.Cursor

/-! # Looking at a cursor

A look is a call that only asks. Like any other call it takes the cursor and hands one on, whether
it answers or fails, so that a look leaves the cursor alone is a fact about its steps and not about
its type. `Look.Keeps` states it, and calls that are put together from looks that keep the cursor
keep it too. The answers of such calls follow one another as if there were no cursor to hand on
(`Look.answer_bind`).
-/

namespace Resultset
set_option autoImplicit false

abbrev Look (σ α : Type) : Type := ExceptT CursorError (StateM (Cursor σ)) α

namespace Look
variable {σ α β : Type}

/-- The answer of a look at a cursor, with the cursor after it. -/
def on (look : Look σ α) (cursor : Cursor σ) : Except CursorError α × Cursor σ :=
  look.run.run cursor

def answer (look : Look σ α) (cursor : Cursor σ) : Except CursorError α := (look.on cursor).1

/-- Whether a look leaves every cursor as it is. -/
def Keeps (look : Look σ α) : Prop := ∀ cursor, (look.on cursor).2 = cursor

/-! ## Laws -/

theorem on_bind (look : Look σ α) (next : α → Look σ β) (cursor : Cursor σ) :
    (look >>= next).on cursor =
      match look.on cursor with
      | (.ok a, cursor) => (next a).on cursor
      | (.error e, cursor) => (.error e, cursor) := by
  simp only [on, ExceptT.run_bind, StateT.run_bind]
  rcases look.run.run cursor with ⟨e | a, after⟩
  · rfl
  · rfl

theorem Keeps.on_eq {look : Look σ α} (h : look.Keeps) (cursor : Cursor σ) :
    look.on cursor = (look.answer cursor, cursor) := Prod.ext rfl (h cursor)

theorem keeps_pure (a : α) : (pure a : Look σ α).Keeps := fun _ => rfl

theorem keeps_throw (e : CursorError) : (throw e : Look σ α).Keeps := fun _ => rfl

theorem keeps_get : (get : Look σ (Cursor σ)).Keeps := fun _ => rfl

theorem keeps_lift (result : Except CursorError α) : (liftM result : Look σ α).Keeps := fun _ => rfl

theorem Keeps.bind {look : Look σ α} {next : α → Look σ β} (h : look.Keeps)
    (hnext : ∀ a, (next a).Keeps) : (look >>= next).Keeps := by
  intro cursor
  rw [on_bind, h.on_eq]
  cases look.answer cursor with
  | ok a => exact hnext a cursor
  | error e => rfl

theorem answer_get_bind (next : Cursor σ → Look σ α) (cursor : Cursor σ) :
    (get >>= next).answer cursor = (next cursor).answer cursor := rfl

/-- After a look that keeps the cursor the next one is at the same cursor. -/
theorem Keeps.answer_bind {look : Look σ α} (h : look.Keeps) (next : α → Look σ β)
    (cursor : Cursor σ) :
    (look >>= next).answer cursor = look.answer cursor >>= fun a => (next a).answer cursor := by
  rw [answer, on_bind, h.on_eq]
  cases look.answer cursor with
  | ok a => rfl
  | error e => rfl

end Look
end Resultset
