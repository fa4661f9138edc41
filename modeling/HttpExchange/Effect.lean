/-!
# Computations that change a state and may panic

An `Effect σ α` takes a state, and gives the changed state together with how it ended: with a
value, with a panic, or halted. A panic unwinds to the nearest `attempt`; what was changed before
it stays changed. Nothing catches a halt: the state is then the one at the point where the
computation was cut off.
-/

namespace HttpExchange

/-- What a panic carries: a text, or something that is none. -/
inductive Panic
  | text (message : String)
  | silent
  deriving DecidableEq

/-- The text that a panic is reported with. -/
def Panic.message : Panic → String
  | .text message => message
  | .silent => "callback panicked"

/-- How a computation ended. -/
inductive Outcome (α : Type)
  | done (value : α)
  | panicked (panic : Panic)
  | halted
  deriving DecidableEq

/-- A computation over a state. -/
def Effect (σ α : Type) : Type := σ → Outcome α × σ

namespace Effect

variable {σ α β : Type}

/-- Runs a computation from a state. -/
@[inline] def run (m : Effect σ α) (s : σ) : Outcome α × σ := m s

@[always_inline, inline] protected def pure (a : α) : Effect σ α := fun s => (.done a, s)

@[always_inline, inline] protected def bind (m : Effect σ α) (f : α → Effect σ β) : Effect σ β :=
  fun s =>
    match m s with
    | (.done a, s) => f a s
    | (.panicked p, s) => (.panicked p, s)
    | (.halted, s) => (.halted, s)

@[always_inline] instance : Monad (Effect σ) where
  pure := Effect.pure
  bind := Effect.bind

/-- The current state. -/
@[always_inline, inline] def get : Effect σ σ := fun s => (.done s, s)

/-- Something that is read off the current state. -/
@[always_inline, inline] def gets (f : σ → α) : Effect σ α := fun s => (.done (f s), s)

/-- Changes the state. -/
@[always_inline, inline] def modify (f : σ → σ) : Effect σ Unit := fun s => (.done (), f s)

/-- Changes the state and gives what was found out on the way. -/
@[always_inline, inline] def modifyGet (f : σ → α × σ) : Effect σ α := fun s =>
  match f s with
  | (a, s) => (.done a, s)

/-- Unwinds to the nearest `attempt`. -/
@[inline] def panic (p : Panic) : Effect σ α := fun s => (.panicked p, s)

/-- Cuts the whole computation off. -/
@[inline] def halt : Effect σ α := fun s => (.halted, s)

/-- Unwinds if there is a panic to unwind with. -/
@[inline] def unwindWith : Option Panic → Effect σ Unit
  | none => pure ()
  | some p => panic p

/-- Runs a computation and catches its panic. -/
@[always_inline, inline] def attempt (m : Effect σ α) : Effect σ (Except Panic α) := fun s =>
  match m s with
  | (.done a, s) => (.done (.ok a), s)
  | (.panicked p, s) => (.done (.error p), s)
  | (.halted, s) => (.halted, s)

/-- Runs an effect for each entry of a list, from the front. -/
def forEach (f : α → Effect σ Unit) : List α → Effect σ Unit
  | [] => pure ()
  | a :: rest => do
    f a
    forEach f rest

theorem bind_run (m : Effect σ α) (f : α → Effect σ β) (s : σ) :
    (m >>= f) s = match m s with
      | (.done a, s) => f a s
      | (.panicked p, s) => (.panicked p, s)
      | (.halted, s) => (.halted, s) := rfl

/-- A sequence goes on where its first part was done. -/
theorem bind_of_done {m : Effect σ α} {f : α → Effect σ β} {s s' : σ} {a : α}
    (h : m s = (.done a, s')) : (m >>= f) s = f a s' := by
  rw [bind_run, h]

/-- A sequence is done if both of its parts are. -/
theorem bind_eq_done {m : Effect σ α} {f : α → Effect σ β} {s s' : σ} {b : β} :
    (m >>= f) s = (.done b, s') ↔ ∃ a t, m s = (.done a, t) ∧ f a t = (.done b, s') := by
  rw [bind_run]
  rcases m s with ⟨_ | _ | _, _⟩ <;> simp [and_assoc]

/-- What is caught stays done as far as it went. -/
theorem snd_attempt (m : Effect σ α) (s : σ) : (attempt m s).2 = (m s).2 := by
  unfold attempt
  rcases m s with ⟨_ | _ | _, _⟩ <;> rfl

theorem pure_run (a : α) (s : σ) : (pure a : Effect σ α) s = (.done a, s) := rfl

/-- What is given in the end makes no difference to the state. -/
theorem snd_bind_pure (m : Effect σ α) (b : β) (s : σ) :
    ((m >>= fun _ => pure b) s).2 = (m s).2 := by
  rw [bind_run]
  rcases m s with ⟨_ | _ | _, _⟩ <;> rfl

private theorem id_map_run (m : Effect σ α) : id <$> m = m := by
  funext s
  show (match m s with | (.done a, s) => _ | (.panicked p, s) => _ | (.halted, s) => _) = m s
  rcases m s with ⟨_ | _ | _, _⟩ <;> rfl

private theorem bind_assoc_run (m : Effect σ α) (f : α → Effect σ β) (g : β → Effect σ γ) :
    m >>= f >>= g = m >>= fun a => f a >>= g := by
  funext s
  simp only [bind_run]
  rcases m s with ⟨_ | _ | _, _⟩ <;> rfl

instance : LawfulMonad (Effect σ) :=
  LawfulMonad.mk' (Effect σ) id_map_run (fun _ _ => rfl) bind_assoc_run

end Effect

end HttpExchange
