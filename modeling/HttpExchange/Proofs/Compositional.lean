import HttpExchange.Proofs.Surroundings

/-!
# Properties that carry over to calls of callbacks and streams

Completing a callback or calling a stream is, in the end, a few calls of the surroundings with some
bookkeeping around them that has no part in the exchanges. So what holds of every call that the
surroundings answer, of such bookkeeping, and of a sequence of computations that have it
(`Compositional`), holds of these operations. A stream is treated by induction on its wrappers.

Most of these operations keep no books but those of promises, and for them it is enough that
sequences have the property (`Sequential`).
-/

namespace HttpExchange

variable {κ ε : Type}

/-- How a promise stands; one that does not exist is pending. -/
def World.promiseState (w : World κ ε) (p : PromiseRef) : PromiseState :=
  match w.promises[p.index]? with
  | some promise => promise.state
  | none => .pending

/-- Nothing changed but what has no part in the exchanges, and no promise was settled. -/
structure World.Beside (w w' : World κ ε) : Prop where
  same : ∃ slots promises bodies streamCount outside,
    w' = { w with slots, promises, bodies, streamCount, outside }
  promises : ∀ p, w'.promiseState p = w.promiseState p
  size : w.promises.size ≤ w'.promises.size

namespace World

/-- Slots, bodies and what surroundings keep for themselves are beside what steps are about. -/
theorem Beside.of_promises {w w' : World κ ε} (hpromises : w'.promises = w.promises)
    (h : ∃ slots bodies streamCount outside, w' = { w with slots, bodies, streamCount, outside }) :
    w.Beside w' := by
  obtain ⟨slots, bodies, streamCount, outside, rfl⟩ := h
  refine ⟨⟨slots, w.promises, bodies, streamCount, outside, rfl⟩, fun p => ?_, ?_⟩
  · rw [promiseState, hpromises]
    rfl
  · exact Nat.le_of_eq (congrArg Array.size hpromises.symm)

/-- A new promise is pending, as one that does not exist. -/
theorem beside_newPromise (w : World κ ε) :
    w.Beside { w with promises := w.promises.push ⟨.pending, none⟩ } := by
  refine ⟨⟨_, _, _, _, _, rfl⟩, fun p => ?_, by simp⟩
  unfold promiseState
  dsimp only
  rw [Array.getElem?_push]
  by_cases hp : p.index = w.promises.size
  · rw [if_pos hp, hp, Array.getElem?_eq_none (Nat.le_refl _)]
  · rw [if_neg hp]

/-- Whoever waits for a promise does not settle it. -/
theorem beside_modifyWaker (w : World κ ε) (p : PromiseRef) (waker : Option κ) :
    w.Beside { w with promises := w.promises.modify p.index fun x => { x with waker } } := by
  refine ⟨⟨_, _, _, _, _, rfl⟩, fun q => ?_, by simp⟩
  unfold promiseState
  dsimp only
  rw [Array.getElem?_modify]
  by_cases hq : p.index = q.index
  · rw [if_pos hq]
    cases w.promises[q.index]? <;> rfl
  · rw [if_neg hq]

end World

/-- A property that a sequence of computations has if its parts do, and that looking at the state
and settling a promise have. -/
structure Sequential (P : (α : Type) → Engine κ ε α → Prop) : Prop where
  pure {α : Type} (a : α) : P α (Pure.pure a)
  bind {α β : Type} {m : Engine κ ε α} {f : α → Engine κ ε β} :
    P α m → (∀ a, P β (f a)) → P β (m >>= f)
  attempt {α : Type} {m : Engine κ ε α} : P α m → P (Except Panic α) (Effect.attempt m)
  gets {α : Type} (f : World κ ε → α) : P α (Effect.gets f)
  tell (p : PromiseRef) (state : PromiseState) : P Unit (Effect.modify (·.tell p state))

/-- A property that besides every computation has that changes only what has no part in the
exchanges, and no request body. -/
structure Compositional (P : (α : Type) → Engine κ ε α → Prop) : Prop extends Sequential P where
  aside {α : Type} {f : World κ ε → α × World κ ε} :
    (∀ w : World κ ε, w.Beside (f w).2) → (∀ w : World κ ε, (f w).2.bodies = w.bodies) →
      P α (Effect.modifyGet f)

namespace Sequential

variable {P : (α : Type) → Engine κ ε α → Prop} {host : Host κ ε}

/-! ## Callbacks -/

/-- A promise is told, and whoever waits for it is woken. -/
theorem settle (hP : Sequential P) (hh : host.Answers P) (p : PromiseRef)
    (state : PromiseState) : P _ (p.settle host state) := by
  refine hP.bind (hP.gets _) fun waker => ?_
  refine hP.bind (hP.tell p state) fun _ => ?_
  cases waker with
  | none => exact hP.pure ()
  | some waker => exact hh.run waker .ready

/-- A callback is code, a promise, or nobody. -/
theorem complete (hP : Sequential P) (hh : host.Answers P) (callback : Callback κ)
    (result : Result) : P _ (callback.complete host result) := by
  cases callback with
  | code run => exact hh.run run _
  | promise p => exact hP.settle hh p _
  | ignore => exact hP.pure ()

/-- Only a promise notices that it is dropped. -/
theorem drop (hP : Sequential P) (hh : host.Answers P) (callback : Callback κ) :
    P _ (callback.drop host) := by
  cases callback with
  | promise p => exact hP.settle hh p _
  | code | ignore => exact hP.pure ()

/-! ## Streams -/

/-- Content goes through the wrappers from the outside to the inside, like every call of a stream.
-/
theorem read (hP : Sequential P) (hh : host.Answers P) (stream : Stream) :
    P _ (stream.read host) := by
  induction stream with
  | transport ref => exact hh.read ref
  | listening _ _ inner ih => exact ih
  | decorated ref _ inner ih => exact hP.bind (hh.observe ref .read) fun _ => ih

theorem demand (hP : Sequential P) (hh : host.Answers P) (stream : Stream) :
    P _ (stream.demand host) := by
  induction stream with
  | transport ref => exact hh.demand ref
  | listening _ _ inner ih => exact ih
  | decorated ref _ inner ih => exact hP.bind (hh.observe ref .demand) fun _ => ih

/-- The bytes go the same way. -/
theorem send (hP : Sequential P) (hh : host.Answers P)
    (head : Option (ResponseHead × ExchangeRef)) (last : Bool) (ended : SendRef)
    (chunks : List Octets) (stream : Stream) : P _ (stream.send host head last ended chunks) := by
  induction stream with
  | transport ref => exact hh.send ref head last ended chunks
  | listening _ _ inner ih => exact ih
  | decorated ref _ inner ih => exact hP.bind (hh.observe ref .send) fun _ => ih

theorem push (hP : Sequential P) (hh : host.Answers P) (request : RequestHead)
    (stream : Stream) : P _ (stream.push host request) := by
  induction stream with
  | transport ref => exact hh.push ref request
  | listening _ _ inner ih => exact ih
  | decorated => exact hP.pure ()

theorem consumeAll (hP : Sequential P) (hh : host.Answers P) (stream : Stream) :
    P _ (stream.consumeAll host) := by
  induction stream with
  | transport ref => exact hh.consumeAll ref
  | listening _ _ inner ih => exact ih
  | decorated ref _ inner ih => exact hP.bind (hh.observe ref .consumeAll) fun _ => ih

end Sequential

namespace Compositional

variable {P : (α : Type) → Engine κ ε α → Prop} {host : Host κ ε}

/-- The listener is taken and told, and its panic is caught. -/
theorem notify (hP : Compositional P) (hh : host.Answers P) (slot : SlotRef) (result : Result) :
    P _ (slot.notify host result) := by
  refine hP.bind (hP.aside (fun _ => .of_promises rfl ⟨_, _, _, _, rfl⟩) fun _ => rfl)
    fun listener => ?_
  cases listener with
  | none => exact hP.pure ()
  | some listener =>
    exact hP.bind (hP.attempt (hP.complete hh listener result)) fun _ => hP.pure ()

/-- The listeners are told before what they wrap. -/
theorem succeeded (hP : Compositional P) (hh : host.Answers P) (stream : Stream) :
    P _ (stream.succeeded host) := by
  induction stream with
  | transport ref => exact hh.succeeded ref
  | listening _ slot inner ih => exact hP.bind (hP.notify hh slot _) fun _ => ih
  | decorated ref _ inner ih => exact hP.bind (hh.observe ref .succeeded) fun _ => ih

theorem failed (hP : Compositional P) (hh : host.Answers P) (cause : FailureRef)
    (stream : Stream) : P _ (stream.failed host cause) := by
  induction stream with
  | transport ref => exact hh.failed ref cause
  | listening _ slot inner ih => exact hP.bind (hP.notify hh slot _) fun _ => ih
  | decorated ref _ inner ih => exact hP.bind (hh.observe ref .failed) fun _ => ih

end Compositional

/-- Nothing but the surroundings changes while a stream prepares a head. -/
theorem Stream.quiet_prepare {P : (α : Type) → Engine κ ε α → Prop} {host : Host κ ε}
    (hh : host.Answers P) (fields : Fields) (stream : Stream) :
    Quiet (stream.prepare host fields) := by
  induction stream with
  | transport ref => exact hh.prepare ref fields
  | listening _ _ inner ih => exact ih
  | decorated ref _ inner ih =>
    intro w
    obtain ⟨out, hout⟩ := hh.observePrepare ref w
    show ∃ out, ((host.observe ref .prepare >>= fun _ => inner.prepare host fields) w).2 = _
    rw [Effect.bind_run]
    rcases hob : host.observe ref .prepare w with ⟨_ | _ | _, w₁⟩
    · rw [hob] at hout
      subst hout
      exact ih _
    · rw [hob] at hout
      exact ⟨out, hout⟩
    · rw [hob] at hout
      exact ⟨out, hout⟩

end HttpExchange
