import HttpExchange.Proofs.Listeners
import HttpExchange.Proofs.Telling

/-!
# Two surroundings at once

An operation that leaves some calls of its surroundings alone goes alike with surroundings that answer
those calls differently. `Alike` carries two computations at once: they go alike from the states of a
kind, and the state that they come to stands in a relation to the one that they began with.

What an operation may run of the code around the engine is its `Part`: code of the application, the
handler, the renderer, and what streams do that are told how an exchange ended. Who is told by the way
is found in the state, as the listener in a slot or the waker of a promise, so the state has to agree
with the part (`World.Waits`). About code that is no part of an operation nothing is assumed; with all
code in the part, nothing is assumed about the state.

Two kinds of computations matter for an exchange that is not active. `Aloof` is for code of the
application, which has no part in the engine but for that exchange. `Inert` is for the engine itself:
with a queue in order, nothing but that exchange is changed, and the queue is in order afterwards.
`Host.Bystanders` says what two surroundings have in common: what is part of the operation is the same
in both, and aloof.

A task of one's own that only tells somebody something is inert (`Queue.inert_run`): it is left to
whoever works the queue off, or it is the only one.
-/

namespace HttpExchange

variable {κ ε α β : Type}

/-- The objects that a stream is made of. -/
def Stream.refs : Stream → List StreamRef
  | transport ref => [ref]
  | listening ref _ inner | decorated ref _ inner => ref :: inner.refs

/-! ## What an exchange that is not active has no part in -/

namespace World

variable {w w' : World κ ε} {e : ExchangeRef}

/-- The channel and all other exchanges are left alone. -/
structure Untouched (e : ExchangeRef) (w w' : World κ ε) : Prop where
  channel : w'.channel = w.channel
  others : ∀ g, g ≠ e → w'.exchange g = w.exchange g

namespace Untouched

theorem refl (e : ExchangeRef) (w : World κ ε) : w.Untouched e w := ⟨rfl, fun _ _ => rfl⟩

theorem trans {w₁ w₂ : World κ ε} (h : w.Untouched e w₁) (h' : w₁.Untouched e w₂) :
    w.Untouched e w₂ :=
  ⟨h'.channel.trans h.channel, fun g hg => (h'.others g hg).trans (h.others g hg)⟩

theorem same (hchannel : w'.channel = w.channel) (hexchanges : w'.exchanges = w.exchanges) :
    w.Untouched e w' := by
  refine ⟨hchannel, fun g _ => ?_⟩
  rw [exchange, hexchanges]
  rfl

end Untouched

end World

/-- The part that code around the engine has in an operation. -/
structure Part (κ : Type) where
  /-- The code of the application that may be run. -/
  code : κ → Prop
  /-- Whether the handler may be run. -/
  handler : Prop
  /-- Whether the renderer may be run. -/
  renderer : Prop
  /-- The objects that may be told how an exchange ended. -/
  streams : StreamRef → Prop
  /-- The slots whose listeners may be told. -/
  slots : SlotRef → Prop
  /-- The promises that may be settled. -/
  promises : PromiseRef → Prop

/-- No code takes part. -/
def Part.none : Part κ where
  code _ := False
  handler := False
  renderer := False
  streams _ := False
  slots _ := False
  promises _ := False

/-- A callback may be told. -/
def Part.Tells (part : Part κ) : Callback κ → Prop
  | .code run => part.code run
  | .promise p => part.promises p
  | .ignore => True

/-- A job only tells somebody something, who may be told. -/
def Part.Does (part : Part κ) : Job κ → Prop
  | .code run _ | .errorListener _ run _ => part.code run
  | .complete callback _ => part.Tells callback
  | .wakeBody _ | .closeListener _ _ | .abort _ | .fail _ _ | .dispatch _ | .drain _ => False

/-- A stream may be told how an exchange ended. -/
structure Part.Holds (part : Part κ) (stream : Stream) : Prop where
  streams : ∀ ref ∈ stream.refs, part.streams ref
  slots : ∀ slot ∈ stream.slots, part.slots slot

namespace World

variable {w w' : World κ ε} {e : ExchangeRef} {part : Part κ}

/-- Who waits in the slots and for the promises of a part is in the part. -/
structure Waits (w : World κ ε) (part : Part κ) : Prop where
  listeners : ∀ slot, part.slots slot → ∀ listener, w.listener? slot = some listener →
    part.Tells listener
  wakers : ∀ p, part.promises p → ∀ waker, (w.promises[p.index]?).bind (·.waker) = some waker →
    part.code waker

theorem Waits.of_eq (h : w.Waits part) (hslots : w'.slots = w.slots)
    (hpromises : w'.promises = w.promises) : w'.Waits part where
  listeners slot hslot listener hwaits := h.listeners slot hslot listener (by
    rwa [listener?, hslots] at hwaits)
  wakers p hp waker hwaits := h.wakers p hp waker (by rwa [hpromises] at hwaits)

theorem Waits.none (w : World κ ε) : w.Waits Part.none := ⟨nofun, nofun⟩

/-- Nobody waits any more in a slot that was emptied. -/
theorem Waits.vacate (h : w.Waits part) (slot : SlotRef) : (w.vacate slot).Waits part where
  listeners other hother listener hwaits := by
    by_cases hsame : other = slot
    · rw [hsame, listener?_vacate_self] at hwaits
      cases hwaits
    · rw [listener?_vacate_of_ne hsame] at hwaits
      exact h.listeners other hother listener hwaits
  wakers := h.wakers

/-- Nobody waits any more for a promise that was settled. -/
theorem Waits.tell (h : w.Waits part) (p : PromiseRef) (state : PromiseState) :
    (w.tell p state).Waits part := by
  unfold World.tell
  split
  · refine ⟨h.listeners, fun q hq waker hwaits => ?_⟩
    simp only [Array.getElem?_modify] at hwaits
    split at hwaits
    · cases hpromise : w.promises[q.index]? <;> rw [hpromise] at hwaits <;> cases hwaits
    · exact h.wakers q hq waker hwaits
  · exact h

/-- Nobody waits for a new promise. -/
theorem Waits.newPromise (h : w.Waits part) :
    World.Waits { w with promises := w.promises.push ⟨.pending, Option.none⟩ } part where
  listeners := h.listeners
  wakers p hp waker hwaits := by
    simp only [Array.getElem?_push] at hwaits
    split at hwaits
    · cases hwaits
    · exact h.wakers p hp waker hwaits

/-- An exchange is not the active one, the queue of the channel is in order, and who waits is in the
part. -/
structure Stale (w : World κ ε) (part : Part κ) (e : ExchangeRef) : Prop where
  inactive : w.activeFor? e = none
  settled : w.channelQueue.Settled
  waits : w.Waits part

/-- The queue of the channel stays in order besides, and who waits is in the part. -/
structure Spared (part : Part κ) (e : ExchangeRef) (w w' : World κ ε) : Prop
    extends w.Untouched e w' where
  settled : w'.channelQueue.Settled
  waits : w'.Waits part

/-- The queue of the channel is left alone besides, and who waits is in the part. -/
structure Apart (part : Part κ) (e : ExchangeRef) (w w' : World κ ε) : Prop
    extends w.Untouched e w' where
  queue : w'.channelQueue = w.channelQueue
  waits : w'.Waits part

theorem Stale.spared (h : w.Stale part e) (h' : w.Spared part e w') : w'.Stale part e := by
  refine ⟨?_, h'.settled, h'.waits⟩
  rw [activeFor?, h'.channel]
  exact h.inactive

theorem Apart.spared (h : w.Stale part e) (h' : w.Apart part e w') : w.Spared part e w' := by
  refine ⟨h'.toUntouched, ?_, h'.waits⟩
  rw [h'.queue]
  exact h.settled

/-- What has to do neither with the channel nor with exchanges, nor with anybody who waits. -/
theorem Apart.of_eq (h : w.Waits part) (hchannel : w'.channel = w.channel)
    (hexchanges : w'.exchanges = w.exchanges) (hqueue : w'.channelQueue = w.channelQueue)
    (hslots : w'.slots = w.slots) (hpromises : w'.promises = w.promises) :
    w.Apart part e w' :=
  ⟨.same hchannel hexchanges, hqueue, h.of_eq hslots hpromises⟩

end World

open World

/-! ## Two computations that go alike -/

/-- Two computations go alike from the states of a kind, and stand in a relation to the state that they
come to. -/
def Alike (P : World κ ε → Prop) (R : World κ ε → World κ ε → Prop) (m m' : Engine κ ε α) : Prop :=
  ∀ w, P w → m w = m' w ∧ R w (m w).2

/-- A relation that a sequence of computations stands in if its parts do. -/
structure Chains (P : World κ ε → Prop) (R : World κ ε → World κ ε → Prop) : Prop where
  refl : ∀ w, P w → R w w
  trans : ∀ w₁ w₂ w₃, R w₁ w₂ → R w₂ w₃ → R w₁ w₃
  keep : ∀ w w', P w → R w w' → P w'

/-- An exchange that is not active stays inactive, and the queue in order. -/
theorem Chains.spared (part : Part κ) (e : ExchangeRef) :
    Chains (fun w : World κ ε => w.Stale part e) fun w w' => w.Spared part e w' where
  refl w h := ⟨.refl e w, h.settled, h.waits⟩
  trans _ _ _ h h' := ⟨h.toUntouched.trans h'.toUntouched, h'.settled, h'.waits⟩
  keep _ _ h h' := h.spared h'

/-- What leaves the channel, its queue and the other exchanges alone can be repeated. -/
theorem Chains.apart (part : Part κ) (e : ExchangeRef) :
    Chains (fun w : World κ ε => w.Waits part) fun w w' => w.Apart part e w' where
  refl w h := ⟨.refl e w, rfl, h⟩
  trans _ _ _ h h' := ⟨h.toUntouched.trans h'.toUntouched, h'.queue.trans h.queue, h'.waits⟩
  keep _ _ _ h' := h'.waits

namespace Alike

variable {P : World κ ε → Prop} {R : World κ ε → World κ ε → Prop}

theorem pure (hR : Chains P R) (a : α) : Alike P R (pure a) (pure a) :=
  fun w hw => ⟨rfl, hR.refl w hw⟩

theorem modifyGet {f : World κ ε → α × World κ ε} (h : ∀ w, P w → R w (f w).2) :
    Alike P R (Effect.modifyGet f) (Effect.modifyGet f) := fun w hw => ⟨rfl, h w hw⟩

theorem modify {f : World κ ε → World κ ε} (h : ∀ w, P w → R w (f w)) :
    Alike P R (Effect.modify f) (Effect.modify f) := fun w hw => ⟨rfl, h w hw⟩

/-- Sequences go alike whose parts do. -/
theorem bind (hR : Chains P R) {m m' : Engine κ ε α} {f f' : α → Engine κ ε β}
    (hm : Alike P R m m') (hf : ∀ a, Alike P R (f a) (f' a)) :
    Alike P R (m >>= f) (m' >>= f') := by
  intro w hw
  obtain ⟨hsame, hrel⟩ := hm w hw
  rw [Effect.bind_run, Effect.bind_run, ← hsame]
  rcases hmw : m w with ⟨a | _ | _, w₁⟩
  · rw [hmw] at hrel
    obtain ⟨hsame₁, hrel₁⟩ := hf a w₁ (hR.keep w w₁ hw hrel)
    exact ⟨hsame₁, hR.trans _ _ _ hrel hrel₁⟩
  · rw [hmw] at hrel
    exact ⟨rfl, hrel⟩
  · rw [hmw] at hrel
    exact ⟨rfl, hrel⟩

/-- What is read may be known. -/
theorem bind_gets {γ : Type} {g : World κ ε → γ} {f f' : γ → Engine κ ε β}
    (h : ∀ w, P w → Alike P R (f (g w)) (f' (g w))) :
    Alike P R (Effect.gets g >>= f) (Effect.gets g >>= f') :=
  fun w hw => h w hw w hw

/-- A panic is caught on both sides. -/
theorem attempt {m m' : Engine κ ε α} (hm : Alike P R m m') :
    Alike P R (Effect.attempt m) (Effect.attempt m') := by
  intro w hw
  obtain ⟨hsame, hrel⟩ := hm w hw
  unfold Effect.attempt
  rw [← hsame]
  rcases hmw : m w with ⟨_ | _ | _, _⟩ <;> rw [hmw] at hrel <;> exact ⟨rfl, hrel⟩

end Alike

/-- Two computations of the application that go alike, and have no part in the engine but for one
exchange. Whoever waits after that is in the part that they have. -/
def Aloof (part : Part κ) (e : ExchangeRef) (m m' : Engine κ ε α) : Prop :=
  Alike (fun w => w.Waits part) (fun w w' => w.Apart part e w') m m'

/-- Two computations that go alike when an exchange is not active, and spare everything that it has no
part in. -/
def Inert (part : Part κ) (e : ExchangeRef) (m m' : Engine κ ε α) : Prop :=
  Alike (fun w => w.Stale part e) (fun w w' => w.Spared part e w') m m'

namespace Aloof

variable {part : Part κ} {e : ExchangeRef}

/-- What has no part in the engine keeps the queue in order. -/
theorem inert {m m' : Engine κ ε α} (h : Aloof part e m m') : Inert part e m m' := by
  intro w hw
  obtain ⟨hsame, hapart⟩ := h w hw.waits
  exact ⟨hsame, hapart.spared hw⟩

theorem pure (a : α) : Aloof part e (pure a : Engine κ ε α) (pure a) := Alike.pure (.apart part e) a

theorem bind {m m' : Engine κ ε α} {f f' : α → Engine κ ε β} (hm : Aloof part e m m')
    (hf : ∀ a, Aloof part e (f a) (f' a)) : Aloof part e (m >>= f) (m' >>= f') :=
  Alike.bind (.apart part e) hm hf

/-- What is read from a state is known to be in the part. -/
theorem bind_gets {γ : Type} {g : World κ ε → γ} {f f' : γ → Engine κ ε β}
    (h : ∀ w : World κ ε, w.Waits part → Aloof part e (f (g w)) (f' (g w))) :
    Aloof part e (Effect.gets g >>= f) (Effect.gets g >>= f') := Alike.bind_gets h

theorem attempt {m m' : Engine κ ε α} (hm : Aloof part e m m') :
    Aloof part e (Effect.attempt m) (Effect.attempt m') := Alike.attempt hm

theorem modify {f : World κ ε → World κ ε}
    (h : ∀ w : World κ ε, w.Waits part → w.Apart part e (f w)) :
    Aloof part e (Effect.modify f) (Effect.modify f) := Alike.modify h

end Aloof

namespace Inert

variable {part : Part κ} {e : ExchangeRef}

theorem pure (a : α) : Inert part e (pure a : Engine κ ε α) (pure a) :=
  Alike.pure (.spared part e) a

theorem bind {m m' : Engine κ ε α} {f f' : α → Engine κ ε β} (hm : Inert part e m m')
    (hf : ∀ a, Inert part e (f a) (f' a)) : Inert part e (m >>= f) (m' >>= f') :=
  Alike.bind (.spared part e) hm hf

theorem bind_gets {γ : Type} {g : World κ ε → γ} {f f' : γ → Engine κ ε β}
    (h : ∀ w : World κ ε, w.Stale part e → Inert part e (f (g w)) (f' (g w))) :
    Inert part e (Effect.gets g >>= f) (Effect.gets g >>= f') := Alike.bind_gets h

/-- The exchange is found not to be active. -/
theorem bind_activeFor? {f f' : Option (Active κ) → Engine κ ε β}
    (h : Inert part e (f none) (f' none)) :
    Inert part e (Engine.activeFor? e >>= f) (Engine.activeFor? e >>= f') := by
  refine .bind_gets fun w hw => ?_
  rw [hw.inactive]
  exact h

theorem gets (f : World κ ε → α) : Inert part e (Effect.gets f) (Effect.gets f) :=
  fun w hw => ⟨rfl, .refl e w, hw.settled, hw.waits⟩

theorem modifyGet {f : World κ ε → α × World κ ε}
    (h : ∀ w : World κ ε, w.Waits part → w.Apart part e (f w).2) :
    Inert part e (Effect.modifyGet f) (Effect.modifyGet f) :=
  Alike.modifyGet fun w hw => (h w hw.waits).spared hw

theorem modify {f : World κ ε → World κ ε}
    (h : ∀ w : World κ ε, w.Waits part → w.Apart part e (f w)) :
    Inert part e (Effect.modify f) (Effect.modify f) :=
  Alike.modify fun w hw => (h w hw.waits).spared hw

/-- Failures, deeds and entries have no part in what is spared. -/
theorem newFailure (error : ExchangeError) :
    Inert part e (Engine.newFailure error : Engine κ ε FailureRef) (Engine.newFailure error) :=
  .modifyGet fun _ hw => .of_eq hw rfl rfl rfl rfl rfl

theorem note (d : Deed κ) : Inert part e (Engine.note d : Engine κ ε Unit) (Engine.note d) :=
  .modify fun _ hw => .of_eq hw rfl rfl rfl rfl rfl

theorem enter (entry : Entry κ) :
    Inert part e (Engine.enter entry : Engine κ ε Unit) (Engine.enter entry) :=
  .modify fun _ hw => .of_eq hw rfl rfl rfl rfl rfl

/-- An exchange may be changed through its own handles. -/
theorem modifyExchange (f : Exchange → Exchange) :
    Inert part e (Engine.modifyExchange e f : Engine κ ε Unit) (Engine.modifyExchange e f) :=
  .modify fun w hw => ⟨⟨rfl, fun _ hg => exchange_modifyExchange_of_ne w hg f⟩, rfl,
    hw.of_eq rfl rfl⟩

/-- What a computation comes to that is inert. -/
theorem untouched {m m' : Engine κ ε α} (h : Inert part e m m') {w : World κ ε}
    (hw : w.Stale part e) : m w = m' w ∧ w.Untouched e (m w).2 := by
  obtain ⟨hsame, hspared⟩ := h w hw
  exact ⟨hsame, hspared.toUntouched⟩

end Inert

/-! ## Surroundings -/

/-- Two surroundings in which what is part of an operation does the same, and has no part in the
engine but for one exchange. All other code is left open. -/
structure Host.Twin (part : Part κ) (e : ExchangeRef) (host host' : Host κ ε) : Prop where
  run : ∀ code, part.code code → ∀ signal,
    Aloof part e (host.run code signal) (host'.run code signal)
  handle : part.handler → Aloof part e (host.handle e) (host'.handle e)
  render : part.renderer → ∀ request page fields,
    Aloof part e (host.render request page fields) (host'.render request page fields)
  succeeded : ∀ ref, part.streams ref →
    Aloof part e (host.transport.succeeded ref) (host'.transport.succeeded ref)
  failed : ∀ ref, part.streams ref → ∀ cause,
    Aloof part e (host.transport.failed ref cause) (host'.transport.failed ref cause)
  observe : ∀ ref, part.streams ref → ∀ call ∈ [StreamCall.succeeded, .failed],
    Aloof part e (host.observe ref call) (host'.observe ref call)
  patience : host.patience = host'.patience

/-- Two surroundings of this kind do deferred jobs as the engine says, with the help of others of this
kind, or cut them off. No code of the part panics in the queue. -/
structure Host.Bystanders (part : Part κ) (e : ExchangeRef) (host host' : Host κ ε) :
    Prop extends host.Twin part e host' where
  perform : (∀ job, host.perform job = Effect.halt ∧ host'.perform job = Effect.halt) ∨
    ∃ inner inner' : Host κ ε, inner.Twin part e inner' ∧
      (∀ code, part.code code → ∀ signal w p, (inner.run code signal w).1 ≠ .panicked p) ∧
      ∀ job, host.perform job = job.perform inner ∧ host'.perform job = job.perform inner'

/-- What may be told may have its inner stream told. -/
theorem Part.Holds.inner {part : Part κ} {stream inner : Stream} {ref : StreamRef}
    (h : part.Holds stream) (hrefs : stream.refs = ref :: inner.refs)
    (hslots : inner.slots ⊆ stream.slots) : part.Holds inner where
  streams other hother := h.streams other (by rw [hrefs]; exact List.mem_cons_of_mem _ hother)
  slots slot hslot := h.slots slot (hslots hslot)

namespace Host.Twin

variable {host host' : Host κ ε} {part : Part κ} {e : ExchangeRef}

/-- Whoever waits for a promise of the part is woken. -/
theorem settle (hh : host.Twin part e host') {p : PromiseRef} (hp : part.promises p)
    (state : PromiseState) : Aloof part e (p.settle host state) (p.settle host' state) := by
  refine .bind_gets fun w hw => .bind (.modify fun w' hw' => ?_) fun _ => ?_
  · refine ⟨?_, ?_, hw'.tell p state⟩ <;> unfold World.tell <;> split
    · exact .same rfl rfl
    · exact .refl e w'
    · rfl
    · rfl
  · cases hwaker : (w.promises[p.index]?).bind (·.waker) with
    | none => exact .pure ()
    | some waker => exact hh.run waker (hw.wakers p hp waker hwaker) .ready

/-- A callback of the part is told. -/
theorem complete (hh : host.Twin part e host') {callback : Callback κ}
    (hcallback : part.Tells callback) (result : Result) :
    Aloof part e (callback.complete host result) (callback.complete host' result) := by
  cases callback with
  | code run => exact hh.run run hcallback _
  | promise p => exact hh.settle hcallback _
  | ignore => exact .pure ()

/-- The listener in a slot of the part is told. -/
theorem notify (hh : host.Twin part e host') {slot : SlotRef} (hslot : part.slots slot)
    (result : Result) : Aloof part e (slot.notify host result) (slot.notify host' result) := by
  intro w hw
  have hvacated := hw.vacate slot
  have hapart : w.Apart part e (w.vacate slot) := ⟨.same rfl rfl, rfl, hvacated⟩
  cases hwaits : w.listener? slot with
  | none =>
    rw [SlotRef.notify_of_none hwaits, SlotRef.notify_of_none hwaits]
    exact ⟨rfl, hapart⟩
  | some listener =>
    have htold := (hh.complete (hw.listeners slot hslot listener hwaits) result).attempt
    rw [SlotRef.notify_of_some hwaits, SlotRef.notify_of_some hwaits]
    obtain ⟨hsame, hafter⟩ := htold.bind (fun _ => .pure ()) (w.vacate slot) hvacated
    exact ⟨hsame, (Chains.apart part e).trans _ _ _ hapart hafter⟩

/-- A stream of the part is told that its exchange succeeded. -/
theorem streamSucceeded (hh : host.Twin part e host') {stream : Stream}
    (hstream : part.Holds stream) :
    Aloof part e (stream.succeeded host) (stream.succeeded host') := by
  induction stream with
  | transport ref => exact hh.succeeded ref (hstream.streams ref List.mem_cons_self)
  | listening ref slot inner ih =>
    have hinner : part.Holds inner := hstream.inner rfl (List.subset_cons_self _ _)
    exact .bind (hh.notify (hstream.slots slot List.mem_cons_self) _) fun _ => ih hinner
  | decorated ref reported inner ih =>
    have hinner : part.Holds inner := hstream.inner rfl (List.Subset.refl _)
    have hobserve := hh.observe ref (hstream.streams ref List.mem_cons_self) .succeeded (by simp)
    exact .bind hobserve fun _ => ih hinner

/-- A stream of the part is told that its exchange failed. -/
theorem streamFailed (hh : host.Twin part e host') {stream : Stream}
    (hstream : part.Holds stream) (cause : FailureRef) :
    Aloof part e (stream.failed host cause) (stream.failed host' cause) := by
  induction stream with
  | transport ref => exact hh.failed ref (hstream.streams ref List.mem_cons_self) cause
  | listening ref slot inner ih =>
    have hinner : part.Holds inner := hstream.inner rfl (List.subset_cons_self _ _)
    exact .bind (hh.notify (hstream.slots slot List.mem_cons_self) _) fun _ => ih hinner
  | decorated ref reported inner ih =>
    have hinner : part.Holds inner := hstream.inner rfl (List.Subset.refl _)
    have hobserve := hh.observe ref (hstream.streams ref List.mem_cons_self) .failed (by simp)
    exact .bind hobserve fun _ => ih hinner

end Host.Twin

/-! ## Jobs that tell somebody something -/

/-- Telling a callback panics only if the code panics that is told. -/
theorem Callback.calm_complete {host : Host κ ε} {part : Part κ}
    (hcalm : ∀ code, part.code code → ∀ signal w p, (host.run code signal w).1 ≠ .panicked p)
    {callback : Callback κ} (hcallback : part.Tells callback) (result : Result) {w : World κ ε}
    (hw : w.Waits part) (p : Panic) : (callback.complete host result w).1 ≠ .panicked p := by
  cases callback with
  | code run => exact hcalm run hcallback _ w p
  | promise q =>
    show (q.awaken host w (w.tell q (.resolved result))).1 ≠ .panicked p
    unfold PromiseRef.awaken
    cases hwaker : (w.promises[q.index]?).bind (·.waker) with
    | none =>
      intro hpanicked
      cases hpanicked
    | some waker => exact hcalm waker (hw.wakers q hcallback waker hwaker) .ready _ p
  | ignore =>
    intro hpanicked
    cases hpanicked

namespace Host.Bystanders

variable {host host' : Host κ ε} {part : Part κ} {e : ExchangeRef}

/-- A job of the part is the same in both surroundings, and does not panic. -/
theorem perform_part (hh : host.Bystanders part e host') {job : Job κ} (hjob : part.Does job) :
    Aloof part e (host.perform job) (host'.perform job) ∧
      ∀ w : World κ ε, w.Waits part → ∀ p, (host.perform job w).1 ≠ .panicked p := by
  rcases hh.perform with hcut | ⟨inner, inner', htwin, hcalm, hperform⟩
  · obtain ⟨hhost, hhost'⟩ := hcut job
    rw [hhost, hhost']
    exact ⟨fun w hw => ⟨rfl, .refl e w, rfl, hw⟩, fun _ _ _ => nofun⟩
  · obtain ⟨hhost, hhost'⟩ := hperform job
    rw [hhost, hhost']
    cases job with
    | code run signal =>
      exact ⟨htwin.run run hjob signal, fun w _ p => hcalm run hjob signal w p⟩
    | complete callback result =>
      exact ⟨htwin.complete hjob result, fun w hw => callback.calm_complete hcalm hjob result hw⟩
    | errorListener g run cause =>
      exact ⟨htwin.run run hjob _, fun w _ p => hcalm run hjob _ w p⟩
    | wakeBody | closeListener | abort | fail | dispatch | drain => exact hjob.elim

end Host.Bystanders

/-! ## A task of one's own -/

namespace Queue

variable {host host' : Host κ ε} {part : Part κ} {e : ExchangeRef}

/-- Working off a queue that is found empty does no task. -/
theorem inert_drainWithin_nil (rounds : Nat) {w : World κ ε} (hw : w.Waits part)
    (htasks : w.channelQueue.tasks = []) (hdraining : w.channelQueue.draining = true) :
    drainWithin host .channel rounds w = drainWithin host' .channel rounds w ∧
      w.Spared part e (drainWithin host .channel rounds w).2 := by
  cases rounds with
  | zero =>
    refine ⟨rfl, .refl e w, fun h => ?_, hw⟩
    cases hdraining.symm.trans h
  | succ rounds =>
    have hnext : Engine.nextTask .channel w = (.done none, w.setQueue .channel .idle) :=
      Engine.nextTask_of_nil htasks
    unfold drainWithin
    rw [Effect.bind_of_done hnext, Effect.bind_of_done hnext]
    exact ⟨rfl, .same rfl rfl, .idle, hw.of_eq rfl rfl⟩

/-- Working off a queue with one task, which only tells somebody something. -/
theorem inert_drainWithin_one (hh : host.Bystanders part e host') {task : Task κ}
    (hjob : part.Does task.job) (rounds : Nat) {w : World κ ε} (hw : w.Waits part)
    (hqueue : w.channelQueue = ⟨[task], true⟩) :
    drainWithin host .channel rounds w = drainWithin host' .channel rounds w ∧
      w.Spared part e (drainWithin host .channel rounds w).2 := by
  cases rounds with
  | zero =>
    refine ⟨rfl, .refl e w, ?_, hw⟩
    show w.channelQueue.Settled
    rw [hqueue]
    exact nofun
  | succ rounds =>
    obtain ⟨haloof, hcalm⟩ := hh.perform_part hjob
    -- the task is taken, and the queue is empty while it is done
    obtain ⟨w₁, hnext, hempty, htaken, hw₁⟩ : ∃ w₁ : World κ ε,
        Engine.nextTask .channel w = (.done (some task), w₁) ∧
          w₁.channelQueue = ⟨[], true⟩ ∧ w.Untouched e w₁ ∧ w₁.Waits part :=
      ⟨_, Engine.nextTask_of_cons (congrArg Queue.tasks hqueue),
        congrArg (Queue.mk []) (congrArg Queue.draining hqueue), .same rfl rfl, hw.of_eq rfl rfl⟩
    obtain ⟨hsame, hapart⟩ := haloof w₁ hw₁
    have hleft : (host.perform task.job w₁).2.channelQueue = ⟨[], true⟩ := hapart.queue.trans hempty
    unfold drainWithin
    rw [Effect.bind_of_done hnext, Effect.bind_of_done hnext]
    dsimp only
    rw [Effect.bind_run, Effect.bind_run]
    unfold Effect.attempt
    rw [← hsame]
    have hnot := hcalm w₁ hw₁
    rcases hrun : host.perform task.job w₁ with ⟨_ | p | _, w₂⟩
    · rw [hrun] at hleft hapart
      have hrest : drainWithin host .channel rounds w₂ = drainWithin host' .channel rounds w₂ ∧
          w₂.Spared part e (drainWithin host .channel rounds w₂).2 :=
        inert_drainWithin_nil rounds hapart.waits (congrArg Queue.tasks hleft)
          (congrArg Queue.draining hleft)
      obtain ⟨hagree, hspared⟩ := hrest
      exact ⟨hagree, (htaken.trans hapart.toUntouched).trans hspared.toUntouched, hspared.settled,
        hspared.waits⟩
    · rw [hrun] at hnot
      exact absurd rfl (hnot p)
    · rw [hrun] at hleft hapart
      refine ⟨rfl, htaken.trans hapart.toUntouched, ?_, hapart.waits⟩
      show w₂.channelQueue.Settled
      rw [hleft]
      exact nofun

/-- Having a task done that only tells somebody something. If nobody works the queue off, it is the
only one. -/
theorem inert_run (hh : host.Bystanders part e host') {task : Task κ}
    (hjob : part.Does task.job) :
    Inert part e (Queue.run host .channel task) (Queue.run host' .channel task) := by
  intro w hw
  cases hd : w.channelQueue.draining with
  | true =>
    have hoffer : w.channelQueue.offer [task] = (false, ⟨w.channelQueue.tasks ++ [task], true⟩) :=
      offer_of_draining hd [task]
    simp only [Queue.run, Effect.bind_run, Engine.offer, Effect.modifyGet, queue, hoffer]
    exact ⟨rfl, .same rfl rfl, (fun hsettled => by cases hsettled), hw.waits.of_eq rfl rfl⟩
  | false =>
    have hoffer : w.channelQueue.offer [task] = (true, ⟨[task], true⟩) := by
      simp [Queue.offer, hw.settled hd, hd]
    simp only [Queue.run, Effect.bind_run, Engine.offer, Effect.modifyGet, queue, hoffer]
    obtain ⟨hagree, hspared⟩ := inert_drainWithin_one hh hjob host.patience
      (w := (w.setQueue .channel ⟨[task], true⟩).note (.offered .channel [task]))
      (hw.waits.of_eq rfl rfl) rfl
    have hoffered : w.Untouched e
        ((w.setQueue .channel ⟨[task], true⟩).note (.offered .channel [task])) := .same rfl rfl
    refine ⟨?_, hoffered.trans hspared.toUntouched, hspared.settled, hspared.waits⟩
    show drainWithin host .channel host.patience _ = drainWithin host' .channel host'.patience _
    rw [← hh.patience]
    exact hagree

end Queue

end HttpExchange
