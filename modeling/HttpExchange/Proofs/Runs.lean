import HttpExchange.Proofs.Compositional
import HttpExchange.Proofs.Course

/-!
# Calls of the engine as sequences of steps

`Runs m` says that a computation changes the state by steps of the engine only, and ends no
exchange but one that was open when it began. Every call that a lawful host answers is of this
kind, and so is every operation that uses such a host. This module has the operations that need
little of the state; `Proofs.Writing` and `Proofs.Ending` have the others. Calls of callbacks and
streams are left to `Runs.compositional`.

An operation is a sequence of changes with calls of the surroundings between them. What the
surroundings do in a call is a sequence of steps, by assumption. The changes in front of it have to
make up a step as well, or the surroundings would be called in a state that no step leads to. So a
lemma about an operation follows its text and shows for each stretch up to the next call which step
it is. Reading the state is no change and is skipped (`Runs.gets`).

The bound on what may be ended is what makes this work for nested calls: whatever was ended before a
call began stays out of its reach, so the call that ended it can rely on that.
-/

namespace HttpExchange

variable {κ ε α β : Type}

open World

/-- One state leads to another by steps that end no exchange but those that are open in the
first. -/
abbrev World.Leads (w w' : World κ ε) : Prop := Course w.Open w w'

/-- A computation that goes by steps of the engine. -/
def Runs (m : Engine κ ε α) : Prop := ∀ w : World κ ε, w.Sound → w.Leads (m w).2

/-- Whatever the surroundings do when they are called goes by steps of the engine. -/
structure Host.Lawful (host : Host κ ε) : Prop where
  answers : host.Answers fun _ m => Runs m
  perform : ∀ job, Runs (host.perform job)

namespace World

variable {w w₁ w' : World κ ε} {A : ExchangeRef → Prop}

/-- A change that has no part in the exchanges is a step. -/
theorem Beside.step (h : w.Beside w') : Step A w w' := by
  obtain ⟨⟨slots, promises, bodies, streamCount, outside, rfl⟩, hpromises, hsize⟩ := h
  exact .aside _ _ _ _ _ hpromises hsize

/-- A computation after some steps that are not narrower than those of the computation. -/
theorem Course.run {m : Engine κ ε α} (h : Course A w w₁) (hs : w.Sound)
    (hA : ∀ e, w.Open e → A e) (hm : Runs m) : Course A w (m w₁).2 :=
  h.trans ((hm w₁ (Course.sound h hs)).mono fun _ ho => hA _ (Course.open_anti h hs ho))

/-- What runs from a state that is led to leads on. -/
theorem Leads.run {m : Engine κ ε α} (h : w.Leads w₁) (hs : w.Sound) (hm : Runs m) :
    w.Leads (m w₁).2 := Course.run h hs (fun _ ho => ho) hm

theorem Leads.trans (h : w.Leads w₁) (hs : w.Sound) (h' : w₁.Leads w') : w.Leads w' :=
  Relation.ReflTransGen.trans h (h'.mono fun _ ho => Course.open_anti h hs ho)

/-- A computation that begins with one that is done. -/
theorem Course.bind_done {m : Engine κ ε α} {f : α → Engine κ ε β} {a : α} {w₂ : World κ ε}
    (hm : m w₁ = (.done a, w₂)) (h : Course A w (f a w₂).2) : Course A w ((m >>= f) w₁).2 := by
  rw [Effect.bind_run, hm]
  exact h

/-- A computation that begins with a call of the surroundings. -/
theorem Course.bind_runs {m : Engine κ ε α} {f : α → Engine κ ε β} (h : Course A w w₁)
    (hs : w.Sound) (hA : ∀ e, w.Open e → A e) (hm : Runs m)
    (hf : ∀ a, m w₁ = (.done a, (m w₁).2) → Course A w (f a (m w₁).2).2) :
    Course A w ((m >>= f) w₁).2 := by
  have hrun := Course.run h hs hA hm
  rw [Effect.bind_run]
  rcases hmw : m w₁ with ⟨a | _ | _, w₂⟩
  · rw [hmw] at hf
    exact hf a rfl
  · rw [hmw] at hrun
    exact hrun
  · rw [hmw] at hrun
    exact hrun

/-- What is given in the end makes no difference. -/
theorem Course.bind_pure {m : Engine κ ε α} {b : β} (h : Course A w (m w₁).2) :
    Course A w ((m >>= fun _ => pure b) w₁).2 := by
  rw [Effect.bind_run]
  rcases hmw : m w₁ with ⟨_ | _ | _, w₂⟩ <;> rw [hmw] at h <;> exact h

/-- One state leads to another, and the first step enters somebody who waits. -/
def TakesIn (w : World κ ε) (entry : Entry κ) (w' : World κ ε) : Prop :=
  ∃ w₁, Step w.Open w w₁ ∧ entry :: w.ledger <:+ w₁.ledger ∧ w₁.Leads w'

namespace TakesIn

variable {entry : Entry κ}

/-- Taking something in leads on. -/
theorem leads (h : w.TakesIn entry w') (hs : w.Sound) : w.Leads w' := by
  obtain ⟨w₁, hstep, -, hleads⟩ := h
  exact Leads.trans (.single hstep) hs hleads

/-- What comes before the entry only has to come back. -/
theorem bind_done {m : Engine κ ε α} {f : α → Engine κ ε β} {a : α} {w₂ : World κ ε}
    (hm : m w₁ = (.done a, w₂)) (h : w.TakesIn entry (f a w₂).2) :
    w.TakesIn entry ((m >>= f) w₁).2 := by
  rw [Effect.bind_run, hm]
  exact h

theorem bind_pure {m : Engine κ ε α} {b : β} (h : w.TakesIn entry (m w₁).2) :
    w.TakesIn entry ((m >>= fun _ => pure b) w₁).2 := by
  obtain ⟨w₂, hstep, hentry, hleads⟩ := h
  exact ⟨w₂, hstep, hentry, hleads.bind_pure⟩

end TakesIn

end World

namespace Runs

/-! ## Computations -/

theorem pure (a : α) : Runs (pure a : Engine κ ε α) := fun _ _ => .refl

theorem panic (p : Panic) : Runs (Effect.panic p : Engine κ ε α) := fun _ _ => .refl

theorem halt : Runs (Effect.halt : Engine κ ε α) := fun _ _ => .refl

theorem get : Runs (Effect.get : Engine κ ε (World κ ε)) := fun _ _ => .refl

theorem gets (f : World κ ε → α) : Runs (Effect.gets f) := fun _ _ => .refl

/-- A change that is a step from every sound state. -/
theorem modify {f : World κ ε → World κ ε} (h : ∀ w, w.Sound → Step w.Open w (f w)) :
    Runs (Effect.modify f) := fun w hs => .single (h w hs)

theorem modifyGet {f : World κ ε → α × World κ ε} (h : ∀ w, w.Sound → Step w.Open w (f w).2) :
    Runs (Effect.modifyGet f) := fun w hs => .single (h w hs)

/-- One run goes on where the other one ended. -/
theorem bind {m : Engine κ ε α} {f : α → Engine κ ε β} (hm : Runs m) (hf : ∀ a, Runs (f a)) :
    Runs (m >>= f) := by
  intro w hs
  have h := hm w hs
  rw [Effect.bind_run]
  -- after a panic or a halt the rest is not run
  rcases hmw : m w with ⟨_ | _ | _, w₁⟩
  · rw [hmw] at h
    exact Leads.run h hs (hf _)
  · rw [hmw] at h
    exact h
  · rw [hmw] at h
    exact h

/-- Catching a panic is no step. -/
theorem attempt {m : Engine κ ε α} (hm : Runs m) : Runs (Effect.attempt m) := by
  intro w hs
  rw [Effect.snd_attempt]
  exact hm w hs

/-- A new failure is a step that is about no exchange. -/
theorem newFailure (error : ExchangeError) :
    Runs (Engine.newFailure error : Engine κ ε FailureRef) :=
  .modifyGet fun _ _ => .addFailure error

theorem panicFailure (p : Panic) : Runs (Engine.panicFailure p : Engine κ ε FailureRef) :=
  .newFailure _

theorem suppress (f other : FailureRef) : Runs (Engine.suppress f other : Engine κ ε Unit) :=
  .modify fun _ _ => .suppress f other

/-- Whatever is made of runs is one. -/
theorem compositional : Compositional (P := fun _ (m : Engine κ ε _) => Runs m) where
  pure := Runs.pure
  bind := Runs.bind
  attempt := Runs.attempt
  gets := Runs.gets
  aside h _ := .modifyGet fun w _ => (h w).step
  tell p state := .modify fun _ _ => .tell p state

/-- A computation that changes only what has no part in the exchanges. -/
theorem aside {f : World κ ε → World κ ε} (h : ∀ w : World κ ε, w.Beside (f w)) :
    Runs (Effect.modify f) := .modify fun w _ => (h w).step

end Runs

variable {host : Host κ ε}

/-! ## Promises and slots -/

/-- Promises are aside from what steps are about. -/
theorem PromiseRef.runs_new : Runs (PromiseRef.new : Engine κ ε PromiseRef) :=
  .modifyGet fun w _ => w.beside_newPromise.step

theorem PromiseRef.runs_poll (p : PromiseRef) (waker : κ) :
    Runs (p.poll waker : Engine κ ε (Option Result)) := by
  refine .bind (.gets _) fun promise => ?_
  split
  · exact .bind (.aside fun w => w.beside_modifyWaker p _) fun _ => .pure _
  · exact .pure _
  · exact .bind (.newFailure _) fun _ => .pure _

theorem PromiseRef.runs_forget (p : PromiseRef) : Runs (p.forget : Engine κ ε Unit) :=
  .aside fun w => w.beside_modifyWaker p none

theorem SlotRef.runs_new (listener : Callback κ) :
    Runs (SlotRef.new listener : Engine κ ε SlotRef) :=
  Runs.compositional.aside (fun _ => .of_promises rfl ⟨_, _, _, _, rfl⟩) fun _ => rfl

theorem Stream.runs_newStream : Runs (Engine.newStream : Engine κ ε StreamRef) :=
  Runs.compositional.aside (fun _ => .of_promises rfl ⟨_, _, _, _, rfl⟩) fun _ => rfl

/-- A listening wrapper is aside from what steps are about. -/
theorem Stream.runs_listen (stream : Stream) (slot : SlotRef) :
    Runs (stream.listen slot : Engine κ ε Stream) :=
  .bind runs_newStream fun _ => .pure _

/-! ## Queues -/

/-- Only the queue that stands alone takes offers of its own. -/
theorem Engine.runs_offer (tasks : List (Task κ)) :
    Runs (Engine.offer .standalone tasks : Engine κ ε (Option (Task κ))) :=
  .modifyGet fun _ _ => .offer tasks

/-- Starting a task is one step. -/
theorem Engine.runs_nextTask (name : QueueName) :
    Runs (Engine.nextTask name : Engine κ ε (Option (Task κ))) := by
  intro w _
  exact .single (.next name)

namespace Channel

/-- The listeners are taken, and offered in one go. -/
theorem onClose_run (cause : Option FailureRef) (w : World κ ε) :
    onClose cause w =
      (.done (if (w.channelQueue.offer (w.channel.closing cause)).1 then some (.drain .channel)
        else none),
        (w.modifyChannel fun c => { c with closeListeners := [] }).offer .channel
          (w.channel.closing cause)) := rfl

theorem runs_onClose (cause : Option FailureRef) :
    Runs (onClose cause : Engine κ ε (Option (Task κ))) :=
  fun _ _ => .single (.close cause)

/-- A task that failed adds to the stored failure, or closes the connection. -/
theorem runs_taskFailed (hh : host.Lawful) (failure : FailureRef) :
    Runs (taskFailed host failure) := by
  refine .bind (.gets _) fun stored => ?_
  cases stored with
  | some stored => exact .suppress stored failure
  | none =>
    refine .bind (runs_onClose _) fun task => ?_
    cases task with
    | some task => exact hh.perform task.job
    | none => exact .pure ()

end Channel

namespace Queue

/-- A task that failed is reported, to the channel or to the hook. -/
theorem runs_report (hh : host.Lawful) (name : QueueName) (task : String) (failure : FailureRef) :
    Runs (report host name task failure) := by
  cases name with
  | channel => exact Channel.runs_taskFailed hh failure
  | standalone => exact hh.answers.taskFailed task failure

/-- Every round starts a task, does its job, and goes on. -/
theorem runs_drainWithin (hh : host.Lawful) (name : QueueName) (rounds : Nat) :
    Runs (drainWithin host name rounds) := by
  induction rounds with
  | zero => exact .halt
  | succ rounds ih =>
    refine .bind (Engine.runs_nextTask name) fun task => ?_
    cases task with
    | none => exact .pure ()
    | some task =>
      refine .bind (.attempt (hh.perform task.job)) fun ended => ?_
      cases ended with
      | ok _ => exact ih
      | error p =>
        refine .bind (.panicFailure p) fun failure => ?_
        exact .bind (runs_report hh name task.name failure) fun _ => ih

theorem runs_drain (hh : host.Lawful) (name : QueueName) : Runs (drain host name) :=
  runs_drainWithin hh name _

/-- While somebody works the queue off, having a task done is offering it. -/
theorem run_of_draining {name : QueueName} {w : World κ ε} (h : (w.queue name).draining = true)
    (task : Task κ) : Queue.run host name task w = (.done (), w.offer name [task]) := by
  have hd : ((w.queue name).offer [task]).1 = false :=
    congrArg Prod.fst (Queue.offer_of_draining h [task])
  simp only [Queue.run, Effect.bind_run, Engine.offer, Effect.modifyGet, hd]
  rfl

/-- If nobody does, the queue is worked off after that. -/
theorem run_of_idle {name : QueueName} {w : World κ ε} (h : (w.queue name).draining = false)
    (task : Task κ) : Queue.run host name task w = drain host name (w.offer name [task]) := by
  have hd : ((w.queue name).offer [task]).1 = true :=
    (Queue.fst_offer_iff _ _).2 ⟨List.cons_ne_nil task [], h⟩
  simp only [Queue.run, Effect.bind_run, Engine.offer, Effect.modifyGet, hd]
  rfl

/-- Once its task is in the queue, having a task done is working the queue off, or nothing. -/
theorem run_eq (hh : host.Lawful) (name : QueueName) (task : Task κ) (w : World κ ε) :
    ∃ m : Engine κ ε Unit, Runs m ∧ Queue.run host name task w = m (w.offer name [task]) := by
  cases hd : (w.queue name).draining with
  | true => exact ⟨Pure.pure (), .pure (), run_of_draining hd task⟩
  | false => exact ⟨drain host name, runs_drain hh name, run_of_idle hd task⟩

/-- Having a task done is offering it, and then working the queue off or nothing. -/
theorem course_run {A : ExchangeRef → Prop} (hh : host.Lawful) {w w₁ : World κ ε}
    (hs : w.Sound) (hA : ∀ e, w.Open e → A e) {name : QueueName} {task : Task κ}
    (h : Course A w (w₁.offer name [task])) : Course A w (Queue.run host name task w₁).2 := by
  obtain ⟨m, hm, hrun⟩ := Queue.run_eq hh name task w₁
  rw [hrun]
  exact Course.run h hs hA hm

/-- Having a task done whose offer enters somebody. -/
theorem takesIn_run (hh : host.Lawful) {w w₁ : World κ ε} (hs : w.Sound) {entry : Entry κ}
    {name : QueueName} {task : Task κ} (hstep : Step w.Open w (w₁.offer name [task]))
    (hentry : w₁.ledger = entry :: w.ledger) : w.TakesIn entry (Queue.run host name task w₁).2 := by
  have hledger : (w₁.offer name [task]).ledger = entry :: w.ledger :=
    (ledger_offer name [task]).trans hentry
  exact ⟨_, hstep, ⟨[], hledger.symm⟩, course_run hh (hstep.sound hs) (fun _ h => h) .refl⟩

theorem runs_run (hh : host.Lawful) (task : Task κ) :
    Runs (Queue.run host .standalone task) := by
  intro w hs
  exact course_run hh hs (fun _ h => h) (.single (.offer [task]))

end Queue

/-! ## Events of a connection -/

namespace Channel

/-- A stream is attached if there is none. -/
theorem runs_setStream (stream : Stream) :
    Runs (setStream stream : Engine κ ε (Except ExchangeError Unit)) := by
  intro w _
  cases hstream : w.channel.stream with
  | some current =>
    simp only [setStream, Effect.bind_run, Effect.gets, hstream]
    exact .refl
  | none =>
    simp only [setStream, Effect.bind_run, Effect.gets, hstream]
    exact .single (.attach stream hstream)

/-- A request becomes the active exchange, if there is a stream and no other exchange. -/
theorem runs_onRequest (host : Host κ ε) (request : RequestHead) :
    Runs (onRequest host request) := by
  intro w hs
  simp only [onRequest, Effect.bind_run, Effect.get]
  cases hstream : w.channel.stream with
  | none => exact .refl
  | some stream =>
    cases hactive : w.channel.active with
    | some active =>
      simp only [Option.isSome_some, if_true]
      exact .refl
    | none =>
      simp only [Option.isSome_none, Bool.false_eq_true, if_false]
      have hstep : Step w.Open w (Engine.activate host stream request w).2 :=
        .activate _ request _ (by rw [hstream]; rfl) hactive
      refine Course.bind_done rfl ?_
      refine Course.bind_done rfl ?_
      have hcount := Relation.ReflTransGen.tail (Relation.ReflTransGen.single hstep) .count
      cases w.channel.config.compliance.validate request with
      | none => exact hcount
      | some fault => exact Relation.ReflTransGen.tail hcount (.addFailure _)

/-- The demand that waits is offered as a task. -/
theorem runs_onContentAvailable :
    Runs (onContentAvailable : Engine κ ε (Option (Task κ))) :=
  fun _ _ => .single .contentAvailable

theorem runs_addCloseListener (listener : κ) :
    Runs (addCloseListener listener : Engine κ ε Unit) :=
  .modify fun _ _ => .listen listener

/-- Storing a failure, and counting the exchange as processing, is one change. -/
theorem storeFailure_run (active : Active κ) (cause : FailureRef) (w : World κ ε) :
    storeFailure active cause w =
      (.done (), (w.modifyExchange active.exchange fun x =>
        { x with
          failure := x.failure.or (some cause),
          phase := if active.processing then x.phase else .processing }).modifyActive fun a =>
        { a with
          error := some cause, processing := true, demand := none, write := none,
          errorListeners := [] }) := by
  cases hp : active.processing with
  | true =>
    simp only [storeFailure, hp]
    rfl
  | false =>
    simp only [storeFailure, hp]
    show (_, World.modifyActive
      ((w.modifyExchange active.exchange _).modifyExchange active.exchange _) _) = _
    rw [modifyExchange_modifyExchange]
    rfl

/-- The first failure of an active exchange is stored and delivered. Who reports it works the queue
off, unless somebody does. -/
theorem failActive_of_unfailed {active : Active κ} (herror : active.error = none)
    (cause : FailureRef) (w : World κ ε) :
    failActive active cause w =
      (.done (if w.channelQueue.draining then none else some (.drain .channel)),
        w.storeFailure active cause) := by
  have htasks : (deliveries active cause).isEmpty = false := by simp [deliveries]
  unfold failActive
  simp only [herror, Effect.bind_run, storeFailure_run, Engine.offer, Effect.modifyGet, queue,
    Queue.offer, htasks]
  cases hd : w.channelQueue.draining <;>
    simp [World.storeFailure, World.offer, queue, Queue.offer, htasks, modifyActive, modifyChannel,
      modifyExchange, hd]

/-- The first failure is stored and delivered, a later one suppressed. -/
theorem leads_failActive {active : Active κ} (cause : FailureRef) {w : World κ ε}
    (hstream : w.channel.stream.isSome = true) (hactive : w.channel.active = some active) :
    w.Leads (failActive active cause w).2 := by
  cases herror : active.error with
  | some stored =>
    unfold failActive
    rw [herror]
    exact .single (.suppress stored cause)
  | none =>
    rw [failActive_of_unfailed herror]
    exact .single (.storeFailure cause hstream hactive herror)

/-- An error fails the active exchange, or one that is made up for it. -/
theorem runs_onError (host : Host κ ε) (cause : FailureRef) : Runs (onError host cause) := by
  intro w hs
  simp only [onError, Effect.bind_run, Effect.get]
  cases hstream : w.channel.stream with
  | none => exact .refl
  | some stream =>
    cases hactive : w.channel.active with
    | some active => exact leads_failActive cause (by rw [hstream]; rfl) hactive
    | none =>
      have hstep : Step w.Open w (Engine.activate host stream .bare w).2 :=
        .activate _ .bare _ (by rw [hstream]; rfl) hactive
      refine Course.bind_done rfl ?_
      refine Leads.trans (.single hstep) hs (leads_failActive cause ?_ rfl)
      show w.channel.stream.isSome = true
      rw [hstream]
      rfl

/-- Every round runs the code of the application, and the last one replaces the stream. -/
theorem runs_wrapStreamWithin {transform : Stream → Engine κ ε Stream}
    (ht : ∀ stream, Runs (transform stream)) (rounds : Nat) :
    Runs (wrapStreamWithin transform rounds) := by
  induction rounds with
  | zero => exact .halt
  | succ rounds ih =>
    refine .bind (.gets _) fun before => ?_
    cases before with
    | none => exact .pure _
    | some current =>
      -- the stream may have been wrapped meanwhile, and then it is tried again
      refine .bind (ht current) fun wrapper w hs => ?_
      by_cases hwraps : wrapper.wrapped? = some current
      · rw [if_neg (not_not_intro hwraps)]
        refine Course.bind_done rfl ?_
        dsimp only
        cases hstream : w.channel.stream with
        | none => exact .refl
        | some active =>
          dsimp only
          by_cases hsame : active = current
          · rw [if_pos hsame]
            exact .single (.wrap wrapper (hsame ▸ hstream) hwraps)
          · rw [if_neg hsame]
            exact ih w hs
      · rw [if_pos hwraps]
        exact .refl

theorem runs_wrapStream (host : Host κ ε) {transform : Stream → Engine κ ε Stream}
    (ht : ∀ stream, Runs (transform stream)) : Runs (wrapStream host transform) :=
  runs_wrapStreamWithin ht _

end Channel

/-! ## The request side -/

namespace ExchangeRef

/-- Content is read from the stream; without one, the failure is given. -/
theorem runs_readContent (hh : host.Lawful) (e : ExchangeRef) : Runs (e.readContent host) := by
  refine .bind (.gets _) fun active => ?_
  split
  next =>
    refine .bind (.gets _) fun x => ?_
    split
    · exact .pure _
    · exact .bind (.newFailure _) fun _ => .pure _
  next active =>
    split
    · exact .pure _
    · split
      · exact .bind (.newFailure _) fun _ => .pure _
      · refine .bind (.gets _) fun stream => ?_
        cases stream with
        | none => exact .pure _
        | some stream => exact Runs.compositional.read hh.answers stream

/-- A demand is refused with nothing changed, registered with the active exchange before the stream
is asked, or answered at once. -/
theorem demandContent_forms (e : ExchangeRef) (job : Job κ) (w : World κ ε) :
    (∃ why, ∀ host : Host κ ε, e.demandContent host job w = (.done (.error why), w)) ∨
    (∃ active, w.activeFor? e = some active ∧ active.error = none ∧ active.processing = true ∧
      active.demand = none ∧ ∀ host : Host κ ε, e.demandContent host job w =
        ((match w.channel.stream with
          | some stream => stream.demand host
          | none => pure ()) >>= fun _ => pure (.ok ()) : Engine κ ε (Except ExchangeError Unit))
          ((w.enter (.demanded e job)).modifyActive fun a => { a with demand := some job })) ∨
    ∀ host : Host κ ε, e.demandContent host job w =
      (Queue.run host .channel ⟨"demand", job⟩ >>= fun _ => pure (.ok ()) :
        Engine κ ε (Except ExchangeError Unit)) (w.enter (.demanded e job)) := by
  cases ha : w.activeFor? e with
  | none =>
    simp only [demandContent, Effect.bind_run, Effect.gets, Engine.activeFor?, Engine.exchange, ha]
    split
    · exact .inl ⟨.completed, fun _ => rfl⟩
    · exact .inr (.inr fun _ => rfl)
  | some active =>
    simp only [demandContent, Effect.bind_run, Effect.gets, Engine.activeFor?, ha]
    split
    next hwaits =>
      rw [Bool.and_eq_true, Option.isNone_iff_eq_none] at hwaits
      obtain ⟨herror, hprocessing⟩ := hwaits
      split
      · exact .inl ⟨.secondDemand, fun _ => rfl⟩
      next hdemand =>
        refine .inr (.inl ⟨active, rfl, herror, hprocessing, by simpa using hdemand, fun _ => ?_⟩)
        cases w.channel.stream <;> rfl
    next => exact .inr (.inr fun _ => rfl)

/-- The stream is asked for content, if there is one. -/
theorem runs_askStream (hh : host.Lawful) (stream : Option Stream) :
    Runs (match stream with
      | some stream => stream.demand host
      | none => pure () : Engine κ ε Unit) := by
  cases stream with
  | none => exact .pure ()
  | some stream => exact Runs.compositional.demand hh.answers stream

/-- A demand is refused, with nothing changed, or taken in. -/
theorem demandContent_cases (hh : host.Lawful) {w : World κ ε} (hs : w.Sound) (e : ExchangeRef)
    (job : Job κ) : (∃ why, e.demandContent host job w = (.done (.error why), w)) ∨
      w.TakesIn (.demanded e job) (e.demandContent host job w).2 := by
  rcases e.demandContent_forms job w with
    ⟨why, hrefused⟩ | ⟨active, ha, herror, hprocessing, hnone, hrun⟩ | hrun
  · exact .inl ⟨why, hrefused host⟩
  · have hstep : Step w.Open w ((w.enter (.demanded e job)).modifyActive fun a =>
      { a with demand := some job }) := .demand job ha herror hprocessing hnone
    have hrest := (runs_askStream hh w.channel.stream).bind fun _ =>
      .pure (.ok () : Except ExchangeError Unit)
    rw [hrun]
    refine .inr ⟨_, hstep, List.suffix_refl _, ?_⟩
    exact Course.run .refl (hstep.sound hs) (fun _ h => h) hrest
  · rw [hrun]
    exact .inr (.bind_pure (Queue.takesIn_run hh hs (.demandNow e job) rfl))

/-- A demand is stored, refused or answered at once. -/
theorem runs_demandContent (hh : host.Lawful) (e : ExchangeRef) (job : Job κ) :
    Runs (e.demandContent host job) := by
  intro w hs
  rcases e.demandContent_cases hh hs job with ⟨why, hrun⟩ | htaken
  · rw [hrun]
  · exact htaken.leads hs

/-- An error listener is taken in, or comes too late. -/
theorem addErrorListener_cases (hh : host.Lawful) {w : World κ ε} (hs : w.Sound) (e : ExchangeRef)
    (listener : κ) : w.TakesIn (.listened e listener) (e.addErrorListener host listener w).2 ∨
      w.activeFor? e = none ∧ (w.exchange e).failure = none ∧
        (e.addErrorListener host listener w).2 = w.enterIgnored e listener := by
  have htold : ∀ cause, w.knownFailure? e = some cause → w.TakesIn (.listened e listener)
      (Queue.run host .channel (.errorListener e listener cause)
        ((w.note (.listening e listener)).enter (.listened e listener))).2 := by
    intro cause hknown
    exact Queue.takesIn_run hh hs (.listenLate listener hknown) rfl
  cases ha : w.activeFor? e with
  | some active =>
    refine .inl (.bind_done rfl ?_)
    dsimp only
    rw [ha]
    refine .bind_done rfl ?_
    cases herror : active.error with
    | some cause =>
      refine .bind_done rfl (.bind_done rfl (htold cause ?_))
      rw [knownFailure?, ha]
      exact herror
    | none =>
      refine .bind_done rfl ?_
      dsimp only
      rw [ha]
      exact ⟨_, .listenForError listener ha herror, List.suffix_refl _, .refl⟩
  | none =>
    cases hfailure : (w.exchange e).failure with
    | some cause =>
      refine .inl (.bind_done rfl ?_)
      dsimp only
      rw [ha]
      refine .bind_done rfl ?_
      rw [hfailure]
      refine .bind_done rfl (.bind_done rfl (htold cause ?_))
      rw [knownFailure?, ha]
      exact hfailure
    | none =>
      refine .inr ⟨rfl, rfl, ?_⟩
      simp only [addErrorListener, Effect.bind_run, Effect.gets, Engine.activeFor?,
        Engine.exchange, ha]
      simp only [Effect.pure_run, hfailure, Effect.bind_run, Effect.gets, ha]
      rfl

/-- An error listener waits, or is told what is known. -/
theorem runs_addErrorListener (hh : host.Lawful) (e : ExchangeRef) (listener : κ) :
    Runs (e.addErrorListener host listener) := by
  intro w hs
  rcases e.addErrorListener_cases hh hs listener with htaken | ⟨ha, hfailure, hrun⟩
  · exact htaken.leads hs
  · rw [hrun]
    unfold enterIgnored
    split
    next hlt => exact .single (.ignore listener hlt ha hfailure)
    next => exact .refl

/-- A completion listener gets a slot, and the stream is wrapped. -/
theorem runs_addCompletionListener (host : Host κ ε) (e : ExchangeRef) (listener : Callback κ) :
    Runs (e.addCompletionListener host listener) := by
  refine .bind (.gets _) fun active => ?_
  split
  · exact .pure _
  · refine .bind (SlotRef.runs_new listener) fun slot => ?_
    exact Channel.runs_wrapStream host fun stream => stream.runs_listen slot

/-- The active exchange is handled from now on. -/
theorem runs_enableProcessing (e : ExchangeRef) :
    Runs (e.enableProcessing : Engine κ ε Unit) := by
  intro w _
  refine Course.bind_done rfl ?_
  dsimp only
  cases ha : w.activeFor? e with
  | none => exact .refl
  | some active => exact .single (.enable ha)

end ExchangeRef

/-! ## Request bodies -/

namespace BodyRef

theorem runs_new (e : ExchangeRef) : Runs (BodyRef.new e : Engine κ ε BodyRef) := by
  refine .modifyGet fun w _ => World.Beside.step ?_
  exact .of_promises rfl ⟨_, _, _, _, rfl⟩

theorem runs_modify (b : BodyRef) (f : RequestBody κ → RequestBody κ) :
    Runs (b.modify f : Engine κ ε Unit) :=
  .aside fun _ => .of_promises rfl ⟨_, _, _, _, rfl⟩

/-- Whoever polled the body is woken once. -/
theorem runs_wake (hh : host.Lawful) (b : BodyRef) : Runs (b.wake host) := by
  refine .bind (.gets _) fun body => .bind (b.runs_modify _) fun _ => ?_
  split
  · exact hh.answers.run _ .ready
  · exact .pure ()

/-- The demand of a body is one like others. -/
theorem runs_demand (hh : host.Lawful) (b : BodyRef) (body : RequestBody κ) :
    Runs (b.demand host body) := by
  unfold demand
  split
  · exact .pure _
  · refine .bind (b.runs_modify _) fun _ => ?_
    refine .bind (body.exchange.runs_demandContent hh _) fun result => ?_
    split
    · exact .pure _
    · exact .bind (b.runs_modify _) fun _ => .bind (.newFailure _) fun _ => .pure _

/-- A body reads, and demands if there is nothing. -/
theorem runs_pollWithin (hh : host.Lawful) (b : BodyRef) (e : ExchangeRef) (rounds : Nat) :
    Runs (b.pollWithin host e rounds) := by
  induction rounds with
  | zero => exact .halt
  | succ rounds ih =>
    refine .bind (e.runs_readContent hh) fun content => ?_
    split
    next bytes last release =>
      refine .bind (b.runs_modify _) fun _ => ?_
      have hrest : Runs (if (!bytes.isEmpty) = true then Pure.pure (.data bytes)
          else if last = true then Pure.pure .finished
          else b.pollWithin host e rounds : Engine κ ε Frame) := by
        split
        · exact .pure _
        · split
          · exact .pure _
          · exact ih
      cases release with
      | none => exact hrest
      | some release => exact .bind (hh.answers.run release .ready) fun _ => hrest
    next fields => exact .bind (b.runs_modify _) fun _ => .pure _
    next failure => exact .bind (b.runs_modify _) fun _ => .pure _
    next =>
      refine .bind (.gets _) fun body => ?_
      split
      · exact .pure _
      · refine .bind (b.runs_demand hh _) fun demanded => ?_
        split
        · exact .bind (b.runs_modify _) fun _ => .pure _
        · refine .bind (.gets _) fun inFlight => ?_
          split
          · exact .pure _
          · exact ih

theorem runs_poll (hh : host.Lawful) (b : BodyRef) (waker : κ) : Runs (b.poll host waker) := by
  refine .bind (.gets _) fun body => ?_
  split
  · exact .pure _
  · split
    · exact .pure _
    · exact .bind (b.runs_modify _) fun _ => b.runs_pollWithin hh _ _

end BodyRef

end HttpExchange
