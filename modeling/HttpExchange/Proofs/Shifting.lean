import HttpExchange.Proofs.Shift

/-!
# Computations that go by shifts

`Shifting m` says that a computation changes a state, as far as a glance shows it, by shifts only.
The state has to be proper when it begins (`Glance.Proper`), and shifts keep it so, which is what
lets two computations follow each other. Sequences are again of this kind, as are computations whose
panics are caught, and so are the queues, the events of the connection and the request side of an
exchange.

Where an operation makes several changes before it calls anybody, they are put together to one shift:
nobody can see the moments between, and some of them would be no shift by themselves. So it is with a
body that demands content, which is marked and registered in one go, and with a failure that is
stored, which takes the demand to the queue. The lemmas of these operations are about a single state
from which the shift is made (`World.Goes`), and say of what follows that it goes on from there
(`World.Goes.run`).

A task that wakes a body is special. Taking it from the queue and what it does to the body is one
shift, though a run may be cut off between the two. `World.Goes` allows for that as a second way of
ending, and only if the computation was cut off: nothing follows then, so no later lemma has to deal
with it.

`Proofs.ShiftingRuns` goes on with the response side and the end of an exchange, up to whole runs.
-/

namespace HttpExchange

variable {κ ε α β : Type}

open Glance

namespace World

/-- A computation that began in a state ends as shifts lead to, or was cut off between taking a task
and doing it. -/
def Goes (w : World κ ε) (ended : Outcome α × World κ ε) : Prop :=
  Shifts w.glance ended.2.glance ∨
    ended.1 = .halted ∧ ∃ g, Shifts w.glance g ∧ g.CutOff ended.2

namespace Goes

variable {w w₁ : World κ ε} {ended : Outcome α × World κ ε}

/-- A computation that is not seen at a glance goes nowhere. -/
theorem of_glance_eq (h : ended.2.glance = w.glance) : w.Goes ended := by
  refine .inl ?_
  rw [h]

/-- One shift is a way to go. -/
theorem of_shift (h : w.glance.Shift ended.2.glance) : w.Goes ended := .inl (.single h)

/-- What comes first may have shifted already. -/
theorem trans (h : Shifts w.glance w₁.glance) (h' : w₁.Goes ended) : w.Goes ended :=
  h'.imp h.trans fun ⟨hhalted, g, hg, hcut⟩ => ⟨hhalted, g, h.trans hg, hcut⟩

/-- A sequence goes on from where its first part ended. -/
theorem bind {m : Engine κ ε α} {f : α → Engine κ ε β} (hm : w.Goes (m w₁))
    (hf : ∀ a w₂, m w₁ = (.done a, w₂) → Shifts w.glance w₂.glance → w.Goes (f a w₂)) :
    w.Goes ((m >>= f) w₁) := by
  rw [Effect.bind_run]
  rcases hmw : m w₁ with ⟨a | p | _, w₂⟩
  · rw [hmw] at hm
    rcases hm with hm | ⟨hhalted, -⟩
    · exact hf a w₂ hmw hm
    · cases hhalted
  · rw [hmw] at hm
    rcases hm with hm | ⟨hhalted, -⟩
    · exact .inl hm
    · cases hhalted
  · rw [hmw] at hm
    rcases hm with hm | ⟨-, hcut⟩
    · exact .inl hm
    · exact .inr ⟨rfl, hcut⟩

/-- A panic that is caught has shifted what it has shifted. -/
theorem attempt {m : Engine κ ε α} (h : w.Goes (m w₁)) : w.Goes (Effect.attempt m w₁) := by
  rw [Effect.attempt]
  rcases hmw : m w₁ with ⟨_ | _ | _, w₂⟩
  · rw [hmw] at h
    rcases h with h | ⟨hhalted, -⟩
    · exact .inl h
    · cases hhalted
  · rw [hmw] at h
    rcases h with h | ⟨hhalted, -⟩
    · exact .inl h
    · cases hhalted
  · rw [hmw] at h
    rcases h with h | ⟨-, hcut⟩
    · exact .inl h
    · exact .inr ⟨rfl, hcut⟩

end Goes

end World

open World

/-- A computation that goes by shifts. -/
def Shifting (m : Engine κ ε α) : Prop := ∀ w : World κ ε, w.glance.Proper → w.Goes (m w)

/-- Whatever the surroundings do when they are called goes by shifts. A task that wakes a body does
so at once, unless everything is cut off before. -/
structure Host.Shifts (host : Host κ ε) : Prop where
  answers : host.Answers fun _ m => Shifting m
  perform : ∀ job, Shifting (host.perform job)
  wakes : ∀ b, host.perform (.wakeBody b) = Effect.halt ∨ ∃ inner : Host κ ε,
    inner.Answers (fun _ m => Shifting m) ∧ host.perform (.wakeBody b) = b.wake inner

/-- A computation after some shifts. -/
theorem World.Goes.run {w w₁ : World κ ε} {m : Engine κ ε α} (hw : w.glance.Proper)
    (h : Glance.Shifts w.glance w₁.glance) (hm : Shifting m) : w.Goes (m w₁) :=
  .trans h (hm w₁ (h.proper hw))

namespace Shifting

/-! ## Computations -/

theorem pure (a : α) : Shifting (pure a : Engine κ ε α) := fun _ _ => .of_glance_eq rfl

theorem panic (p : Panic) : Shifting (Effect.panic p : Engine κ ε α) := fun _ _ => .of_glance_eq rfl

theorem halt : Shifting (Effect.halt : Engine κ ε α) := fun _ _ => .of_glance_eq rfl

theorem get : Shifting (Effect.get : Engine κ ε (World κ ε)) := fun _ _ => .of_glance_eq rfl

theorem gets (f : World κ ε → α) : Shifting (Effect.gets f) := fun _ _ => .of_glance_eq rfl

/-- Changes that are not seen. -/
theorem modify {f : World κ ε → World κ ε} (h : ∀ w : World κ ε, (f w).glance = w.glance) :
    Shifting (Effect.modify f) := fun w _ => .of_glance_eq (h w)

theorem modifyGet {f : World κ ε → α × World κ ε} (h : ∀ w : World κ ε, (f w).2.glance = w.glance) :
    Shifting (Effect.modifyGet f) := fun w _ => .of_glance_eq (h w)

theorem bind {m : Engine κ ε α} {f : α → Engine κ ε β} (hm : Shifting m)
    (hf : ∀ a, Shifting (f a)) : Shifting (m >>= f) :=
  fun w hw => .bind (hm w hw) fun a _ _ h => .run hw h (hf a)

theorem map {m : Engine κ ε α} (f : α → β) (hm : Shifting m) : Shifting (f <$> m) := by
  rw [map_eq_pure_bind]
  exact hm.bind fun a => .pure (f a)

theorem attempt {m : Engine κ ε α} (hm : Shifting m) : Shifting (Effect.attempt m) :=
  fun w hw => (hm w hw).attempt

/-- What surroundings keep for themselves is not seen. -/
theorem quiet {m : Engine κ ε α} (h : Quiet m) : Shifting m := by
  intro w _
  obtain ⟨outside, hout⟩ := h w
  refine .of_glance_eq ?_
  rw [hout]
  rfl

/-- Deeds are not seen. -/
theorem note (d : Deed κ) : Shifting (Engine.note d : Engine κ ε Unit) :=
  .modify fun w => w.glance_note d

/-- Entries are not seen, but for losses. -/
theorem enter {entry : Entry κ} (h : entry.loss? = none) :
    Shifting (Engine.enter entry : Engine κ ε Unit) :=
  .modify fun w => w.glance_enter h

theorem newFailure (error : ExchangeError) :
    Shifting (Engine.newFailure error : Engine κ ε FailureRef) := .modifyGet fun _ => rfl

theorem suppress (f other : FailureRef) : Shifting (Engine.suppress f other : Engine κ ε Unit) :=
  .modify fun _ => rfl

theorem modifyResponse (e : ExchangeRef) (f : Response → Response) :
    Shifting (Engine.modifyResponse e f : Engine κ ε Unit) :=
  .modify fun w => w.glance_modifyResponse e f

/-- An exchange may change apart from its phase and its failure. -/
theorem modifyExchange (e : ExchangeRef) {f : Exchange → Exchange}
    (hphase : ∀ x, (f x).phase = x.phase) (hfailure : ∀ x, (f x).failure = x.failure) :
    Shifting (Engine.modifyExchange e f : Engine κ ε Unit) :=
  .modify fun w => w.glance_modifyExchange e hphase hfailure

/-- The running part may change apart from what is seen of it. -/
theorem modifyActive {f : Active κ → Active κ} (h : ∀ a, (f a).running = a.running) :
    Shifting (Engine.modifyActive f : Engine κ ε Unit) :=
  .modify fun w => w.glance_modifyActive h

/-- An exchange is told to be at its end. -/
theorem settle (e : ExchangeRef) {phase : Phase} (h : phase.Late) :
    Shifting (Engine.setPhase e phase : Engine κ ε Unit) := by
  intro w _
  rcases Nat.lt_or_ge e.index w.exchanges.size with hlt | hle
  · have hshift := Shift.settle (g := w.glance) e h
    rw [← w.glance_setPhase hlt] at hshift
    exact .of_shift hshift
  · exact .of_glance_eq (w.glance_setPhase_of_le hle phase)

/-- Callbacks and the calls of streams go by shifts if the surroundings do. -/
theorem compositional : Compositional (P := fun _ (m : Engine κ ε _) => Shifting m) where
  pure := Shifting.pure
  bind := Shifting.bind
  attempt := Shifting.attempt
  gets := Shifting.gets
  aside {_ f} hbeside hbodies := .modifyGet fun w => by
    obtain ⟨slots, promises, bodies, streamCount, outside, heq⟩ := (hbeside w).same
    have hsame := hbodies w
    rw [heq] at hsame ⊢
    exact congrArg (fun bodies => { w.glance with bodies }) hsame
  tell p state := .modify fun w => w.glance_tell p state

end Shifting

variable {host : Host κ ε}

/-! ## Promises -/

/-- Promises are not seen. -/
theorem PromiseRef.shifting_poll (p : PromiseRef) (waker : κ) :
    Shifting (p.poll waker : Engine κ ε (Option Result)) := by
  refine .bind (.gets _) fun promise => ?_
  split
  · exact .bind (.modify fun _ => rfl) fun _ => .pure _
  · exact .pure _
  · exact .bind (.newFailure _) fun _ => .pure _

/-! ## Queues -/

/-- The tasks that follow when the connection is gone enter the queue. -/
theorem Channel.shifting_onClose (cause : Option FailureRef) :
    Shifting (onClose cause : Engine κ ε (Option (Task κ))) := by
  intro w _
  rw [onClose_run]
  refine .of_shift ?_
  rw [glance_offer]
  exact .offer _

/-- A task that failed closes the connection, unless the exchange failed. -/
theorem Channel.shifting_taskFailed (hh : host.Shifts) (failure : FailureRef) :
    Shifting (taskFailed host failure) := by
  refine .bind (.gets _) fun stored => ?_
  cases stored with
  | some stored => exact .suppress stored failure
  | none =>
    refine .bind (shifting_onClose _) fun task => ?_
    cases task with
    | some task => exact hh.perform task.job
    | none => exact .pure ()

/-- What is left of waking a body once it counts as answered. -/
theorem BodyRef.wake_run (b : BodyRef) (w : World κ ε) :
    b.wake host w =
      (match (w.bodies[b.index]?).bind (·.waker) with
        | some waker => host.run waker .ready
        | none => Pure.pure () : Engine κ ε Unit)
        { w with bodies := w.bodies.modify b.index RequestBody.answered } := rfl

/-- A body that is answered may be polled again, and its poller is woken after that. -/
theorem BodyRef.goes_wake (hh : host.Answers fun _ m => Shifting m) (b : BodyRef)
    {w w₁ : World κ ε} (hw : w.glance.Proper)
    (h : Glance.Shifts w.glance (w₁.glance.modifyBody b RequestBody.answered)) :
    w.Goes (b.wake host w₁) := by
  rw [wake_run]
  refine .run hw h ?_
  split
  · exact hh.run _ .ready
  · exact .pure ()

/-- Answering a body is a shift of its own. -/
theorem BodyRef.shifting_wake (hh : host.Answers fun _ m => Shifting m) (b : BodyRef) :
    Shifting (b.wake host) :=
  fun _ hw => b.goes_wake hh hw (.single (.touchBody b ⟨fun _ => rfl, nofun⟩))

namespace Queue

/-- A task that failed is reported, to the channel or to the hook. -/
theorem shifting_report (hh : host.Shifts) (name : QueueName) (task : String)
    (failure : FailureRef) : Shifting (report host name task failure) := by
  cases name with
  | channel => exact Channel.shifting_taskFailed hh failure
  | standalone => exact hh.answers.taskFailed task failure

/-- A task of the channel is done right after it was taken. -/
theorem goes_perform (hh : host.Shifts) {w w₁ : World κ ε} (hw : w.glance.Proper) {task : Task κ}
    {rest : List (Task κ)} (htasks : w.channelQueue.tasks = task :: rest)
    (hglance : w₁.glance = w.glance.leave rest)
    (hstarted : w₁.deeds.head? = some (.started .channel task)) :
    w.Goes (host.perform task.job w₁) := by
  by_cases hwakes : ∃ b, task.job = .wakeBody b
  · obtain ⟨b, hjob⟩ := hwakes
    rw [hjob]
    rcases hh.wakes b with hhalts | ⟨inner, hinner, hdoes⟩
    · -- everything is cut off before the body is woken
      have htaken : w₁.channelQueue.tasks = rest :=
        congrArg (fun g : Glance κ => g.queue.tasks) hglance
      rw [hhalts]
      refine .inr ⟨rfl, w.glance, .refl, ⟨task, b, ?_, hjob, hstarted⟩, ?_⟩
      · exact htasks.trans (congrArg (task :: ·) htaken.symm)
      · exact hglance.trans (congrArg w.glance.leave htaken.symm)
    · rw [hdoes]
      refine b.goes_wake hinner hw (.single ?_)
      rw [hglance]
      exact .wake htasks hjob
  · refine .run hw (.single ?_) (hh.perform task.job)
    rw [hglance]
    exact .take htasks fun b hjob => hwakes ⟨b, hjob⟩

/-- Every round takes a task from the queue and does its job. -/
theorem shifting_drainWithin (hh : host.Shifts) (name : QueueName) (rounds : Nat) :
    Shifting (drainWithin host name rounds) := by
  induction rounds with
  | zero => exact .halt
  | succ rounds ih =>
    intro w hw
    cases htasks : (w.queue name).tasks with
    | nil =>
      refine .bind ?_ fun task w₁ hnext h => ?_
      · rw [Engine.nextTask_of_nil htasks]
        cases name with
        | channel => exact .of_shift (.rest htasks)
        | standalone => exact .of_glance_eq rfl
      · rw [Engine.nextTask_of_nil htasks] at hnext
        cases hnext
        exact .inl h
    | cons task rest =>
      rw [drainWithin, Effect.bind_of_done (Engine.nextTask_of_cons htasks)]
      refine .bind (.attempt ?_) fun ended w₁ _ h => .run hw h ?_
      · cases name with
        | channel => exact goes_perform hh hw htasks rfl rfl
        | standalone => exact .run hw .refl (hh.perform task.job)
      · cases ended with
        | ok _ => exact ih
        | error p =>
          refine .bind (.newFailure _) fun failure => ?_
          exact .bind (shifting_report hh name task.name failure) fun _ => ih

theorem shifting_drain (hh : host.Shifts) (name : QueueName) : Shifting (drain host name) :=
  shifting_drainWithin hh name _

/-- Having a task of the channel done after some shifts, the last of which offers it. -/
theorem goes_run (hh : host.Shifts) {w w₁ : World κ ε} (hw : w.glance.Proper) {task : Task κ}
    (h : Glance.Shifts w.glance (w₁.glance.offer [task])) :
    w.Goes (Queue.run host .channel task w₁) := by
  rw [← glance_offer] at h
  cases hd : (w₁.queue .channel).draining with
  | true =>
    rw [run_of_draining hd]
    exact .inl h
  | false =>
    rw [run_of_idle hd]
    exact .run hw h (shifting_drain hh .channel)

/-- A task enters the queue, which may be worked off at once. -/
theorem shifting_run (hh : host.Shifts) (name : QueueName) (task : Task κ) :
    Shifting (Queue.run host name task) := by
  intro w hw
  cases name with
  | channel => exact goes_run hh hw (.single (.offer [task]))
  | standalone =>
    cases hd : (w.queue .standalone).draining with
    | true =>
      rw [run_of_draining hd]
      exact .of_glance_eq rfl
    | false =>
      rw [run_of_idle hd]
      exact .run hw .refl (shifting_drain hh .standalone)

end Queue

theorem Engine.shifting_runQueued (hh : host.Shifts) (name : String) (job : Job κ) :
    Shifting (Engine.runQueued host name job) := Queue.shifting_run hh .channel _

/-! ## Events of a connection -/

namespace Channel

theorem shifting_setStream (stream : Stream) :
    Shifting (setStream stream : Engine κ ε (Except ExchangeError Unit)) := by
  intro w _
  cases hstream : w.channel.stream with
  | some current =>
    simp only [setStream, Effect.bind_run, Effect.gets, hstream]
    exact .of_glance_eq rfl
  | none =>
    simp only [setStream, Effect.bind_run, Effect.gets, hstream]
    exact .of_shift .attach

/-- A new exchange shows only by being active: one that does not exist yet looks the same. -/
theorem glance_activate (host : Host κ ε) (stream : Stream) (request : RequestHead)
    (w : World κ ε) : (Engine.activate host stream request w).2.glance =
      { w.glance with
        size := w.glance.size + 1
        current := some ⟨⟨w.glance.size⟩, false, none⟩ } := by
  have hlast : ∀ x g, g.index = w.exchanges.size → w.exchange g = default ∧
      { w with exchanges := w.exchanges.push x }.exchange g = x := by
    intro x g hg
    refine ⟨?_, (w.exchange_push x g).trans (if_pos hg)⟩
    simp [exchange, hg]
  have hrest : ∀ x g, g.index ≠ w.exchanges.size →
      { w with exchanges := w.exchanges.push x }.exchange g = w.exchange g :=
    fun x g hg => (w.exchange_push x g).trans (if_neg hg)
  refine Glance.ext rfl (Array.size_push _) ?_ ?_ rfl rfl rfl rfl <;> funext g <;>
    by_cases hg : g.index = w.exchanges.size
  · show (exchange { w with exchanges := w.exchanges.push _ } g).phase = (w.exchange g).phase
    obtain ⟨hdefault, hpushed⟩ := hlast (.fresh _ request _) g hg
    rw [hdefault, hpushed]
    rfl
  · exact congrArg (·.phase) (hrest _ g hg)
  · show (exchange { w with exchanges := w.exchanges.push _ } g).failure.isSome =
      (w.exchange g).failure.isSome
    obtain ⟨hdefault, hpushed⟩ := hlast (.fresh _ request _) g hg
    rw [hdefault, hpushed]
    rfl
  · exact congrArg (·.failure.isSome) (hrest _ g hg)

/-- A new exchange is the last one that was made, and is running. -/
theorem shift_activate {w : World κ ε} {stream : Stream} (hstream : w.channel.stream = some stream)
    (hactive : w.channel.active = none) (host : Host κ ε) (request : RequestHead) :
    w.glance.Shift (Engine.activate host stream request w).2.glance := by
  rw [glance_activate]
  refine .activate ?_ ?_
  · show w.channel.stream.isSome = true
    rw [hstream]
    rfl
  · show w.channel.active.map Active.running = none
    rw [hactive]
    rfl

/-- A request becomes the running exchange, if there is a stream and none is running. -/
theorem shifting_onRequest (host : Host κ ε) (request : RequestHead) :
    Shifting (onRequest host request) := by
  intro w _
  simp only [onRequest, Effect.bind_run, Effect.get]
  cases hstream : w.channel.stream with
  | none => exact .of_glance_eq rfl
  | some stream =>
    cases hactive : w.channel.active with
    | some active => exact .of_glance_eq rfl
    | none =>
      have hshift := shift_activate hstream hactive host request
      dsimp only
      cases w.channel.config.compliance.validate request with
      | none => exact .of_shift hshift
      | some fault => exact .of_shift hshift

/-- The demand that waits is served by the queue. -/
theorem shifting_onContentAvailable :
    Shifting (onContentAvailable : Engine κ ε (Option (Task κ))) := by
  intro w _
  refine .of_shift ?_
  show w.glance.Shift ((w.modifyActive fun a => { a with demand := none }).offer .channel
    ((w.channel.active.bind (·.demand)).toList.map Task.demand)).glance
  rw [glance_offer]
  cases ha : w.channel.active with
  | none =>
    have hnone : (w.modifyActive fun a => { a with demand := none }).glance = w.glance := by
      refine Glance.ext rfl rfl rfl rfl ?_ rfl rfl rfl
      show (w.channel.active.map _).map _ = w.channel.active.map _
      rw [ha]
      rfl
    rw [hnone]
    exact .offer _
  | some a =>
    rw [glance_modifyActive_of_some w ha]
    exact .contentAvailable (w.current_glance ha)

/-- The first failure of the running exchange takes what waits for it to the queue. -/
theorem goes_failActive {w w₁ : World κ ε} (hw : w.glance.Proper)
    (h : Glance.Shifts w.glance w₁.glance) {active : Active κ}
    (hactive : w₁.channel.active = some active) (cause : FailureRef) :
    w.Goes (failActive active cause w₁) := by
  cases herror : active.error with
  | some stored =>
    rw [failActive, herror]
    exact .inl h
  | none =>
    have hlt := (h.proper hw).index_lt (w₁.current_glance hactive)
    obtain ⟨phase, others, hglance⟩ := w₁.glance_storeFailure hactive hlt cause
    rw [failActive_of_unfailed herror]
    refine .inl (h.tail ?_)
    rw [hglance]
    exact .storeFailure phase others (w₁.current_glance hactive)

/-- An error fails the running exchange, or one that is made up for it. -/
theorem shifting_onError (host : Host κ ε) (cause : FailureRef) :
    Shifting (onError host cause) := by
  intro w hw
  simp only [onError, Effect.bind_run, Effect.get]
  cases hstream : w.channel.stream with
  | none => exact .of_glance_eq rfl
  | some stream =>
    cases hactive : w.channel.active with
    | some active => exact goes_failActive hw .refl hactive cause
    | none =>
      exact goes_failActive hw (.single (shift_activate hstream hactive host .bare)) rfl cause

theorem shifting_addCloseListener (listener : κ) :
    Shifting (addCloseListener listener : Engine κ ε Unit) := .modify fun _ => rfl

/-- Streams are not seen, but the code that wraps them runs. -/
theorem shifting_wrapStreamWithin {transform : Stream → Engine κ ε Stream}
    (ht : ∀ stream, Shifting (transform stream)) (rounds : Nat) :
    Shifting (wrapStreamWithin transform rounds) := by
  induction rounds with
  | zero => exact .halt
  | succ rounds ih =>
    refine .bind (.gets _) fun before => ?_
    cases before with
    | none => exact .pure _
    | some current =>
      refine .bind (ht current) fun wrapper => ?_
      split
      · exact .pure _
      · -- the stream may have been replaced, but what is attached stays attached
        intro w hw
        simp only [Effect.bind_run, Effect.gets]
        cases hstream : w.channel.stream with
        | none => exact .of_glance_eq rfl
        | some active =>
          dsimp only
          split
          · refine .of_glance_eq (Glance.ext ?_ rfl rfl rfl rfl rfl rfl rfl)
            show true = w.channel.stream.isSome
            rw [hstream]
            rfl
          · exact ih w hw

theorem shifting_wrapStream (host : Host κ ε) {transform : Stream → Engine κ ε Stream}
    (ht : ∀ stream, Shifting (transform stream)) : Shifting (wrapStream host transform) :=
  shifting_wrapStreamWithin ht _

end Channel

/-! ## The request side -/

namespace ExchangeRef

/-- Reading calls the stream, and changes nothing. -/
theorem shifting_readContent (hh : host.Shifts) (e : ExchangeRef) :
    Shifting (e.readContent host) := by
  refine .bind (.gets _) fun active => ?_
  split
  next =>
    refine .bind (.gets _) fun x => ?_
    split
    · exact .pure _
    · exact .bind (.newFailure _) fun _ => .pure _
  next active =>
    split
    · exact .pure _
    · split
      · exact .bind (.newFailure _) fun _ => .pure _
      · refine .bind (.gets _) fun stream => ?_
        cases stream with
        | none => exact .pure _
        | some stream => exact Shifting.compositional.read hh.answers stream

/-- So does asking for content, if there is a stream. -/
theorem shifting_askStream (hh : host.Shifts) (stream : Option Stream) :
    Shifting (match stream with
      | some stream => stream.demand host
      | none => pure () : Engine κ ε Unit) := by
  cases stream with
  | none => exact .pure ()
  | some stream => exact Shifting.compositional.demand hh.answers stream

/-- A demand that is stored is the one of the running exchange. -/
theorem glance_registered {w : World κ ε} {active : Active κ}
    (hactive : w.channel.active = some active) (e : ExchangeRef) (job : Job κ) :
    ((w.enter (.demanded e job)).modifyActive fun a => { a with demand := some job }).glance =
      { w.glance with current := some { active.running with demand := some job } } := by
  have hentered : (w.enter (.demanded e job)).glance = w.glance := w.glance_enter rfl
  rw [glance_modifyActive_of_some (w.enter _) hactive, hentered]
  rfl

/-- A demand is stored, refused, or served by the queue. -/
theorem shifting_demandContent (hh : host.Shifts) (e : ExchangeRef) (job : Job κ) :
    Shifting (e.demandContent host job) := by
  intro w hw
  rcases e.demandContent_forms job w with
    ⟨why, hrun⟩ | ⟨active, ha, herror, -, hdemand, hrun⟩ | hrun
  · rw [hrun]
    exact .of_glance_eq rfl
  · obtain ⟨hactive, -⟩ := (activeFor?_eq_some w).1 ha
    rw [hrun]
    refine .run hw (.single ?_) ((shifting_askStream hh _).bind fun _ => .pure _)
    rw [glance_registered hactive]
    exact .demand job (w.current_glance hactive) (congrArg Option.isSome herror) hdemand
  · rw [hrun]
    refine .run hw ?_ ((Queue.shifting_run hh _ _).bind fun _ => .pure _)
    rw [w.glance_enter rfl]

/-- Error listeners are not seen, but telling one uses the queue. -/
theorem shifting_addErrorListener (hh : host.Shifts) (e : ExchangeRef) (listener : κ) :
    Shifting (e.addErrorListener host listener) := by
  have hrest : ∀ told, Shifting (match told with
      | some failure => do
        Engine.note (.listening e listener)
        Engine.enter (.listened e listener)
        Queue.run host .channel (.errorListener e listener failure)
      | none => do
        if (← Engine.activeFor? e).isSome then
          Engine.note (.listening e listener)
          Engine.enter (.listened e listener)
          Engine.modifyActive fun a => { a with errorListeners := a.errorListeners ++ [listener] }
        else
          Effect.modify (·.enterIgnored e listener) : Engine κ ε Unit) := by
    intro told
    cases told with
    | some failure =>
      exact .bind (.note _) fun _ => .bind (.enter rfl) fun _ => Queue.shifting_run hh _ _
    | none =>
      refine .bind (.gets _) fun active => ?_
      split
      · refine .bind (.note _) fun _ => .bind (.enter rfl) fun _ => .modifyActive fun _ => rfl
      · refine .modify fun w => ?_
        unfold enterIgnored
        split
        · exact w.glance_enter rfl
        · rfl
  refine .bind (.gets _) fun active => ?_
  cases active with
  | some active => exact .bind (.pure _) hrest
  | none => exact .bind (.gets _) fun _ => .bind (.pure _) hrest

/-- Slots are not seen. -/
theorem shifting_addCompletionListener (host : Host κ ε) (e : ExchangeRef)
    (listener : Callback κ) : Shifting (e.addCompletionListener host listener) := by
  refine .bind (.gets _) fun active => ?_
  split
  · exact .pure _
  · refine .bind (.modifyGet fun _ => rfl) fun slot => ?_
    exact Channel.shifting_wrapStream host fun stream =>
      .bind (.modifyGet fun _ => rfl) fun _ => .pure _

/-- An exchange that is handled enters its second phase. -/
theorem shifting_enableProcessing (e : ExchangeRef) :
    Shifting (e.enableProcessing : Engine κ ε Unit) := by
  intro w hw
  cases ha : w.activeFor? e with
  | none =>
    refine .of_glance_eq ?_
    simp only [enableProcessing, Effect.bind_run, Engine.activeFor?, Effect.gets, ha]
    rfl
  | some active =>
    obtain ⟨hactive, rfl⟩ := (activeFor?_eq_some w).1 ha
    have hlt : active.exchange.index < w.exchanges.size :=
      hw.index_lt (w.current_glance hactive)
    have hrun : ExchangeRef.enableProcessing active.exchange w = (.done (),
        (w.modifyActive fun a => { a with processing := true }).setPhase active.exchange
          .processing) := by
      simp only [enableProcessing, Effect.bind_run, Engine.activeFor?, Effect.gets, ha]
      rfl
    have hsame : (w.modifyActive fun a => { a with processing := true }).glance = w.glance :=
      w.glance_modifyActive fun _ => rfl
    rw [hrun]
    have hentered := glance_setPhase (w.modifyActive fun a => { a with processing := true }) hlt
      .processing
    rw [hsame] at hentered
    refine .of_shift (hentered.symm ▸ ?_)
    exact .enable (w.current_glance hactive)

end ExchangeRef

/-! ## Request bodies -/

namespace BodyRef

/-- A body may be touched apart from whether its demand is on the way. -/
theorem shifting_modify (b : BodyRef) {f : RequestBody κ → RequestBody κ}
    (h : RequestBody.Touched f) : Shifting (b.modify f : Engine κ ε Unit) :=
  fun _ _ => .of_shift (.touchBody b h)

/-- A body that was refused its demand looks as before, in flight no more. -/
theorem glance_undemanded (b : BodyRef) (w : World κ ε) :
    Glance.Shift w.glance { w.glance with
      bodies := (w.bodies.modify b.index RequestBody.demanding).modify b.index
        fun x => { x with inFlight := false } } := by
  have hmodify : (w.bodies.modify b.index RequestBody.demanding).modify b.index
      (fun x => { x with inFlight := false }) =
      w.bodies.modify b.index fun x => { x with inFlight := false } := by
    refine Array.ext (by simp) fun j hj _ => ?_
    by_cases hij : b.index = j
    · simp [Array.getElem_modify, hij, RequestBody.demanding]
    · simp [Array.getElem_modify, hij]
  rw [hmodify]
  exact .touchBody b ⟨fun _ => rfl, nofun⟩

/-- A body sets out to demand content in one go with registering or queueing the demand. -/
theorem goes_demand (hh : host.Shifts) {w : World κ ε} (hw : w.glance.Proper) (b : BodyRef)
    {body : RequestBody κ} (hbody : w.bodies[b.index]? = some body) :
    w.Goes (b.demand host body w) := by
  unfold demand
  split
  next => exact .of_glance_eq rfl
  next =>
    let w₁ : World κ ε := { w with bodies := w.bodies.modify b.index RequestBody.demanding }
    have hsets : b.modify (fun x => { x with inFlight := true }) w = (.done (), w₁) := rfl
    rw [Effect.bind_of_done hsets, Effect.bind_run]
    rcases body.exchange.demandContent_forms (.wakeBody b) w₁ with
      ⟨why, hrun⟩ | ⟨active, ha, herror, -, hdemand, hrun⟩ | hrun
    · rw [hrun]
      exact .of_shift (b.glance_undemanded w)
    · obtain ⟨hactive, hexchange⟩ := (activeFor?_eq_some w₁).1 ha
      rw [hrun, ← Effect.bind_run, bind_assoc]
      have hrest := (ExchangeRef.shifting_askStream hh w₁.channel.stream).bind fun _ =>
        .pure (.ok () : Except FailureRef Unit)
      refine .run hw (.single ?_) hrest
      rw [ExchangeRef.glance_registered hactive]
      exact .demandForBody b hbody (w.current_glance hactive) hexchange
        (congrArg Option.isSome herror) hdemand
    · rw [hrun, ← Effect.bind_run, bind_assoc]
      refine .bind (Queue.goes_run hh hw (.single ?_)) fun _ _ _ h => .inl h
      rw [w₁.glance_enter rfl]
      exact .demandForBodyNow b

/-- Polling a body reads, and demands if there is nothing. -/
theorem shifting_pollWithin (hh : host.Shifts) (b : BodyRef) (e : ExchangeRef) (rounds : Nat) :
    Shifting (b.pollWithin host e rounds) := by
  have hfinish : ∀ finished, Shifting (b.modify (fun x => { x with finished }) :
      Engine κ ε Unit) := fun _ => b.shifting_modify ⟨fun _ => rfl, fun _ h => h⟩
  induction rounds with
  | zero => exact .halt
  | succ rounds ih =>
    refine .bind (e.shifting_readContent hh) fun content => ?_
    split
    next bytes last release =>
      refine .bind (hfinish last) fun _ => ?_
      have hrest : Shifting (if (!bytes.isEmpty) = true then Pure.pure (.data bytes)
          else if last = true then Pure.pure .finished
          else b.pollWithin host e rounds : Engine κ ε Frame) := by
        split
        · exact .pure _
        · split
          · exact .pure _
          · exact ih
      cases release with
      | none => exact hrest
      | some release => exact .bind (hh.answers.run release .ready) fun _ => hrest
    next fields => exact .bind (hfinish true) fun _ => .pure _
    next failure => exact .bind (hfinish true) fun _ => .pure _
    next =>
      -- the body that is told to demand is the one that was just looked up
      intro w hw
      rw [Effect.bind_of_done (show b.get? w = (.done w.bodies[b.index]?, w) from rfl)]
      cases hbody : w.bodies[b.index]? with
      | none => exact .of_glance_eq rfl
      | some body =>
        refine .bind (b.goes_demand hh hw hbody) fun demanded _ _ h => .run hw h ?_
        cases demanded with
        | error failure => exact .bind (hfinish true) fun _ => .pure _
        | ok _ =>
          refine .bind (.gets _) fun inFlight => ?_
          split
          · exact .pure _
          · exact ih

theorem shifting_poll (hh : host.Shifts) (b : BodyRef) (waker : κ) :
    Shifting (b.poll host waker) := by
  refine .bind (.gets _) fun body => ?_
  split
  · exact .pure _
  · split
    · exact .pure _
    · exact .bind (b.shifting_modify ⟨fun _ => rfl, fun _ h => h⟩) fun _ =>
        b.shifting_pollWithin hh _ _

end BodyRef

end HttpExchange
