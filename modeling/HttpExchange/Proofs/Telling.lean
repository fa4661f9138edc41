import HttpExchange.Proofs.Queueing

/-!
# Who is told what

Whoever waits for something is told by a task: a callback how its operation ended, an error listener
which failure the exchange has, a close listener that the connection is gone, a demand that it is
time to read. Statements about a run can then say which tasks are offered, in which order, and that
each is started once. `Engine.CarriesOut` is the other half, what doing the job of such a task comes
to for the one it is about: which code is run and what it is told, or how a promise stands from then
on. Every job does that in all surroundings (`Job.carriesOut_perform`), and whoever works a queue off
does the job of every task that is started (`Queue.drain_of_cons`).

`Engine.Entrusts` is said of calls that do nothing but have one task done by the queue of the
channel. If somebody works that queue off, the task is left to them, behind those that wait. If
nobody does, nothing waits, and the call does the job itself before it comes back.
-/

namespace HttpExchange

variable {κ ε : Type}

open World

/-! ## Promises -/

theorem World.promiseState_tell (w : World κ ε) {p : PromiseRef} (hp : p.index < w.promises.size)
    (state : PromiseState) (q : PromiseRef) :
    (w.tell p state).promiseState q = if p = q then state else w.promiseState q := by
  obtain ⟨i⟩ := p
  obtain ⟨j⟩ := q
  have hi : i < w.promises.size := hp
  simp only [tell, if_pos hp, promiseState, Array.getElem?_modify, PromiseRef.mk.injEq]
  by_cases hij : i = j
  · subst hij
    simp [hi]
  · rw [if_neg hij, if_neg hij]

theorem World.size_promises_tell (w : World κ ε) (p : PromiseRef) (state : PromiseState) :
    (w.tell p state).promises.size = w.promises.size := by
  unfold tell
  split
  · exact Array.size_modify
  · rfl

namespace PromiseRef

variable {w : World κ ε} {p : PromiseRef}

/-- What is left of settling a promise once it was told: whoever waited for it is woken. -/
def awaken (host : Host κ ε) (p : PromiseRef) (w : World κ ε) : Engine κ ε Unit :=
  match (w.promises[p.index]?).bind (·.waker) with
  | some waker => host.run waker .ready
  | none => pure ()

theorem settle_run (host : Host κ ε) (p : PromiseRef) (state : PromiseState) (w : World κ ε) :
    p.settle host state w = p.awaken host w (w.tell p state) := rfl

/-- What asking for the result of a promise gives that stands in this way. -/
def Gives (w : World κ ε) (p : PromiseRef) : PromiseState → Prop
  | .pending => ∀ waker, (p.poll waker w).1 = .done none
  | .resolved result => ∀ waker, (p.poll waker w).1 = .done (some result)
  | .abandoned => ∀ waker, ∃ cause, (p.poll waker w).1 = .done (some (.error cause)) ∧
      ((p.poll waker w).2.failures.get cause).error = .writeDropped

theorem gives_promiseState (hp : p.index < w.promises.size) : p.Gives w (w.promiseState p) := by
  obtain ⟨⟨state, waiting⟩, hpromise⟩ : ∃ promise, w.promises[p.index]? = some promise :=
    ⟨_, Array.getElem?_eq_getElem hp⟩
  have hstate : w.promiseState p = state := by rw [promiseState, hpromise]
  rw [hstate]
  cases state with
  | pending | resolved =>
    intro waker
    simp only [poll, Effect.bind_run, Effect.gets, hpromise]
    rfl
  | abandoned =>
    intro waker
    refine ⟨w.failures.next, ?_, ?_⟩
    · simp only [poll, Effect.bind_run, Effect.gets, hpromise]
      rfl
    · simp only [poll, Effect.bind_run, Effect.gets, hpromise]
      exact congrArg Failure.error (Failures.get_add_next _ _)

/-- A promise that was told something gives just that. -/
theorem gives_tell (hp : p.index < w.promises.size) (state : PromiseState) :
    p.Gives (w.tell p state) state := by
  have hstate := promiseState_tell w hp state p
  rw [if_pos rfl] at hstate
  have hgives := p.gives_promiseState (w := w.tell p state) (by rwa [size_promises_tell])
  rwa [hstate] at hgives

end PromiseRef

/-! ## What doing a job comes to -/

namespace Engine

/-- A computation tells a callback how its operation ended, and does nothing else. Code is run and
told that its operation ended with the result. A promise gives the result to everybody who asks from
then on, and whoever waits for it is woken. -/
def Tells (host : Host κ ε) (callback : Callback κ) (result : Result) (m : Engine κ ε Unit) :
    Prop :=
  match callback with
  | .code run => m = host.run run (.ended result)
  | .promise p => ∀ w : World κ ε, m w = p.awaken host w (w.tell p (.resolved result)) ∧
      (p.index < w.promises.size → p.Gives (w.tell p (.resolved result)) (.resolved result))
  | .ignore => m = pure ()

/-- A computation does a job, as far as that is to tell somebody something. The other jobs are calls
of the engine, which have statements of their own. -/
def CarriesOut (host : Host κ ε) (job : Job κ) (m : Engine κ ε Unit) : Prop :=
  match job with
  | .code run signal => m = host.run run signal
  | .wakeBody body => ∀ w : World κ ε,
      m w = (match (w.bodies[body.index]?).bind (·.waker) with
        | some waker => host.run waker .ready
        | none => pure () : Engine κ ε Unit)
        { w with
          bodies := w.bodies.modify body.index fun x => { x with inFlight := false, waker := none } }
  | .complete callback result => m.Tells host callback result
  | .errorListener _ run cause => m = host.run run (.failed cause)
  | .closeListener run cause =>
    m = (Effect.attempt (host.run run (.closed cause)) >>= fun _ => pure ())
  | .abort _ | .fail _ _ | .dispatch _ | .drain _ => True

end Engine

/-- Doing the job of a callback tells it the result. -/
theorem Job.tells_perform (host : Host κ ε) (callback : Callback κ) (result : Result) :
    ((complete callback result).perform host).Tells host callback result := by
  cases callback with
  | code run => exact perform_complete_code host run result
  | promise p => exact fun w => ⟨p.settle_run host _ w, fun hp => PromiseRef.gives_tell hp _⟩
  | ignore => exact perform_complete_ignore host result

/-- There is one way to tell a callback the result. -/
theorem Engine.Tells.eq_complete {host : Host κ ε} {callback : Callback κ} {result : Result}
    {m : Engine κ ε Unit} (h : Tells host callback result m) : m = callback.complete host result := by
  cases callback with
  | code run => exact h.trans (Job.perform_complete_code host run result).symm
  | promise p => exact funext fun w => (h w).1
  | ignore => exact h.trans (Job.perform_complete_ignore host result).symm

/-- Every job tells whom it is about what it is to tell. -/
theorem Job.carriesOut_perform (host : Host κ ε) (job : Job κ) :
    (job.perform host).CarriesOut host job := by
  cases job with
  | code run signal => exact perform_code host run signal
  | wakeBody body => exact fun w => rfl
  | complete callback result => exact tells_perform host callback result
  | errorListener e run cause => exact perform_errorListener host e run cause
  | closeListener run cause => exact perform_closeListener host run cause
  | abort | fail | dispatch | drain => trivial

/-! ## Tasks that are started are done -/

namespace Queue

variable {host : Host κ ε} {w : World κ ε}

/-- What follows once the job of a task was done: a panic is reported, and the rest of the queue is
worked off. -/
def afterwards (host : Host κ ε) (name : QueueName) (task : Task κ) (rounds : Nat) :
    Except Panic Unit → Engine κ ε Unit
  | .ok () => drainWithin host name rounds
  | .error p => do
    report host name task.name (← Engine.panicFailure p)
    drainWithin host name rounds

/-- Whoever works a queue off starts the first task and does its job, and goes on after that. -/
theorem drain_of_cons {name : QueueName} {task : Task κ} {rest : List (Task κ)}
    (htasks : (w.queue name).tasks = task :: rest) (hpatience : 0 < host.patience) :
    drain host name w =
      (Effect.attempt (host.perform task.job) >>= afterwards host name task (host.patience - 1))
        ((w.setQueue name ⟨rest, (w.queue name).draining⟩).note (.started name task)) := by
  obtain ⟨rounds, hrounds⟩ := Nat.exists_eq_succ_of_ne_zero (Nat.ne_of_gt hpatience)
  rw [drain, hrounds]
  refine (Effect.bind_of_done (Engine.nextTask_of_cons htasks)).trans ?_
  refine congrFun (congrArg (Effect.attempt (host.perform task.job) >>= ·) (funext fun ended => ?_)) _
  cases ended <;> rfl

end Queue

/-! ## Calls that have a task done -/

/-- There is a new failure, and a callback is to be told it. -/
def World.enterFailure (w : World κ ε) (callback : Callback κ) (why : ExchangeError) : World κ ε :=
  (w.addFailure why).enter (.refused callback w.failures.next)

/-- A write is called, and refused with a new failure. -/
def World.enterRefused (w : World κ ε) (e : ExchangeRef) (callback : Callback κ) (last : Bool)
    (chunks : List Octets) (why : ExchangeError) : World κ ε :=
  (w.enterWrote e callback last chunks).enterFailure callback why

/-- A task is offered to the queue of the channel that nobody works off, and started. -/
def World.launch (w : World κ ε) (task : Task κ) : World κ ε :=
  ((w.offer .channel [task]).setQueue .channel ⟨[], true⟩).note (.started .channel task)

/-- From the state `w` a computation does nothing but have a task done by the queue of the channel,
once the state has become `w₀`. -/
structure Engine.Entrusts (host : Host κ ε) (m : Engine κ ε Unit) (w w₀ : World κ ε)
    (task : Task κ) : Prop where
  /-- If somebody works the queue off, the task is left to them, behind all that wait. -/
  left : (w₀.queue .channel).draining = true → m w = (.done (), w₀.offer .channel [task])
  /-- If nobody does, no task waits, and the job of this one is done at once. -/
  atOnce : (w₀.queue .channel).draining = false → (w₀.queue .channel).tasks = [] ∧
    (0 < host.patience → m w =
      (Effect.attempt (host.perform task.job) >>=
        Queue.afterwards host .channel task (host.patience - 1)) (w₀.launch task))
  /-- Whoever does the job tells whom it is about. -/
  told : ∀ caller : Host κ ε, (task.job.perform caller).CarriesOut caller task.job

namespace Engine

variable {host : Host κ ε} {m : Engine κ ε Unit} {w w₀ : World κ ε} {task : Task κ}

/-- The new failure has the error that it was made for. -/
theorem error_enterFailure (w : World κ ε) (callback : Callback κ) (why : ExchangeError) :
    ((w.enterFailure callback why).failures.get w.failures.next).error = why :=
  congrArg Failure.error (Failures.get_add_next w.failures why)

/-- A call that comes to running a task in a state whose queue is empty unless it is worked off. -/
theorem Entrusts.of_run (hsettled : w₀.channelQueue.Settled)
    (hrun : m w = Queue.run host .channel task w₀) : m.Entrusts host w w₀ task where
  left hdraining := hrun.trans (Queue.run_of_draining hdraining task)
  atOnce hidle := by
    have hempty : (w₀.queue .channel).tasks = [] := hsettled hidle
    have hoffered : (w₀.queue .channel).offer [task] = (true, ⟨[task], true⟩) := by
      simp [Queue.offer, hempty, hidle]
    refine ⟨hempty, fun hpatience => ?_⟩
    have htasks : ((w₀.offer .channel [task]).queue .channel).tasks = [task] :=
      congrArg (·.2.tasks) hoffered
    have hdraining : ((w₀.offer .channel [task]).queue .channel).draining = true :=
      congrArg (·.2.draining) hoffered
    rw [hrun, Queue.run_of_idle hidle, Queue.drain_of_cons htasks hpatience, hdraining]
    rfl
  told caller := task.job.carriesOut_perform caller

/-- A call that comes to another one has the same task done. -/
theorem Entrusts.of_eq {m' : Engine κ ε Unit} {w' : World κ ε} (h : m'.Entrusts host w' w₀ task)
    (heq : m w = m' w') : m.Entrusts host w w₀ task where
  left hdraining := heq.trans (h.left hdraining)
  atOnce hidle := ⟨(h.atOnce hidle).1, fun hpatience => heq.trans ((h.atOnce hidle).2 hpatience)⟩
  told := h.told

/-- A refusal has the callback told the new failure. -/
theorem entrusts_refuseWrite (hsettled : w₀.channelQueue.Settled) (callback : Callback κ)
    (why : ExchangeError) (hrun : m w = refuseWrite host callback why w₀) :
    m.Entrusts host w (w₀.enterFailure callback why)
      ⟨"write-failure", .complete callback (.error w₀.failures.next)⟩ :=
  .of_run hsettled hrun

end Engine

end HttpExchange
