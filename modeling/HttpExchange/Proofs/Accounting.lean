import HttpExchange.Proofs.Attribution

/-!
# Everybody who waits is accounted for

`Proofs.Waiters` says where those are who were taken in, and `Proofs.Attribution` which results the
tasks carry that tell the callbacks of writes. Both speak of the ledger and of the tasks that are
offered. This module adds what the calls of the engine and the tasks do to those who wait
(`World.Attended`). The calls enter whom they are given. Whoever works a queue off does the job of
the task that he starts, and doing the job of a task runs the code that it is about, and tells it
just the result or the failure that the task carries (`Engine.CarriesOut`). A promise is told when
its callback is called or dropped.

`callbacks_accounted` puts this together. So a callback that was started as a task was run once, with
a result that is its due.
-/

namespace HttpExchange

variable {κ ε : Type}

/-! ## Telling promises -/

open World

variable {host : Host κ ε} {w : World κ ε} {e : ExchangeRef}

namespace PromiseRef

theorem runs_awaken (hh : host.Lawful) (p : PromiseRef) (w : World κ ε) :
    Runs (p.awaken host w) := by
  unfold awaken
  split
  · exact hh.answers.run _ .ready
  · exact .pure ()

/-- Detaching an exchange tells no promise. -/
theorem toldTo_detach (w : World κ ε) (e : ExchangeRef) (cause : Option FailureRef)
    (p : PromiseRef) : (w.detach e cause).toldTo p = w.toldTo p :=
  filterMap_ledger_detach fun _ => rfl

/-- A promise that is told once more has been told so since. -/
theorem toldTo_of_leads {w' : World κ ε} {p : PromiseRef} (hp : p.index < w.promises.size)
    (state : PromiseState) {A : ExchangeRef → Prop} (h : Course A (w.tell p state) w') :
    state :: w.toldTo p <:+ w'.toldTo p := by
  have htold := toldTo_tell w hp state p
  rw [if_pos rfl] at htold
  rw [← htold]
  exact h.ledger_suffix.filterMap _

/-- A write callback that resolves a promise tells it the result. -/
theorem told_of_complete (hh : host.Lawful) (hs : w.Sound) {p : PromiseRef}
    (hp : p.index < w.promises.size) (result : Result) :
    .resolved result :: w.toldTo p <:+
      ((Job.complete (.promise p) result).perform host w).2.toldTo p := by
  have hstep : Step w.Open w (w.tell p (.resolved result)) := .tell p _
  exact toldTo_of_leads hp _ (p.runs_awaken hh w _ (hstep.sound hs))

/-- Failing an exchange whose pending write would resolve a promise tells it that it was lost. -/
theorem told_of_fail (hh : host.Lawful) (hs : w.Sound) {p : PromiseRef}
    (hp : p.index < w.promises.size) {active : Active κ} (ha : w.activeFor? e = some active)
    (hwrite : active.write = some (.promise p)) (cause : FailureRef) :
    .abandoned :: w.toldTo p <:+ (e.fail host cause w).2.toldTo p := by
  obtain ⟨stream, hstream⟩ := hs.exists_stream ha
  have hdetach : Step w.Open w (w.detach e (some cause)) := .fail cause ha
  have hs₁ := hdetach.sound hs
  have htell : Step w.Open (w.detach e (some cause)) ((w.detach e (some cause)).tell p .abandoned) :=
    .tell p .abandoned
  have hend := ending_detach hs ha (some cause) nofun
  rw [hstream, ← record_tell _ p .abandoned] at hend
  -- the promise is told as soon as the exchange is detached, and then the call goes on
  have hcourse : Course w.Open ((w.detach e (some cause)).tell p .abandoned)
      (e.fail host cause w).2 := by
    rw [ExchangeRef.fail_run ha hstream, hwrite]
    refine ExchangeRef.course_detached hh (htell.sound hs₁) (fun g ho => ?_) (open_of_active ha)
      hend (p.runs_awaken hh (w.detach e (some cause))) _
    exact hdetach.open_anti hs (htell.open_anti hs₁ ho)
  have htold := toldTo_of_leads (w := w.detach e (some cause)) hp .abandoned hcourse
  rw [toldTo_detach] at htold
  exact htold

end PromiseRef

/-- A write with a promise is taken in under that promise. -/
theorem ExchangeRef.writeAsync_taken (hh : host.Lawful) (hs : w.Sound) (e : ExchangeRef)
    (last : Bool) (chunks : List Octets) {p : PromiseRef}
    (hdone : (e.writeAsync host last chunks w).1 = .done p) :
    p.index < (e.writeAsync host last chunks w).2.promises.size ∧
      .wrote e (.promise p) last chunks (w.exchange e).response.committed :: w.ledger <:+
        (e.writeAsync host last chunks w).2.ledger := by
  have hstep : Step w.Open w { w with promises := w.promises.push ⟨.pending, none⟩ } :=
    w.beside_newPromise.step
  have htaken := e.takesIn_write hh (hstep.sound hs) last (.promise ⟨w.promises.size⟩) chunks
  have hsize := (htaken.leads (hstep.sound hs)).size_promises_le
  rw [Array.size_push] at hsize
  have hledger := htaken.ledger_suffix
  -- what is given is the promise that the write was called with
  have hrun : e.writeAsync host last chunks w =
      (e.write host last (.promise ⟨w.promises.size⟩) chunks >>= fun _ => pure ⟨w.promises.size⟩)
        { w with promises := w.promises.push ⟨.pending, none⟩ } := rfl
  rw [hrun, Effect.bind_run] at hdone ⊢
  rcases hwrite : e.write host last (.promise ⟨w.promises.size⟩) chunks
    { w with promises := w.promises.push ⟨.pending, none⟩ } with ⟨_ | _ | _, w₁⟩
  · rw [hwrite] at hdone hsize hledger
    cases hdone
    exact ⟨hsize, hledger⟩
  · rw [hwrite] at hdone
    cases hdone
  · rw [hwrite] at hdone
    cases hdone

/-! ## Nobody is lost, and everybody is told what is due -/

/-- Whoever waits, or waited, is accounted for. -/
structure World.Accounted (w : World κ ε) : Prop where
  /-- Whoever was taken in is in one place. -/
  balanced : w.accepted.Perm (w.registered ++ w.queued ++ w.served ++ w.lost)
  /-- Whoever was dropped was dropped when an exchange was detached; with success only error
  listeners are. -/
  dropped : ∀ waiter e cause, .dropped waiter e cause ∈ w.ledger →
    (∃ stream, .ended e stream cause ∈ w.deeds) ∧
      (cause = none → ∃ listener, waiter = .listener e listener)
  /-- Listeners that come too late come to exchanges that ended without a failure. -/
  ignored : ∀ e listener, .ignored e listener ∈ w.ledger →
    ¬w.Open e ∧ (w.exchange e).failure = none
  /-- Writes are told what is due. -/
  due : ∀ task ∈ w.offeredTo .channel, ∀ callback result, task.Tells callback result →
    w.Due callback result
  /-- Every send has the bytes of one write. -/
  own : (w.sendings.map Prod.fst).Nodup
  /-- Promises give what they were told last. -/
  promised : ∀ p : PromiseRef, p.index < w.promises.size →
    p.Gives w ((w.toldTo p).head?.getD .pending)

/-- Calls of the engine take in whom they are given, and tasks tell them what they carry. -/
structure World.Attended (w : World κ ε) (host : Host κ ε) : Prop where
  write : ∀ (e : ExchangeRef) last callback chunks,
    .wrote e callback last chunks (w.exchange e).response.committed :: w.ledger <:+
      (e.write host last callback chunks w).2.ledger
  writeAsync : ∀ (e : ExchangeRef) last chunks p, (e.writeAsync host last chunks w).1 = .done p →
    p.index < (e.writeAsync host last chunks w).2.promises.size ∧
      .wrote e (.promise p) last chunks (w.exchange e).response.committed :: w.ledger <:+
        (e.writeAsync host last chunks w).2.ledger
  /-- A demand is refused, with nothing changed, or taken in. -/
  demand : ∀ (e : ExchangeRef) job, (∃ why, e.demandContent host job w = (.done (.error why), w)) ∨
    .demanded e job :: w.ledger <:+ (e.demandContent host job w).2.ledger
  listener : ∀ (e : ExchangeRef) listener, e.index < w.exchanges.size →
    .listened e listener :: w.ledger <:+ (e.addErrorListener host listener w).2.ledger ∨
      (e.addErrorListener host listener w).2.ledger = .ignored e listener :: w.ledger
  /-- Whoever works a queue off starts the first task and does its job. -/
  starts : ∀ name task rest, (w.queue name).tasks = task :: rest → 0 < host.patience →
    Queue.drain host name w =
      (Effect.attempt (host.perform task.job) >>=
        Queue.afterwards host name task (host.patience - 1))
        ((w.setQueue name ⟨rest, (w.queue name).draining⟩).note (.started name task))
  /-- Doing a job is running the code that it is about. The callback of an operation is told the
  result that the job carries, an error listener the failure, a demand that it is time to go on. -/
  tells : ∀ job : Job κ, (job.perform host).CarriesOut host job
  /-- The callback of a promise tells it the result. -/
  complete : ∀ (p : PromiseRef) result, p.index < w.promises.size →
    .resolved result :: w.toldTo p <:+
      ((Job.complete (.promise p) result).perform host w).2.toldTo p
  /-- A callback that is dropped tells its promise so. -/
  fail : ∀ (p : PromiseRef) (e : ExchangeRef) active cause, p.index < w.promises.size →
    w.activeFor? e = some active → active.write = some (.promise p) →
    .abandoned :: w.toldTo p <:+ (e.fail host cause w).2.toldTo p

theorem World.Possible.accounted (h : w.Possible) : w.Accounted where
  balanced := h.balanced
  dropped _ _ _ hmem := h.dropped hmem
  ignored _ _ hmem := h.ignored hmem
  due _ htask _ _ htells := h.due htask htells
  own := h.nodup_sendings
  promised p hp := by
    rw [← h.promiseState_eq p]
    exact p.gives_promiseState hp

theorem World.attended (hh : host.Lawful) (hs : w.Sound) : w.Attended host where
  write e last callback chunks := (e.takesIn_write hh hs last callback chunks).ledger_suffix
  writeAsync e last chunks _ hdone := e.writeAsync_taken hh hs last chunks hdone
  demand e job := (e.demandContent_cases hh hs job).imp_right TakesIn.ledger_suffix
  listener e listener hlt := by
    rcases e.addErrorListener_cases hh hs listener with htaken | ⟨-, -, hrun⟩
    · exact .inl htaken.ledger_suffix
    · rw [hrun, enterIgnored, if_pos hlt]
      exact .inr rfl
  starts _ _ _ htasks hpatience := Queue.drain_of_cons htasks hpatience
  tells job := job.carriesOut_perform host
  complete p result hp := p.told_of_complete hh hs hp result
  fail p e _ cause hp ha hwrite := p.told_of_fail hh hs hp ha hwrite cause

/-- Whoever waits is registered, queued, served once, or dropped with the exchange, and nobody is
lost otherwise. A write is told what its own send ended with, or why it was not sent; a promise gives
the same, or that its callback was dropped. Nobody is forgotten later. -/
theorem callbacks_accounted (hw : Reachable w) :
    w.Accounted ∧ (∀ depth host, Surroundings depth host → w.Attended host) ∧
      ∀ (β : Type) (m : Engine κ ε β), Permitted m → w.ledger <:+ (m w).2.ledger := by
  have hpossible := hw.possible
  refine ⟨hpossible.accounted, fun depth host hh => ?_, fun β m hm => ?_⟩
  · exact attended hh.lawful hpossible.sound
  · exact (hm.runs w hpossible.sound).ledger_suffix

/-- A demand, a write and two listeners wait on one exchange. -/
theorem callbacks_accounted_allWaiting :
    Reachable (World.afterNumbered allWaiting) ∧
      (World.afterNumbered allWaiting).registered =
        [.demand (.code 1 .ready), .write (.code 2), .listener ⟨0⟩ 3, .listener ⟨0⟩ 4] ∧
      (World.afterNumbered allWaiting).Accounted ∧
      (World.afterNumbered allWaiting).Attended (Host.idle 2) := by
  have hw := permitted_allWaiting.reachable_numbered
  obtain ⟨haccounted, hattended, -⟩ := callbacks_accounted hw
  exact ⟨hw, by decide +kernel, haccounted, hattended 2 _ (surroundings_idle 2)⟩

end HttpExchange
