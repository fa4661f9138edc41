import HttpExchange.Proofs.Consistency
import HttpExchange.Proofs.RejectedTarget
import HttpExchange.Proofs.ConnectionClose
import HttpExchange.Proofs.Telling

/-!
# What a failed exchange answers

The first failure of an exchange goes before everything else. From the moment it is stored, every
read gives it, every demand is woken at once, every error listener is told it, and every write
fails, without the stream having a part in any of that; the exchange can not succeed any more.

The failure stands in two places, in the running part of the exchange and in what is left of it
after its end, and the operations look at the one or the other. `Possible.failure_eq` says that they
agree, and `Active.Consistent` that no other reason to refuse comes first in the running part. What
an operation leaves to the queue of the channel is described by `Engine.Defers`, down to what the
code is told that the task is about: a write callback the failure of the exchange, or one that says
that the exchange has ended, and an error listener the failure.
-/

namespace HttpExchange

variable {κ ε α : Type}

/-- From the state `w` a computation does nothing but have a task done by the queue of the channel,
once `w₀` has entered who waits for it, and then give this answer. -/
structure Engine.Defers (host : Host κ ε) (m : Engine κ ε α) (w w₀ : World κ ε) (task : Task κ)
    (answer : α) : Prop where
  run : m w = (do Queue.run host .channel task; return answer) w₀
  /-- The task is offered at once: it is the next of all tasks. -/
  offered : w.offeredTo .channel ++ [task] <+: (m w).2.offeredTo .channel
  /-- The answer is given, unless the call is the one that works the queue off, and that does not
  come to its end. -/
  outcome : (m w).1 = .done answer ∨ w.channelQueue.draining = false ∧
    (Queue.drain host .channel (w₀.offer .channel [task])).1 = .halted
  /-- Whoever does the job of the task tells whom it is about. -/
  told : ∀ caller : Host κ ε, (task.job.perform caller).CarriesOut caller task.job

/-- The failure `f` of an exchange goes before everything else. -/
structure World.ShortCircuits (w : World κ ε) (host : Host κ ε) (e : ExchangeRef)
    (f : FailureRef) : Prop where
  failure : (w.exchange e).failure = some f
  /-- A read gives the failure, and the stream is left alone. -/
  read : e.readContent host w = (.done (some (.error f)), w)
  /-- Whoever demands content is told at once that it is time to read, and the stream is left
  alone. -/
  demand : ∀ job, (e.demandContent host job).Defers host w (w.enter (.demanded e job))
    ⟨"demand", job⟩ (.ok ())
  /-- An error listener is told the failure. -/
  listen : ∀ listener, (e.addErrorListener host listener).Defers host w
    ((w.note (.listening e listener)).enter (.listened e listener)) (.errorListener e listener f) ()
  /-- A write fails with the failure as long as the exchange is active. -/
  writeActive : w.activeFor? e ≠ none → ∀ last callback chunks,
    (e.write host last callback chunks).Defers host w (w.enterWrote e callback last chunks)
      ⟨"write-failure", .complete callback (.error f)⟩ ()
  /-- After that it fails because the exchange has ended. -/
  writeEnded : w.activeFor? e = none → ∀ last callback chunks,
    let w₀ := w.enterRefused e callback last chunks .completed
    (w₀.failures.get w.failures.next).error = .completed ∧
    (e.write host last callback chunks).Defers host w w₀
      ⟨"write-failure", .complete callback (.error w.failures.next)⟩ ()
  /-- An exchange that is still active does not succeed. -/
  succeed : w.activeFor? e ≠ none →
    e.succeed host w = (.done (.error .exchangeFailed), w)

/-- Of the sends of an exchange that one state has and an earlier one had not, all are made by the
call that ends the exchange. -/
def World.SendsEnd (w w' : World κ ε) (e : ExchangeRef) : Prop :=
  ∀ s, .sent e s ∈ w'.history e → .sent e s ∈ w.history e ∨ s.callback.isFinal = true

/-! ## Tasks that are offered at once -/

namespace Engine

variable {depth : Nat} {host : Host κ ε} {w w₀ : World κ ε} {m : Engine κ ε α} {task : Task κ}
  {answer : α}

/-- Having a task done ends well, unless it works the queue off without end. -/
theorem run_outcome (hh : Surroundings depth host) (task : Task κ) :
    (Queue.run host .channel task w).1 = .done () ∨ w.channelQueue.draining = false ∧
      (Queue.drain host .channel (w.offer .channel [task])).1 = .halted := by
  cases hdraining : (w.queue .channel).draining with
  | true =>
    left
    rw [Queue.run_of_draining hdraining]
  | false =>
    rw [Queue.run_of_idle hdraining]
    have hcalm := hh.calm_drain (w.offer .channel [task])
    cases hended : (Queue.drain host .channel (w.offer .channel [task])).1 with
    | done a => exact .inl rfl
    | panicked p => exact absurd hended (hcalm p)
    | halted => exact .inr ⟨hdraining, rfl⟩

/-- A call that is offering a task, after an entry, and what comes of it. -/
theorem Defers.intro (hh : Surroundings depth host) (hw : w.Possible)
    (hstep : World.Step w.Open w (w₀.offer .channel [task]))
    (hqueue : w₀.channelQueue = w.channelQueue)
    (hoffered : w₀.offeredTo .channel = w.offeredTo .channel)
    (hrun : m w = (do Queue.run host .channel task; return answer) w₀) :
    m.Defers host w w₀ task answer := by
  have hworld : (m w).2 = (Queue.run host .channel task w₀).2 := by
    rw [hrun, Effect.bind_run]
    rcases Queue.run host .channel task w₀ with ⟨_ | _ | _, _⟩ <;> rfl
  refine ⟨hrun, ?_, ?_, task.job.carriesOut_perform⟩
  · obtain ⟨rest, hrest, heq⟩ := Queue.run_eq hh.lawful .channel task w₀
    have hcourse := hrest _ (hstep.sound hw.sound)
    have hfront := World.Course.offeredTo_prefix hcourse .channel
    rw [hworld, heq, ← hoffered, ← World.offeredTo_offer w₀ .channel [task]]
    exact hfront
  · rw [← hqueue, hrun, Effect.bind_run]
    rcases run_outcome hh task (w := w₀) with hdone | hhalted
    · left
      rcases hq : Queue.run host .channel task w₀ with ⟨ended, w₁⟩
      rw [hq] at hdone
      subst hdone
      rfl
    · exact .inr hhalted

/-- The same for a call that gives no answer. -/
theorem Defers.intro_unit {m : Engine κ ε Unit} (hh : Surroundings depth host) (hw : w.Possible)
    (hstep : World.Step w.Open w (w₀.offer .channel [task]))
    (hqueue : w₀.channelQueue = w.channelQueue)
    (hoffered : w₀.offeredTo .channel = w.offeredTo .channel)
    (hrun : m w = Queue.run host .channel task w₀) : m.Defers host w w₀ task () := by
  refine .intro hh hw hstep hqueue hoffered (hrun.trans ?_)
  exact congrFun (bind_pure (Queue.run host .channel task)).symm w₀

/-- If somebody works the queue off, the task is left to them. -/
theorem Defers.run_of_draining (h : m.Defers host w w₀ task answer)
    (hqueue : (w₀.queue .channel).draining = true) :
    m w = (.done answer, w₀.offer .channel [task]) := by
  rw [h.run, Effect.bind_run, Queue.run_of_draining hqueue]
  rfl

/-- If nobody does, the call has started all tasks that there are when it comes back. -/
theorem Defers.started_of_idle (hh : host.Lawful) (h : m.Defers host w w₀ task answer)
    (hoffered : (w₀.offer .channel [task]).Possible)
    (hqueue : (w₀.queue .channel).draining = false) (hdone : (m w).1 = .done answer) :
    (m w).2.startedOf .channel = (m w).2.offeredTo .channel := by
  obtain ⟨⟨⟩, w₁, hrun, hanswer⟩ := Effect.bind_eq_done.1 (h.run.symm.trans (Prod.ext hdone rfl))
  rw [Queue.run_of_idle hqueue] at hrun
  have hstarted := hoffered.started_of_drained hh hrun
  rw [Effect.pure_run] at hanswer
  rwa [(Prod.mk.inj hanswer).2] at hstarted

end Engine

/-! ## The answers of a failed exchange -/

open World

variable {depth : Nat} {host : Host κ ε} {w w' : World κ ε} {e : ExchangeRef} {f : FailureRef}
  {active : Active κ}

/-- As long as a failed exchange is active, its failure stands in its running part too. -/
theorem World.Possible.error_of_failed (h : w.Possible) (ha : w.activeFor? e = some active)
    (hf : (w.exchange e).failure = some f) : active.error = some f :=
  (h.failure_eq ha).symm.trans hf

theorem World.Possible.knownFailure_of_failed (h : w.Possible)
    (hf : (w.exchange e).failure = some f) : w.knownFailure? e = some f := by
  unfold knownFailure?
  cases ha : w.activeFor? e with
  | none => exact hf
  | some active => exact h.error_of_failed ha hf

namespace ExchangeRef

theorem readContent_of_failed (h : w.Possible) (hf : (w.exchange e).failure = some f) :
    e.readContent host w = (.done (some (.error f)), w) := by
  cases ha : w.activeFor? e with
  | none =>
    simp only [readContent, Effect.bind_run, Effect.gets, Engine.activeFor?, Engine.exchange, ha,
      hf]
    rfl
  | some active =>
    have herror := h.error_of_failed ha hf
    simp only [readContent, Effect.bind_run, Effect.gets, Engine.activeFor?, ha, herror]
    rfl

theorem demandContent_of_failed (hh : Surroundings depth host) (h : w.Possible)
    (hf : (w.exchange e).failure = some f) (job : Job κ) :
    (e.demandContent host job).Defers host w (w.enter (.demanded e job)) ⟨"demand", job⟩
      (.ok ()) := by
  refine .intro hh h (.demandNow e job) rfl rfl ?_
  cases ha : w.activeFor? e with
  | none =>
    -- what is left of the exchange knows that it failed
    have hsome : (w.exchange e).failure.isNone = false := by rw [hf, Option.isNone_some]
    simp only [demandContent, Effect.bind_run, Effect.gets, Engine.activeFor?, Engine.exchange, ha,
      hsome]
    rfl
  | some active =>
    have herror : active.error.isNone = false := by
      rw [h.error_of_failed ha hf, Option.isNone_some]
    simp only [demandContent, Effect.bind_run, Effect.gets, Engine.activeFor?, ha, herror,
      Bool.false_and]
    rfl

theorem addErrorListener_of_failed (hh : Surroundings depth host) (h : w.Possible)
    (hf : (w.exchange e).failure = some f) (listener : κ) :
    (e.addErrorListener host listener).Defers host w
      ((w.note (.listening e listener)).enter (.listened e listener))
      (.errorListener e listener f) () := by
  have hoffered : (w.note (.listening e listener)).offeredTo .channel = w.offeredTo .channel := by
    unfold offeredTo
    rw [log_note]
    exact List.append_nil _
  refine .intro_unit hh h (.listenLate listener (h.knownFailure_of_failed hf)) rfl hoffered ?_
  cases ha : w.activeFor? e with
  | none =>
    simp only [addErrorListener, Effect.bind_run, Effect.gets, Engine.activeFor?, Engine.exchange,
      ha, hf]
    rfl
  | some active =>
    have herror := h.error_of_failed ha hf
    simp only [addErrorListener, Effect.bind_run, Effect.gets, Engine.activeFor?, ha, herror]
    rfl

/-- No other reason to refuse a write comes before the failure. -/
theorem write_of_failed (hh : Surroundings depth host) (h : w.Possible)
    (ha : w.activeFor? e = some active) (hf : (w.exchange e).failure = some f) (last : Bool)
    (callback : Callback κ) (chunks : List Octets) :
    (e.write host last callback chunks).Defers host w (w.enterWrote e callback last chunks)
      ⟨"write-failure", .complete callback (.error f)⟩ () := by
  have herror := h.error_of_failed ha hf
  obtain ⟨hprocessing, -, hwrite, -, -⟩ := (h.active_consistent ha).failed f herror
  have hadmission : active.admission (w.exchange e).response last chunks = .failed f := by
    unfold Active.admission
    rw [hwrite, hprocessing, herror]
    rfl
  obtain ⟨stream, hstream⟩ := h.sound.exists_stream ha
  refine .intro_unit hh h (.refuseFailed callback last chunks ha herror) rfl rfl ?_
  simp only [write, Effect.bind_run, Effect.get, hstream, ha, hadmission]
  rfl

/-- A write of an exchange that has ended is refused. -/
theorem write_of_ended (hh : Surroundings depth host) (h : w.Possible)
    (ha : w.activeFor? e = none) (last : Bool) (callback : Callback κ) (chunks : List Octets) :
    (e.write host last callback chunks).Defers host w
      (w.enterRefused e callback last chunks .completed)
      ⟨"write-failure", .complete callback (.error w.failures.next)⟩ () := by
  refine .intro_unit hh h (.refuse e callback last chunks _ .completed) rfl rfl ?_
  simp only [write, Effect.bind_run, Effect.get, ha]
  cases w.channel.stream <;> rfl

/-- A failed exchange does not succeed. -/
theorem succeed_of_failed (h : w.Possible) (ha : w.activeFor? e = some active)
    (hf : (w.exchange e).failure = some f) :
    e.succeed host w = (.done (.error .exchangeFailed), w) := by
  have herror := h.error_of_failed ha hf
  obtain ⟨hprocessing, hdemand, hwrite, -, -⟩ := (h.active_consistent ha).failed f herror
  simp only [succeed, Effect.bind_run, Engine.activeFor?, Effect.gets, ha, hprocessing, hdemand,
    hwrite, herror]
  rfl

end ExchangeRef

theorem World.Possible.shortCircuits (hh : Surroundings depth host) (h : w.Possible)
    (hf : (w.exchange e).failure = some f) : w.ShortCircuits host e f where
  failure := hf
  read := e.readContent_of_failed h hf
  demand := e.demandContent_of_failed hh h hf
  listen := e.addErrorListener_of_failed hh h hf
  writeActive hactive := by
    obtain ⟨active, ha⟩ := Option.ne_none_iff_exists'.1 hactive
    exact e.write_of_failed hh h ha hf
  writeEnded ha last callback chunks := by
    have herror := congrArg Failure.error (Failures.get_add_next w.failures .completed)
    exact ⟨herror, e.write_of_ended hh h ha last callback chunks⟩
  succeed hactive := by
    obtain ⟨active, ha⟩ := Option.ne_none_iff_exists'.1 hactive
    exact e.succeed_of_failed h ha hf

/-! ## From the failure on -/

/-- A failed exchange sends nothing but its end. -/
theorem Record.Move.sent_of_failed {closing : Prop} {ρ ρ' : Record κ} (hm : ρ.Move e closing ρ')
    (hk : ρ.Marked e) (hf : ρ.state.failure = some f) {s : Sending κ}
    (hs : .sent e s ∈ ρ'.history) : .sent e s ∈ ρ.history ∨ s.callback.isFinal = true := by
  cases hm with
  | stay | edit | contentAvailable | storeFailure | enable | demand | listenForError | stick
  | complete | recycle | stickFinal | stickError => exact .inl hs
  | create => exact absurd hs List.not_mem_nil
  | withhold | answer | succeed | fail | tellSuccess | tellFailure | conclude =>
    exact .inl (List.mem_of_ne_of_mem (by nofun) hs)
  | mismatch =>
    exact .inl (List.mem_of_ne_of_mem (by nofun) (List.mem_of_ne_of_mem (by nofun) hs))
  | answerFinal =>
    have hs' := List.mem_of_ne_of_mem (finalOutcome_ne_sent _ _ _ _).symm hs
    exact .inl (List.mem_of_ne_of_mem (by nofun) hs')
  | send _ _ ha hadm =>
    -- a write that is admitted finds no failure
    have herror := (Active.admission_eq_send hadm).2.1
    rw [hk.stored _ ha, hf] at herror
    cases herror
  | sendFinal | sendError =>
    rcases List.mem_cons.1 hs with heq | hs
    · cases heq
      exact .inr rfl
    · exact .inl hs

namespace World

/-- What holds of an exchange after its failure, whatever steps are taken. -/
theorem Course.failed {A : ExchangeRef → Prop} (hc : Course A w w') (h : w.Possible)
    (hf : (w.exchange e).failure = some f) :
    (w'.exchange e).failure = some f ∧ w.SendsEnd w' e := by
  induction hc with
  | refl => exact ⟨hf, fun _ hs => .inl hs⟩
  | tail hc hstep ih =>
    obtain ⟨hf₁, hsends⟩ := ih
    have h₁ := h.course hc
    refine ⟨hstep.failure_mono h₁ hf₁, fun s hs => ?_⟩
    rcases (hstep.move h₁.sound e).sent_of_failed (h₁.marked e) hf₁ hs with hs | hfinal
    · exact hsends s hs
    · exact .inr hfinal

theorem Possible.failed_later (h : w.Possible) (hf : (w.exchange e).failure = some f)
    {m : Engine κ ε α} (hm : Permitted m) (hh : Surroundings depth host) :
    (m w).2.ShortCircuits host e f ∧ w.SendsEnd (m w).2 e := by
  have hcourse := hm.runs w h.sound
  obtain ⟨hfailure, hsends⟩ := Course.failed hcourse h hf
  exact ⟨(h.course hcourse).shortCircuits hh hfailure, hsends⟩

end World

/-- **A failure goes before everything after it.** A failure of the connection is stored by the
exchange that it is put on, if that has none yet. From then on, at all times and also after the
exchange has ended: every read gives this failure, every demand is woken at once and every error
listener is told the failure, without the stream; every write fails, with this failure as long as
the exchange is active and because it has ended after that; an exchange that is still active does
not succeed; and nothing is sent but the end of the exchange. -/
theorem failure_short_circuits {w : World κ ε} (hw : Reachable w) (e : ExchangeRef)
    (f : FailureRef) {depth : Nat} {host : Host κ ε} (hh : Surroundings depth host) :
    (w.blamed? = some e → (w.exchange e).failure = none → ∀ caller : Host κ ε,
      ∃ task w₁, Channel.onError caller f w = (.done task, w₁) ∧
        ∀ (β : Type) (m : Engine κ ε β), Permitted m →
          (m w₁).2.ShortCircuits host e f ∧ w₁.SendsEnd (m w₁).2 e) ∧
    ((w.exchange e).failure = some f → w.ShortCircuits host e f ∧
      ∀ (β : Type) (m : Engine κ ε β), Permitted m →
        (m w).2.ShortCircuits host e f ∧ w.SendsEnd (m w).2 e) := by
  have h := hw.possible
  constructor
  · intro hblamed hnone caller
    obtain ⟨task, w₁, hrun, hblames⟩ := Channel.onError_blames h hblamed caller f
    have hcourse := Channel.runs_onError caller f w h.sound
    rw [hrun] at hcourse
    have hstored : (w₁.exchange e).failure = some f := by
      rw [hblames.stored, hnone]
      rfl
    exact ⟨task, w₁, hrun, fun β m hm => (h.course hcourse).failed_later hstored hm hh⟩
  · intro hf
    exact ⟨h.shortCircuits hh hf, fun β m hm => h.failed_later hf hm hh⟩

/-- A failure that finds everybody waiting: it goes before everything while it is delivered, and
when the exchange has ended. -/
theorem failure_short_circuits_allWaiting :
    ∃ task w₁, Channel.onError (Host.idle 2) ⟨0⟩ (World.afterNumbered allWaiting) =
        (.done task, w₁) ∧
      (w₁.activeFor? ⟨0⟩).isSome = true ∧ w₁.ShortCircuits (Host.idle 2) ⟨0⟩ ⟨0⟩ ∧
      let w₂ := (Job.perform ((Host.idle 2).patient 9) (.drain .channel) w₁).2
      w₂.activeFor? ⟨0⟩ = none ∧ w₂.ShortCircuits (Host.idle 2) ⟨0⟩ ⟨0⟩ := by
  have hblamed : (World.afterNumbered allWaiting).blamed? = some ⟨0⟩ := by decide +kernel
  have hnone : ((World.afterNumbered allWaiting).exchange ⟨0⟩).failure = none := by decide +kernel
  have hactive : ((Channel.onError (Host.idle 2) ⟨0⟩
      (World.afterNumbered allWaiting)).2.activeFor? ⟨0⟩).isSome = true := by decide +kernel
  have hended : ((Job.perform ((Host.idle 2).patient 9) (.drain .channel)
      (Channel.onError (Host.idle 2) ⟨0⟩ (World.afterNumbered allWaiting)).2).2.activeFor?
        ⟨0⟩).isNone = true := by decide +kernel
  obtain ⟨task, w₁, hrun, hlater⟩ :=
    (failure_short_circuits permitted_allWaiting.reachable_numbered ⟨0⟩ ⟨0⟩
      (surroundings_idle 2)).1 hblamed hnone (Host.idle 2)
  have hdrain : Permitted (Job.perform ((Host.idle 2).patient 9) (.drain .channel) :
      Engine Nat Unit Unit) := .perform _ ⟨2, (surroundings_idle 2).patient 9⟩
  rw [hrun] at hactive hended
  refine ⟨task, w₁, hrun, hactive, (hlater Unit (pure ()) (.pure ())).1, ?_, ?_⟩
  · exact Option.isNone_iff_eq_none.1 hended
  · exact (hlater Unit _ hdrain).1

end HttpExchange
