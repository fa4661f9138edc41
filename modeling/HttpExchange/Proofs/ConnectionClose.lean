import HttpExchange.Proofs.Delivery

/-!
# What follows when the connection is gone

A connection that is lost with a cause defers a task that fails the active exchange and, in the same
offer, a task for each close listener. Failing the exchange in turn defers its deliveries. The queue
was given the close listeners before, so they are told while the deliveries still wait
(`close_listeners_told_first`): the exchange has its failure by then, but nobody was woken or told,
and the stream was not failed.

`World.DeliveredBehind` says where the deliveries stand. It holds from the moment of the loss on,
whoever reports the first failure of the exchange after that, and at whatever point of a run.
-/

namespace HttpExchange

variable {κ ε β : Type}

namespace World

/-! ## Failures stay where they are -/

variable {w w' : World κ ε} {A : ExchangeRef → Prop} {e g : ExchangeRef}

theorem HeadFixed.failure_eq {last commits : Bool} {head : Option ResponseHead}
    (hfix : w.HeadFixed g last commits w' head) (e : ExchangeRef) :
    (w'.exchange e).failure = (w.exchange e).failure := by
  cases hfix with
  | before => rfl
  | now outside fields => exact failure_modifyExchange rfl e

theorem failure_dropWrite (w : World κ ε) (g e : ExchangeRef) :
    ((w.dropWrite g).exchange e).failure = (w.exchange e).failure := by
  unfold dropWrite
  split <;> rfl

/-- A step leaves the failure of an exchange alone, or it stores the first one. -/
theorem Step.failure_cases (hstep : Step A w w') (hw : w.Possible) (e : ExchangeRef) :
    (w'.exchange e).failure = (w.exchange e).failure ∨
    ∃ active cause, w.activeFor? e = some active ∧ (w.exchange e).failure = none ∧
      w' = w.storeFailure active cause := by
  cases hstep with
  | storeFailure cause hstream hactive herror =>
    rename_i active
    by_cases he : e = active.exchange
    · subst he
      have ha := (activeFor?_eq_some w).2 ⟨hactive, rfl⟩
      exact .inr ⟨active, cause, ha, (hw.failure_eq ha).trans herror, rfl⟩
    · exact .inl (failure_storeFailure_of_ne he cause)
  | aside | addFailure | suppress | attach | wrap | listen | unpersist | count | demand | ignore
  | listenForError | answerLate | answerFinal | answerError | succeed | fail | tellFailure =>
    exact .inl rfl
  | offer | close | contentAvailable | demandNow | listenLate | flush | refuse | refuseFailed =>
    exact .inl (failure_offer _ _ _ e)
  | tell p state =>
    left
    unfold World.tell
    split <;> rfl
  | next name =>
    left
    simp only [Engine.nextTask, Effect.modifyGet]
    split <;> cases name <;> rfl
  | activate => exact .inl (failure_push _ _ _ _ e)
  | enable | complete | conclude => exact .inl (failure_modifyExchange rfl e)
  | edit g f hedit => exact .inl (failure_modifyExchange (by rw [hedit.same]) e)
  | recycle =>
    exact .inl ((failure_modifyExchange rfl e).trans (failure_modifyExchange rfl e))
  | answerWrite =>
    left
    exact (failure_offer _ _ _ e).trans (failure_dropWrite _ _ e)
  | send _ _ _ _ hfix | stick _ _ _ _ hfix | sendFinal _ _ _ hfix | stickFinal _ _ _ _ hfix
  | tellSuccess _ _ _ hfix | sendError _ _ _ _ _ _ hfix | stickError _ _ _ _ _ _ hfix
  | mismatch _ _ _ hfix =>
    exact .inl ((hfix.failure_eq e).trans (failure_modifyExchange rfl e))
  | withhold callback hstream ha hadm hfix hfault =>
    left
    refine (failure_offer _ _ _ e).trans ((failure_dropWrite _ _ e).trans ?_)
    exact (hfix.failure_eq e).trans (failure_modifyExchange rfl e)

/-- A failure that is stored stays. -/
theorem Step.failure_mono (hstep : Step A w w') (hw : w.Possible) {cause : FailureRef}
    (h : (w.exchange e).failure = some cause) : (w'.exchange e).failure = some cause := by
  rcases hstep.failure_cases hw e with hsame | ⟨active, cause', -, hnone, -⟩
  · exact hsame.trans h
  · cases hnone.symm.trans h

/-- An exchange that was ended without a failure gets none any more. -/
theorem Step.failure_eq_none (hstep : Step A w w') (hw : w.Possible) (ha : w.activeFor? e = none)
    (h : (w.exchange e).failure = none) : (w'.exchange e).failure = none := by
  rcases hstep.failure_cases hw e with hsame | ⟨active, cause', hactive, -, -⟩
  · exact hsame.trans h
  · cases ha.symm.trans hactive

/-- Storing the first failure of an exchange makes it the failure of the exchange. -/
theorem Possible.failure_storeFailure (hw : w.Possible) {active : Active κ}
    (ha : w.activeFor? e = some active) (hnone : (w.exchange e).failure = none)
    (cause : FailureRef) : ((w.storeFailure active cause).exchange e).failure = some cause := by
  obtain ⟨-, rfl⟩ := (activeFor?_eq_some w).1 ha
  exact failure_storeFailure_self (hw.sound.index_lt_of_active ha) hnone cause

/-! ## Where the deliveries stand -/

/-- If an exchange has a failure, then the tasks that deliver it were offered behind these. -/
def DeliveredBehind (w : World κ ε) (tasks : List (Task κ)) (e : ExchangeRef) : Prop :=
  ∀ cause, (w.exchange e).failure = some cause → ∃ active between, active.exchange = e ∧
    tasks ++ between ++ Channel.deliveries active cause <+: w.offeredTo .channel

theorem Step.deliveredBehind (hstep : Step A w w') (hw : w.Possible) {tasks : List (Task κ)}
    (htasks : tasks <+: w.offeredTo .channel) (h : w.DeliveredBehind tasks e) :
    w'.DeliveredBehind tasks e := by
  intro cause hcause
  rcases hstep.failure_cases hw e with hsame | ⟨active, cause', hactive, hnone, rfl⟩
  · obtain ⟨active, between, hactive, hfront⟩ := h cause (hsame.symm.trans hcause)
    exact ⟨active, between, hactive, hfront.trans (log_extends _ hstep.deeds_suffix)⟩
  · obtain rfl := Option.some.inj ((hw.failure_storeFailure hactive hnone cause').symm.trans hcause)
    obtain ⟨between, hbetween⟩ := htasks
    have hends : tasks ++ between ++ Channel.deliveries active cause' =
        (w.storeFailure active cause').offeredTo .channel := by
      rw [hbetween, offeredTo_storeFailure]
    exact ⟨active, between, ((activeFor?_eq_some w).1 hactive).2, hends ▸ List.prefix_rfl⟩

/-- The failure of an exchange that has none yet will be delivered behind all that was offered. -/
theorem Course.deliveredBehind (hc : Course A w w') (hw : w.Possible)
    (hnone : (w.exchange e).failure = none) :
    w'.DeliveredBehind (w.offeredTo .channel) e := by
  induction hc with
  | refl =>
    intro cause hcause
    cases hnone.symm.trans hcause
  | tail hc hstep ih =>
    exact hstep.deliveredBehind (hw.course hc) (Course.offeredTo_prefix hc .channel) ih

end World

/-! ## The order of the tasks -/

open World

variable {host : Host κ ε} {w : World κ ε} {active : Active κ} {cause : FailureRef}

/-- A loss of the connection defers the failing of the exchange in front of the close listeners. -/
theorem Channel.onClose_of_attached {stream : Stream} (hstream : w.channel.stream = some stream)
    (cause : FailureRef) :
    Channel.onClose (some cause) w =
      (.done (if w.channelQueue.draining then none else some (.drain .channel)),
        (w.modifyChannel fun c => { c with closeListeners := [] }).offer .channel
          (⟨"close-error", .abort cause⟩ ::
            w.channel.closeListeners.map (⟨"close-listener", .closeListener · (some cause)⟩))) := by
  rw [Channel.onClose_run]
  cases hdraining : w.channelQueue.draining <;>
    simp [Channel.closing, hstream, Queue.offer, hdraining]

/-- Within the queue of the channel, failing the active exchange only defers the deliveries. -/
theorem Job.abortNow_of_draining (hs : w.Sound) (hactive : w.channel.active = some active)
    (herror : active.error = none) (hdraining : w.channelQueue.draining = true) :
    Job.abortNow host cause w = (.done (), w.storeFailure active cause) := by
  unfold Job.abortNow
  rw [Effect.bind_run, Channel.onError_of_unfailed hs hactive herror cause, hdraining]
  rfl

/-- If the first task fails the active exchange, the deliveries follow the tasks that wait. -/
theorem Queue.drain_abort {depth : Nat} (hh : Surroundings depth host) (hw : w.Possible)
    (hactive : w.channel.active = some active) (herror : active.error = none)
    (hdraining : w.channelQueue.draining = true) {name : String} {rest : List (Task κ)}
    (hqueue : (w.queue .channel).tasks = ⟨name, .abort cause⟩ :: rest) {w' : World κ ε}
    (hrun : Queue.drain host .channel w = (.done (), w')) :
    w.offeredTo .channel ++ Channel.deliveries active cause <+: w'.offeredTo .channel := by
  unfold drain at hrun
  cases hpatience : host.patience with
  | zero =>
    rw [hpatience] at hrun
    cases hrun
  | succ rounds =>
    rw [hpatience] at hrun
    obtain ⟨task, w₁, hnext, hrun⟩ := Effect.bind_eq_done.1 hrun
    have htaken : (Engine.nextTask .channel w).2 = w₁ := by rw [hnext]
    have hstep : Step w.Open w (Engine.nextTask .channel w).2 := .next .channel
    have hpossible := hw.course (.single hstep)
    have hoffered := offeredTo_nextTask w .channel .channel
    rw [htaken] at hpossible hoffered
    rw [Engine.nextTask_of_cons hqueue] at hnext
    cases hnext
    obtain ⟨ended, w₂, hperform, hrun⟩ := Effect.bind_eq_done.1 hrun
    cases depth with
    | zero =>
      rw [Effect.attempt, hh.2] at hperform
      cases hperform
    | succ depth =>
      have hlawful := hh.lawful
      obtain ⟨-, inner, -, hjob⟩ := hh
      -- the task does nothing but to offer the deliveries, which stand last for the moment
      rw [Effect.attempt, hjob, Job.perform, Job.abortNow_of_draining hpossible.sound hactive
        herror hdraining] at hperform
      cases hperform
      have hcourse := Channel.runs_onError host cause _ hpossible.sound
      rw [Channel.onError_of_unfailed hpossible.sound hactive herror] at hcourse
      have hrest := runs_drainWithin hlawful .channel rounds _ (hpossible.course hcourse).sound
      rw [show drainWithin host .channel rounds _ = _ from hrun] at hrest
      have hlater := Course.offeredTo_prefix hrest .channel
      rw [← hoffered, ← offeredTo_storeFailure]
      exact hlater

/-- **The order after a loss.** When the connection is lost with a cause, the close listeners are
taken from the channel, and two kinds of tasks are offered together: the one that fails the active
exchange, and behind it one for each close listener, in the order in which they were registered. An
exchange that had no failure before has its failure delivered behind all of them, whoever reports
it: the demand is woken, the pending write fails, the error listeners are told and the exchange is
failed only after the last close listener was told. When the queue was worked off, which ends
without a panic whatever the listeners do, all these tasks were started. If no other task had waited
in the queue, what was started next are the deliveries of the cause. -/
theorem close_listeners_told_first {w : World κ ε} (hw : Reachable w) {active : Active κ}
    (hactive : w.channel.active = some active) (herror : active.error = none)
    (cause : FailureRef) :
    let closing : List (Task κ) := ⟨"close-error", .abort cause⟩ ::
      w.channel.closeListeners.map (⟨"close-listener", .closeListener · (some cause)⟩)
    let offered := w.offeredTo .channel ++ closing
    ∃ w₁, Channel.onClose (some cause) w =
        (.done (if w.channelQueue.draining then none else some (.drain .channel)), w₁) ∧
      w₁.channel.closeListeners = [] ∧
      (∀ (β : Type) (m : Engine κ ε β), Permitted m →
        (∃ later, (m w₁).2.offeredTo .channel = offered ++ later ∧
          (m w₁).2.startedOf .channel <+: offered ++ later) ∧
        (m w₁).2.DeliveredBehind offered active.exchange) ∧
      ∀ depth host, Surroundings depth host →
        (∀ p, (Queue.drain host .channel w₁).1 ≠ .panicked p) ∧
        ∀ w', Queue.drain host .channel w₁ = (.done (), w') →
          w'.startedOf .channel = w'.offeredTo .channel ∧
          (w.channelQueue.tasks = [] →
            offered ++ Channel.deliveries active cause <+: w'.startedOf .channel) := by
  intro closing offered
  have h := hw.possible
  have ha := (activeFor?_eq_some w).2 ⟨hactive, rfl⟩
  have hnone : (w.exchange active.exchange).failure = none := (h.failure_eq ha).trans herror
  obtain ⟨stream, hstream⟩ := h.sound.exists_stream ha
  have hrun := Channel.onClose_of_attached hstream cause
  let w₀ := w.modifyChannel fun c => { c with closeListeners := [] }
  let w₁ := w₀.offer .channel closing
  have hoffered : w₁.offeredTo .channel = offered := offeredTo_offer w₀ .channel closing
  have hcourse : w.Leads w₁ := by
    have hclose := Channel.runs_onClose (some cause) w h.sound
    rw [hrun] at hclose
    exact hclose
  have h₁ := h.course hcourse
  refine ⟨w₁, hrun, rfl, fun β m hm => ⟨?_, ?_⟩, fun depth host hh => ⟨?_, ?_⟩⟩
  · rw [← hoffered]
    exact h₁.offeredTo_later hm .channel
  · rw [← hoffered]
    exact Course.deliveredBehind (hm.runs w₁ h₁.sound) h₁ hnone
  · exact fun p => hh.calm_drain w₁ p
  · intro w' hdrain
    have hstarted := h₁.started_of_drained hh.lawful hdrain
    refine ⟨hstarted, fun hempty => ?_⟩
    have hqueue : w₁.queue .channel = ⟨closing, true⟩ := by
      show (w.channelQueue.offer closing).2 = _
      simp [Queue.offer, closing, hempty]
    rw [hstarted, ← hoffered]
    exact Queue.drain_abort hh h₁ hactive herror (congrArg Queue.draining hqueue)
      (congrArg Queue.tasks hqueue) hdrain

/-- A loss that finds everybody waiting, and the queue worked off after it. -/
theorem loss_told_to_allWaiting :
    ∃ w₁, Channel.onClose (some ⟨0⟩) (World.afterNumbered allWaiting) =
        (.done (some (.drain .channel)), w₁) ∧
      (Queue.drain ((Host.idle 2).patient 9) .channel w₁).1 = .done () ∧
      (Queue.drain ((Host.idle 2).patient 9) .channel w₁).2.startedOf .channel =
        [⟨"close-error", .abort ⟨0⟩⟩, ⟨"close-listener", .closeListener 5 (some ⟨0⟩)⟩,
          ⟨"close-listener", .closeListener 6 (some ⟨0⟩)⟩, ⟨"demand", .code 1 .ready⟩,
          ⟨"write-failure", .complete (.code 2) (.error ⟨0⟩)⟩, .errorListener ⟨0⟩ 3 ⟨0⟩,
          .errorListener ⟨0⟩ 4 ⟨0⟩, ⟨"completion-failure", .fail ⟨0⟩ ⟨0⟩⟩] := by
  have hactive : (World.afterNumbered allWaiting).channel.active.map
      (fun a => (a.error, Channel.deliveries a ⟨0⟩)) =
      some (none, [⟨"demand", .code 1 .ready⟩,
        ⟨"write-failure", .complete (.code 2) (.error ⟨0⟩)⟩, .errorListener ⟨0⟩ 3 ⟨0⟩,
        .errorListener ⟨0⟩ 4 ⟨0⟩, ⟨"completion-failure", .fail ⟨0⟩ ⟨0⟩⟩]) := by decide +kernel
  have hlisteners : (World.afterNumbered allWaiting).channel.closeListeners = [5, 6] := by
    decide +kernel
  have hoffered : (World.afterNumbered allWaiting).offeredTo .channel = [] := by decide +kernel
  have hidle : (World.afterNumbered allWaiting).channelQueue.draining = false := by
    decide +kernel
  have hempty : (World.afterNumbered allWaiting).channelQueue.tasks = [] := by decide +kernel
  have hdone : (Queue.drain ((Host.idle 2).patient 9) .channel
      (Channel.onClose (some ⟨0⟩) (World.afterNumbered allWaiting)).2).1 = .done () := by
    decide +kernel
  have hcount : ((Queue.drain ((Host.idle 2).patient 9) .channel (Channel.onClose (some ⟨0⟩)
      (World.afterNumbered allWaiting)).2).2.startedOf .channel).length = 8 := by decide +kernel
  obtain ⟨a, ha, hfields⟩ := Option.map_eq_some_iff.1 hactive
  obtain ⟨herror, hdeliveries⟩ := Prod.mk.inj hfields
  obtain ⟨w₁, hrun, -, -, horder⟩ :=
    close_listeners_told_first permitted_allWaiting.reachable_numbered ha herror ⟨0⟩
  have hsurroundings : Surroundings 2 ((Host.idle 2).patient 9 : Host Nat Unit) :=
    (surroundings_idle 2).patient 9
  rw [hidle] at hrun
  rw [hrun] at hdone hcount
  have hdrained := (horder 2 _ hsurroundings).2 _ (Prod.ext hdone rfl)
  have hstarted := hdrained.2 hempty
  -- eight tasks were started, and the eight that are known to be the first are all of them
  rw [hoffered, hlisteners, hdeliveries] at hstarted
  exact ⟨w₁, hrun, hdone, (hstarted.eq_of_length hcount.symm).symm⟩

end HttpExchange
