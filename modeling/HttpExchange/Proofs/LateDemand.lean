import HttpExchange.Proofs.ShortCircuit

/-!
# A demand after a failure

Who demands content of an exchange that has failed is not registered but handed to the queue of the
channel at once. The failure was handed to the same queue when it was stored, in one block
(`World.FailedIn`), and that was before. So such a demand is started behind the whole block
(`late_demand_behind_deliveries`): right away if the queue is idle, for then the failure was
delivered, and otherwise when everything that waits has had its turn.

That a failure was stored at some time is shown by induction along the run (`Possible.exists_failedIn`):
no step but storing one changes the failure of an exchange from none. Everything after that is about
the order of one queue. What is offered later comes behind what was offered before, and what was
started is at any time a prefix of what was offered, so of a task it is enough to know what stands
before it (`Possible.started_cases`).
-/

namespace HttpExchange

variable {κ ε : Type}

namespace World

variable {w w₀ : World κ ε} {e : ExchangeRef} {f : FailureRef} {active : Active κ}

/-- The first failure of an exchange was stored in the state `w₀`, when this was its running part,
and what ran since then led to the state `w`. -/
structure FailedIn (w₀ : World κ ε) (e : ExchangeRef) (active : Active κ) (f : FailureRef)
    (w : World κ ε) : Prop where
  possible : w₀.Possible
  running : w₀.activeFor? e = some active
  unfailed : (w₀.exchange e).failure = none
  since : Course (fun _ => True) (w₀.storeFailure active f) w

/-- Every failure was stored at some time. -/
theorem Possible.exists_failedIn (h : w.Possible) (hf : (w.exchange e).failure = some f) :
    ∃ (w₀ : World κ ε) (active : Active κ), w₀.FailedIn e active f w := by
  refine h.induct (P := fun w => ∀ f, (w.exchange e).failure = some f →
    ∃ (w₀ : World κ ε) (active : Active κ), w₀.FailedIn e active f w) ?_ ?_ f hf
  · exact fun _ _ _ _ _ _ => nofun
  intro w w' hw ih hstep f hf
  rcases hstep.failure_cases hw e with hsame | ⟨active, cause, hactive, hnone, rfl⟩
  · obtain ⟨w₀, active, hin⟩ := ih f (hsame.symm.trans hf)
    exact ⟨w₀, active, { hin with since := .tail hin.since hstep }⟩
  · obtain rfl := Option.some.inj ((hw.failure_storeFailure hactive hnone cause).symm.trans hf)
    exact ⟨w, active, hw, hactive, hnone, .refl⟩

/-- The failure is delivered behind all that was offered before it was stored. -/
theorem FailedIn.offeredTo_eq (h : w₀.FailedIn e active f w) :
    ∃ between, w.offeredTo .channel =
      w₀.offeredTo .channel ++ Channel.deliveries active f ++ between := by
  obtain ⟨between, hbetween⟩ := Course.offeredTo_prefix h.since .channel
  rw [offeredTo_storeFailure] at hbetween
  exact ⟨between, hbetween.symm⟩

/-- Of the tasks that were offered first, the last is started behind all others. -/
theorem Possible.started_cases (h : w.Possible) {front : List (Task κ)} {task : Task κ}
    (hfront : front ++ [task] <+: w.offeredTo .channel) :
    w.startedOf .channel <+: front ∨ front ++ [task] <+: w.startedOf .channel := by
  rcases List.prefix_or_prefix_of_prefix (h.started_in_order .channel) hfront with hfew | hmany
  · rw [List.prefix_concat_iff] at hfew
    rcases hfew with heq | hfew
    · exact .inr (heq ▸ List.prefix_rfl)
    · exact .inl hfew
  · exact .inr hmany

end World

open World

/-- **A late demand.** Take an exchange that has failed. All deliveries of its failure were offered
in one block when it was stored: the demand that was pending then, the failing of the pending write,
the telling of the error listeners, and the end of the exchange. Code that is given to a demand
after that is started only when this block and everything else offered so far was started, whatever
runs meanwhile. If the queue is idle, then all of it was started, and the demand is started before
the call comes back. If somebody is to work the queue off, the call is only an offer, and whoever
works the queue off starts the demand. -/
theorem late_demand_behind_deliveries {w : World κ ε} (hw : Reachable w) {e : ExchangeRef}
    {f : FailureRef} (hf : (w.exchange e).failure = some f) {depth : Nat} {host : Host κ ε}
    (hh : Surroundings depth host) (code : κ) :
    let demand : Task κ := ⟨"demand", .code code .ready⟩
    let ended := e.demandContent host demand.job w
    (∃ (w₀ : World κ ε) (active : Active κ) (between : List (Task κ)), w₀.FailedIn e active f w ∧
      w.offeredTo .channel = w₀.offeredTo .channel ++ Channel.deliveries active f ++ between) ∧
    (∀ (β : Type) (m : Engine κ ε β), Permitted m →
      (m ended.2).2.startedOf .channel <+: w.offeredTo .channel ∨
      w.offeredTo .channel ++ [demand] <+: (m ended.2).2.startedOf .channel) ∧
    (w.channelQueue.draining = false → w.startedOf .channel = w.offeredTo .channel ∧
      (ended.1 = .done (.ok ()) →
        w.offeredTo .channel ++ [demand] <+: ended.2.startedOf .channel)) ∧
    (w.channelQueue.draining = true →
      ended = (.done (.ok ()), (w.enter (.demanded e demand.job)).offer .channel [demand]) ∧
      ∀ depth' drainer, Surroundings depth' drainer →
        (∀ p, (Queue.drain drainer .channel ended.2).1 ≠ .panicked p) ∧
        ∀ w', Queue.drain drainer .channel ended.2 = (.done (), w') →
          w.offeredTo .channel ++ [demand] <+: w'.startedOf .channel) := by
  intro demand ended
  have h := hw.possible
  have hdefers := e.demandContent_of_failed hh h hf demand.job
  have hcourse := e.runs_demandContent hh.lawful demand.job w h.sound
  have hended : ended.2.Possible := h.course hcourse
  refine ⟨?_, fun β m hm => ?_, fun hqueue => ⟨h.started_of_idle hqueue, fun hdone => ?_⟩,
    fun hqueue => ⟨?_, fun depth' drainer hd => ⟨fun p => hd.calm_drain _ p, fun w' hrun => ?_⟩⟩⟩
  · obtain ⟨w₀, active, hin⟩ := h.exists_failedIn hf
    obtain ⟨between, hoffered⟩ := hin.offeredTo_eq
    exact ⟨w₀, active, between, hin, hoffered⟩
  · have hlater := hm.runs ended.2 hended.sound
    have hextends := Course.offeredTo_prefix hlater .channel
    exact (hended.course hlater).started_cases (hdefers.offered.trans hextends)
  · -- the call itself works the queue off
    have hstep : Step w.Open w ((w.enter (.demanded e demand.job)).offer .channel [demand]) :=
      .demandNow e demand.job
    rw [hdefers.started_of_idle hh.lawful (h.course (.single hstep)) hqueue hdone]
    exact hdefers.offered
  · exact hdefers.run_of_draining hqueue
  · have hlater := Queue.runs_drain hd.lawful .channel ended.2 hended.sound
    rw [hrun] at hlater
    rw [hended.started_of_drained hd.lawful hrun]
    exact hdefers.offered.trans (Course.offeredTo_prefix hlater .channel)

/-- A failure that finds everybody waiting, and that nobody has delivered yet. -/
def failedWaiting : Engine Nat Unit Unit := do
  allWaiting
  let _ ← Channel.onError (Host.idle 2) ⟨0⟩

theorem permitted_failedWaiting : Permitted failedWaiting :=
  .bind permitted_allWaiting fun _ =>
    .bind (.onError _ ⟨2, surroundings_idle 2⟩) fun _ => .pure ()

/-- The demand that is made then is started last, when the exchange has ended. -/
theorem late_demand_behind_failedWaiting :
    ∃ w₁, ExchangeRef.demandContent (Host.idle 2) ⟨0⟩ (.code 9 .ready)
        (World.afterNumbered failedWaiting) = (.done (.ok ()), w₁) ∧
      (Queue.drain ((Host.idle 2).patient 9) .channel w₁).1 = .done () ∧
      (Queue.drain ((Host.idle 2).patient 9) .channel w₁).2.startedOf .channel =
        [⟨"demand", .code 1 .ready⟩, ⟨"write-failure", .complete (.code 2) (.error ⟨0⟩)⟩,
          .errorListener ⟨0⟩ 3 ⟨0⟩, .errorListener ⟨0⟩ 4 ⟨0⟩,
          ⟨"completion-failure", .fail ⟨0⟩ ⟨0⟩⟩, ⟨"demand", .code 9 .ready⟩] := by
  have hfailure : ((World.afterNumbered failedWaiting).exchange ⟨0⟩).failure = some ⟨0⟩ := by
    decide +kernel
  have hqueue : (World.afterNumbered failedWaiting).channelQueue.draining = true := by
    decide +kernel
  have hoffered : (World.afterNumbered failedWaiting).offeredTo .channel =
      [⟨"demand", .code 1 .ready⟩, ⟨"write-failure", .complete (.code 2) (.error ⟨0⟩)⟩,
        .errorListener ⟨0⟩ 3 ⟨0⟩, .errorListener ⟨0⟩ 4 ⟨0⟩,
        ⟨"completion-failure", .fail ⟨0⟩ ⟨0⟩⟩] := by decide +kernel
  let ended := ExchangeRef.demandContent (Host.idle 2) ⟨0⟩ (.code 9 .ready)
    (World.afterNumbered failedWaiting)
  have hdone : (Queue.drain ((Host.idle 2).patient 9) .channel ended.2).1 = .done () := by
    decide +kernel
  have hcount : ((Queue.drain ((Host.idle 2).patient 9) .channel
      ended.2).2.startedOf .channel).length = 6 := by decide +kernel
  obtain ⟨-, -, -, hworked⟩ := late_demand_behind_deliveries
    permitted_failedWaiting.reachable_numbered hfailure (surroundings_idle 2) 9
  obtain ⟨hrun, horder⟩ := hworked hqueue
  have hsurroundings : Surroundings 2 ((Host.idle 2).patient 9 : Host Nat Unit) :=
    (surroundings_idle 2).patient 9
  have hstarted := (horder 2 _ hsurroundings).2 _ (Prod.ext hdone rfl)
  -- six tasks were started, and the six that are known to be the first are all of them
  rw [hoffered] at hstarted
  refine ⟨ended.2, ?_, hdone, (hstarted.eq_of_length hcount.symm).symm⟩
  exact Prod.ext (congrArg Prod.fst hrun) rfl

end HttpExchange
