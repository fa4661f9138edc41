import HttpExchange.Proofs.ObliviousRuns

/-!
# Failures before any request

A failure that arrives when only a stream is attached is delivered to an exchange that is made up
for it. That exchange does not go the way of a request: no target is checked, no request is counted
and no task of handling it is made. The main statement is `early_failure_eq_failed_bare_request`: all
the same nobody can tell it from a bare request that is never handled and fails with the same cause,
except by the number of requests.

Both runs come to the same new exchange and fail it. From there on they differ in nothing but a
number that nothing in the engine looks at (`Oblivious`).
-/

namespace HttpExchange

variable {κ ε α : Type} {w : World κ ε} {stream : Stream}

/-- The second run ended as the first one, in the same state with one more request counted. -/
def EndsAlike (early late : Outcome α × World κ ε) : Prop := late = (early.1, early.2.recount)

theorem Oblivious.endsAlike {m : Engine κ ε α} (hm : Oblivious m) (w : World κ ε) :
    EndsAlike (m w) (m w.recount) := hm w

/-- Oblivious computations go on alike, however the runs before them ended. -/
theorem EndsAlike.after {β : Type} {early late : Outcome α × World κ ε}
    (h : EndsAlike early late) {m : Engine κ ε β} (hm : Oblivious m) :
    EndsAlike (m early.2) (m late.2) := by
  have hlate : late.2 = early.2.recount := congrArg Prod.snd h
  rw [hlate]
  exact hm.endsAlike early.2

/-- The target of a bare request is acceptable, however strictly it is checked. -/
theorem Compliance.validate_bare (c : Compliance) : c.validate .bare = none := by
  cases c <;> decide +kernel

namespace Channel

/-- A bare request makes a new exchange and is counted. -/
theorem onRequest_bare (hstream : w.channel.stream = some stream)
    (hidle : w.channel.active = none) (host : Host κ ε) :
    onRequest host .bare w = (.done (.ok ⟨"handle", .dispatch ⟨w.exchanges.size⟩⟩),
      (Engine.activate host stream .bare w).2.recount) := by
  have hvalid := w.channel.config.compliance.validate_bare
  simp only [onRequest, Effect.bind_run, Effect.get, hstream, hidle, Option.isSome_none,
    Bool.false_eq_true, if_false, hvalid]
  rfl

/-- Without an active exchange, a failure is that of a new one. -/
theorem onError_of_idle (hstream : w.channel.stream = some stream)
    (hidle : w.channel.active = none) (host : Host κ ε) (cause : FailureRef) :
    onError host cause w = failActive (.fresh ⟨w.exchanges.size⟩) cause
      (Engine.activate host stream .bare w).2 := by
  simp only [onError, Effect.bind_run, Effect.get, hstream, hidle]
  rfl

theorem onError_of_active (hstream : w.channel.stream = some stream) {active : Active κ}
    (hactive : w.channel.active = some active) (host : Host κ ε) (cause : FailureRef) :
    onError host cause w = failActive active cause w := by
  simp only [onError, Effect.bind_run, Effect.get, hstream, hactive]

/-- A failure before any request, and the same failure of a bare one. -/
theorem endsAlike_onError (hstream : w.channel.stream = some stream)
    (hidle : w.channel.active = none) (host : Host κ ε) (cause : FailureRef) :
    EndsAlike (onError host cause w)
      (onError host cause (Engine.activate host stream .bare w).2.recount) := by
  have hattached : (Engine.activate host stream .bare w).2.recount.channel.stream =
      some stream := hstream
  rw [onError_of_idle hstream hidle, onError_of_active hattached rfl]
  exact (oblivious_failActive (.fresh ⟨w.exchanges.size⟩) cause).endsAlike _

end Channel

/-- The task that a failure gives may be run at once. -/
theorem Job.endsAlike_abortNow {host : Host κ ε} (hh : host.Unaware) {w₁ : World κ ε}
    {cause : FailureRef}
    (h : EndsAlike (Channel.onError host cause w) (Channel.onError host cause w₁)) :
    EndsAlike (abortNow host cause w) (abortNow host cause w₁) := by
  unfold EndsAlike at h
  unfold abortNow
  rw [Effect.bind_run, Effect.bind_run, h]
  rcases Channel.onError host cause w with ⟨task | p | _, w₂⟩
  · cases task with
    | none => rfl
    | some task => exact hh.perform task.job w₂
  · rfl
  · rfl

/-- **A failure before any request is that of a bare request.** Let a stream be attached and no
exchange be active. A bare request is then accepted, counted, and gives the task of handling it,
which is left alone. The same failure before and after that request gives the same task and leaves
the same state but for the number: also if that task is run at once. So the responses that are sent,
how the stream is ended, with which failures suppressed, and the channel are the same, and so is
whatever clients find later, by any operation on the exchange, other exchanges or the connection. -/
theorem early_failure_eq_failed_bare_request {depth : Nat} {host : Host κ ε}
    (hh : ObliviousSurroundings depth host) (hstream : w.channel.stream = some stream)
    (hidle : w.channel.active = none) (cause : FailureRef) :
    ∃ w₁, Channel.onRequest host .bare w =
        (.done (.ok ⟨"handle", .dispatch ⟨w.exchanges.size⟩⟩), w₁) ∧
      w₁.channel.requests = w.channel.requests + 1 ∧
      (Channel.onError host cause w).2.channel.requests = w.channel.requests ∧
      EndsAlike (Channel.onError host cause w) (Channel.onError host cause w₁) ∧
      EndsAlike (Job.abortNow host cause w) (Job.abortNow host cause w₁) ∧
      ∀ (β : Type) (later : Engine κ ε β),
        ObliviousClient (fun host => ∃ depth, ObliviousSurroundings depth host) β later →
        EndsAlike (later (Channel.onError host cause w).2)
          (later (Channel.onError host cause w₁).2) ∧
        EndsAlike (later (Job.abortNow host cause w).2)
          (later (Job.abortNow host cause w₁).2) := by
  have hfailed := Channel.endsAlike_onError hstream hidle host cause
  have haborted := Job.endsAlike_abortNow hh.unaware hfailed
  refine ⟨_, Channel.onRequest_bare hstream hidle host, rfl, ?_, hfailed, haborted, ?_⟩
  · rw [Channel.onError_of_idle hstream hidle]
    rfl
  · intro β later hlater
    have hoblivious : Oblivious later := hlater.oblivious fun _ ⟨_, hh⟩ => hh.unaware
    exact ⟨hfailed.after hoblivious, haborted.after hoblivious⟩

/-- A stream is attached, and there is a failure that nobody has reported. -/
def attachedAlone : Engine Unit Unit Unit := do
  let _ ← Engine.newFailure (.transport "timeout")
  let _ ← Channel.setStream (.transport ⟨0⟩)

theorem obliviousSurroundings_idle (depth : Nat) :
    ObliviousSurroundings depth (Host.idle depth : Host κ ε) := by
  have hheedless : ∀ perform : Job κ → Engine κ ε Unit, (Host.idleWith perform).Heedless :=
    fun _ =>
      { run := fun _ _ => .pure ()
        read := fun _ => .pure none
        demand := fun _ => .pure ()
        prepare := fun _ fields => .pure (fields, none)
        send := fun _ _ _ _ _ => .pure ()
        push := fun _ _ => .pure ()
        consumeAll := fun _ => .pure none
        succeeded := fun _ => .pure ()
        failed := fun _ _ => .pure ()
        observe := fun _ _ => .pure ()
        handle := fun _ => .pure none
        render := fun _ _ fields => .pure ([], fields)
        taskFailed := fun _ _ => .pure () }
  induction depth with
  | zero => exact ⟨hheedless _, fun _ => rfl⟩
  | succ depth ih => exact ⟨hheedless _, _, ih, fun _ => rfl⟩

/-- A timeout before any request and after a bare one. Both exchanges end, and a success that comes
too late is ignored for both. -/
theorem early_failure_eq_failed_bare_request_timeout :
    ∃ w₁, Channel.onRequest (Host.idle 2) .bare (World.after attachedAlone) =
        (.done (.ok ⟨"handle", .dispatch ⟨0⟩⟩), w₁) ∧
      ((Job.abortNow (Host.idle 2) ⟨0⟩ (World.after attachedAlone)).2.exchange ⟨0⟩).phase =
        .terminal ∧
      EndsAlike (Job.abortNow (Host.idle 2) ⟨0⟩ (World.after attachedAlone))
        (Job.abortNow (Host.idle 2) ⟨0⟩ w₁) ∧
      EndsAlike
        (ExchangeRef.succeed (Host.idle 2) ⟨0⟩
          (Job.abortNow (Host.idle 2) ⟨0⟩ (World.after attachedAlone)).2)
        (ExchangeRef.succeed (Host.idle 2) ⟨0⟩ (Job.abortNow (Host.idle 2) ⟨0⟩ w₁).2) := by
  have hstream : (World.after attachedAlone).channel.stream = some (.transport ⟨0⟩) := by
    decide +kernel
  have hidle : (World.after attachedAlone).channel.active = none := by
    rw [← Option.isNone_iff_eq_none]
    decide +kernel
  have hphase : ((Job.abortNow (Host.idle 2) ⟨0⟩ (World.after attachedAlone)).2.exchange
      ⟨0⟩).phase = .terminal := by decide +kernel
  obtain ⟨w₁, hrun, -, -, -, haborted, hlater⟩ := early_failure_eq_failed_bare_request
    (obliviousSurroundings_idle 2) hstream hidle ⟨0⟩
  have hsucceeds := hlater _ _ (.succeed ⟨0⟩ ⟨2, obliviousSurroundings_idle 2⟩)
  exact ⟨w₁, hrun, hphase, haborted, hsucceeds.2⟩

end HttpExchange
