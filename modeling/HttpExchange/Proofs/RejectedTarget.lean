import HttpExchange.Proofs.Delivery

/-!
# The task that fails a rejected target

A request whose target is not acceptable still makes an exchange, and the task that is given back
fails it, later. That task does not know the exchange that it was made for: it fails whatever a
failure of the connection would fail at the moment it runs (`World.blamed?`). This is the active
exchange, or, with a stream but no active exchange, one that is made up.

So the task keeps to its own exchange exactly as long as that is active
(`World.Possible.blamed_own_iff`). Once it has ended and another stream is attached, the failure
goes to another exchange (`rejected_target_fails_active`).
-/

namespace HttpExchange

variable {κ ε : Type}

namespace World

/-- The exchange that a failure of the connection would be put on: the active one, or one that is
made up on the attached stream. -/
def blamed? (w : World κ ε) : Option ExchangeRef :=
  match w.channel.stream, w.channel.active with
  | none, _ => none
  | some _, some active => some active.exchange
  | some _, none => some ⟨w.exchanges.size⟩

/-- What becomes of a failure that is put on an exchange. -/
structure Blames (w : World κ ε) (cause : FailureRef) (e : ExchangeRef) (task : Option (Task κ))
    (w' : World κ ε) : Prop where
  active : ∃ active, w'.channel.active = some active ∧ active.exchange = e
  /-- It is stored, unless there is one already. -/
  stored : (w'.exchange e).failure = (w.exchange e).failure.or (some cause)
  /-- The first failure is delivered, and at last ends the exchange. -/
  first : (w.exchange e).failure = none →
    task = (if w.channelQueue.draining then none else some (.drain .channel)) ∧
    ∃ told, w'.offeredTo .channel =
      w.offeredTo .channel ++ told ++ [⟨"completion-failure", .fail e cause⟩]
  /-- A later one is suppressed by the first. -/
  later : ∀ f, (w.exchange e).failure = some f →
    task = none ∧ w' = { w with failures := w.failures.suppress f cause }
  /-- The other exchanges have no part in it. -/
  others : ∀ g, g ≠ e → w'.record g = w.record g

variable {w w' : World κ ε} {active : Active κ} {e : ExchangeRef} {cause : FailureRef}

/-! ## Whom a failure is put on -/

theorem blamed?_eq_none (h : w.channel.stream = none) : w.blamed? = none := by
  unfold blamed?
  rw [h]

theorem blamed?_of_active {stream : Stream} (hstream : w.channel.stream = some stream)
    (hactive : w.channel.active = some active) : w.blamed? = some active.exchange := by
  unfold blamed?
  rw [hstream, hactive]

theorem blamed?_of_idle {stream : Stream} (hstream : w.channel.stream = some stream)
    (hidle : w.channel.active = none) : w.blamed? = some ⟨w.exchanges.size⟩ := by
  unfold blamed?
  rw [hstream, hidle]

theorem blamed?_eq_none_iff : w.blamed? = none ↔ w.channel.stream = none := by
  refine ⟨fun h => ?_, blamed?_eq_none⟩
  by_contra hne
  obtain ⟨stream, hstream⟩ := Option.ne_none_iff_exists'.1 hne
  cases hactive : w.channel.active with
  | none => cases (blamed?_of_idle hstream hactive).symm.trans h
  | some active => cases (blamed?_of_active hstream hactive).symm.trans h

/-- A failure is put on an exchange that exists exactly if that is active. -/
theorem Possible.blamed_own_iff (h : w.Possible) (hlt : e.index < w.exchanges.size) :
    w.blamed? = some e ↔ (w.activeFor? e).isSome = true := by
  constructor
  · intro hblamed
    obtain ⟨stream, hstream⟩ : ∃ stream, w.channel.stream = some stream := by
      refine Option.ne_none_iff_exists'.1 fun hnone => ?_
      cases (blamed?_eq_none hnone).symm.trans hblamed
    cases hactive : w.channel.active with
    | some active =>
      rw [blamed?_of_active hstream hactive] at hblamed
      have ha := (activeFor?_eq_some w).2 ⟨hactive, Option.some.inj hblamed⟩
      rw [ha]
      rfl
    | none =>
      -- a made-up exchange is none of those that exist
      rw [blamed?_of_idle hstream hactive] at hblamed
      obtain rfl := Option.some.inj hblamed
      exact absurd hlt (Nat.lt_irrefl _)
  · intro hsome
    obtain ⟨active, ha⟩ := Option.isSome_iff_exists.1 hsome
    obtain ⟨stream, hstream⟩ := h.sound.exists_stream ha
    obtain ⟨hactive, rfl⟩ := (activeFor?_eq_some w).1 ha
    exact blamed?_of_active hstream hactive

/-- A failure is put on another exchange exactly if this one has ended and a stream is attached. -/
theorem Possible.blamed_other_iff (h : w.Possible) (hlt : e.index < w.exchanges.size) :
    (∃ g, g ≠ e ∧ w.blamed? = some g) ↔
      w.channel.stream.isSome = true ∧ w.activeFor? e = none := by
  have hown := h.blamed_own_iff hlt
  constructor
  · rintro ⟨g, hne, hblamed⟩
    constructor
    · rw [Option.isSome_iff_ne_none]
      intro hnone
      cases (blamed?_eq_none hnone).symm.trans hblamed
    · rw [← Option.not_isSome_iff_eq_none]
      intro hsome
      have hself := hown.2 hsome
      rw [hblamed] at hself
      exact hne (Option.some.inj hself)
  · rintro ⟨hstream, hended⟩
    have hnot : w.blamed? ≠ none := by
      rw [Ne, blamed?_eq_none_iff, ← Ne, ← Option.isSome_iff_ne_none]
      exact hstream
    obtain ⟨g, hg⟩ := Option.ne_none_iff_exists'.1 hnot
    refine ⟨g, ?_, hg⟩
    rintro rfl
    have hsome := hown.1 hg
    rw [hended] at hsome
    cases hsome

/-! ## What becomes of the failure -/

/-- The first failure of the active exchange. -/
theorem Possible.blames_storeFailure (h : w.Possible) (hactive : w.channel.active = some active)
    (herror : active.error = none) (cause : FailureRef) :
    w.Blames cause active.exchange
      (if w.channelQueue.draining then none else some (.drain .channel))
      (w.storeFailure active cause) := by
  have ha := (activeFor?_eq_some w).2 ⟨hactive, rfl⟩
  have hlt := h.sound.index_lt_of_active ha
  have hnone : (w.exchange active.exchange).failure = none := (h.failure_eq ha).trans herror
  refine ⟨?_, ?_, fun _ => ⟨rfl, ?_⟩, fun f hf => ?_, fun g hne => ?_⟩
  · have hself := congrArg Record.active (record_storeFailure_self w hlt ha cause)
    obtain ⟨hstored, hsame⟩ := (activeFor?_eq_some _).1 hself
    exact ⟨_, hstored, hsame⟩
  · rw [hnone]
    exact failure_storeFailure_self hlt hnone cause
  · exact ⟨_, (offeredTo_storeFailure w active cause).trans (List.append_assoc _ _ _).symm⟩
  · cases hnone.symm.trans hf
  · exact record_storeFailure_of_ne w hne (activeFor?_of_ne w ha hne) cause

/-- A later failure of the active exchange. -/
theorem Possible.blames_suppress (h : w.Possible) (hactive : w.channel.active = some active)
    {stored : FailureRef} (herror : active.error = some stored) (cause : FailureRef) :
    w.Blames cause active.exchange none
      { w with failures := w.failures.suppress stored cause } := by
  have ha := (activeFor?_eq_some w).2 ⟨hactive, rfl⟩
  have hfailure : (w.exchange active.exchange).failure = some stored :=
    (h.failure_eq ha).trans herror
  refine ⟨⟨active, hactive, rfl⟩, ?_, fun hnone => ?_, fun f hf => ⟨rfl, ?_⟩, fun g _ => rfl⟩
  · show (w.exchange active.exchange).failure = _
    rw [hfailure]
    rfl
  · cases hfailure.symm.trans hnone
  · rw [Option.some.inj (hfailure.symm.trans hf)]

/-- With a stream and no active exchange, a new one is made active. -/
theorem Possible.activate (h : w.Possible) {stream : Stream}
    (hstream : w.channel.stream = some stream) (hidle : w.channel.active = none) (host : Host κ ε)
    (request : RequestHead) :
    ∃ w₁, Engine.activate host stream request w = (.done (.fresh ⟨w.exchanges.size⟩), w₁) ∧
      w₁.Possible ∧ w₁.channel.active = some (.fresh ⟨w.exchanges.size⟩) ∧
      w₁.channelQueue = w.channelQueue ∧ w₁.deeds = w.deeds ∧ w₁.failures = w.failures ∧
      w₁.channel.config = w.channel.config ∧
      w.exchanges.size < w₁.exchanges.size ∧
      ∀ g, g ≠ ⟨w.exchanges.size⟩ → w₁.record g = w.record g := by
  have hstep : Step w.Open w (Engine.activate host stream request w).2 :=
    .activate _ request _ (by rw [hstream]; rfl) hidle
  refine ⟨_, rfl, h.course (.single hstep), rfl, rfl, rfl, rfl, rfl, ?_, fun g hne => ?_⟩
  · show w.exchanges.size < (w.exchanges.push _).size
    rw [Array.size_push]
    exact Nat.lt_succ_self _
  · refine record_eq_of_views ?_ ?_ rfl
    · refine (exchange_push w _ g).trans (if_neg fun hindex => hne ?_)
      cases g
      exact congrArg ExchangeRef.mk hindex
    · have hnone : w.activeFor? g = none := by rw [activeFor?, hidle]; rfl
      rw [hnone, activeFor?]
      show (some (Active.fresh ⟨w.exchanges.size⟩ : Active κ)).filter _ = none
      simp [Active.fresh, Ne.symm hne]

end World

open World

variable {w : World κ ε} {active : Active κ} {e : ExchangeRef} {cause : FailureRef}

namespace Channel

theorem onError_of_streamless (hstream : w.channel.stream = none) (host : Host κ ε)
    (cause : FailureRef) : onError host cause w = (.done none, w) := by
  unfold onError
  rw [Effect.bind_run, Effect.get]
  dsimp only
  rw [hstream]
  rfl

/-- A failure of the connection is put on the exchange that is to blame. -/
theorem onError_blames (h : w.Possible) (hblamed : w.blamed? = some e) (host : Host κ ε)
    (cause : FailureRef) :
    ∃ task w', onError host cause w = (.done task, w') ∧ w.Blames cause e task w' := by
  obtain ⟨stream, hstream⟩ : ∃ stream, w.channel.stream = some stream := by
    refine Option.ne_none_iff_exists'.1 fun hnone => ?_
    cases (blamed?_eq_none hnone).symm.trans hblamed
  cases hactive : w.channel.active with
  | some active =>
    obtain rfl := Option.some.inj ((blamed?_of_active hstream hactive).symm.trans hblamed)
    cases herror : active.error with
    | none =>
      exact ⟨_, _, onError_of_unfailed h.sound hactive herror cause,
        h.blames_storeFailure hactive herror cause⟩
    | some stored =>
      refine ⟨none, { w with failures := w.failures.suppress stored cause }, ?_,
        h.blames_suppress hactive herror cause⟩
      simp only [onError, failActive, Effect.bind_run, Effect.get, hstream, hactive, herror]
      rfl
  | none =>
    obtain rfl := Option.some.inj ((blamed?_of_idle hstream hactive).symm.trans hblamed)
    obtain ⟨w₁, hrun, h₁, hactive₁, hqueue, hdeeds, -, -, -, hothers⟩ :=
      h.activate hstream hactive host .bare
    have hblames := h₁.blames_storeFailure hactive₁ rfl cause
    have hnew : (w.exchange ⟨w.exchanges.size⟩).failure = none :=
      congrArg Exchange.failure (exchange_of_size_le (w := w) (Nat.le_refl w.exchanges.size))
    have hnew₁ : (w₁.exchange ⟨w.exchanges.size⟩).failure = none :=
      h₁.failure_eq ((activeFor?_eq_some w₁).2 ⟨hactive₁, rfl⟩)
    have hunfailed : onError host cause w =
        (.done (if w.channelQueue.draining then none else some (.drain .channel)),
          w₁.storeFailure (.fresh ⟨w.exchanges.size⟩) cause) := by
      simp only [onError, Effect.bind_run, Effect.get, hstream, hactive, hrun]
      rw [failActive_of_unfailed rfl, hqueue]
    refine ⟨_, _, hunfailed, hblames.active, ?_, fun _ => ⟨rfl, ?_⟩, fun f hf => ?_,
      fun g hne => ?_⟩
    · rw [hnew]
      exact hblames.stored.trans (congrArg (Option.or · (some cause)) hnew₁)
    · obtain ⟨-, told, htold⟩ := hblames.first hnew₁
      have hoffered : w₁.offeredTo .channel = w.offeredTo .channel := log_eq_of_deeds _ hdeeds
      rw [← hoffered]
      exact ⟨told, htold⟩
    · cases hnew.symm.trans hf
    · exact (hblames.others g hne).trans (hothers g hne)

/-- A request whose target is rejected makes an exchange active, and gives back the task of failing
what is active. -/
theorem onRequest_of_rejected (h : w.Possible) {stream : Stream}
    (hstream : w.channel.stream = some stream) (hidle : w.channel.active = none)
    {request : RequestHead} {fault : PathFault}
    (hfault : w.channel.config.compliance.validate request = some fault) (host : Host κ ε) :
    ∃ w₁, onRequest host request w =
        (.done (.ok ⟨"bad-message", .abort w.failures.next⟩), w₁) ∧ w₁.Possible ∧
      w₁.activeFor? ⟨w.exchanges.size⟩ = some (.fresh ⟨w.exchanges.size⟩) ∧
      (w₁.failures.get w.failures.next).error = .badRequest fault.message := by
  obtain ⟨w₁, hrun, h₁, hactive, -, -, hfailures, hconfig, -, -⟩ :=
    h.activate hstream hidle host request
  let w₂ := (w₁.modifyChannel fun c => { c with requests := c.requests + 1 }).addFailure
    (.badRequest fault.message)
  have hsteps : Course (fun _ => True) w₁ w₂ := .tail (.single .count) (.addFailure _)
  refine ⟨w₂, ?_, h₁.course hsteps, ?_, ?_⟩
  · simp only [onRequest, Effect.bind_run, Effect.get, hstream, hidle, hrun,
      Option.isSome_none, Bool.false_eq_true, if_false, hfault]
    rw [← hfailures]
    rfl
  · exact (activeFor?_eq_some w₂).2 ⟨hactive, rfl⟩
  · show ((w₁.failures.add _).get w.failures.next).error = _
    rw [← hfailures, Failures.get_add_next]

end Channel

/-- No exchange is forgotten on the way. -/
theorem World.Course.size_le {A : ExchangeRef → Prop} {w' : World κ ε} (hcourse : Course A w w')
    (h : w.Possible) : w.exchanges.size ≤ w'.exchanges.size := by
  induction hcourse with
  | refl => exact Nat.le_refl _
  | tail hc hstep ih =>
    have hbounded := hstep.bounded (h.course hc).sound.bounded
    exact Nat.le_trans ih hbounded.1

/-- **A rejected target fails what is active.** A request whose target is rejected makes an exchange
active, and gives back a task with a failure of its own. Whatever happens after that and whenever the
task is run: without a stream it does nothing. With one, its failure is put on one exchange, where
it is stored and delivered, or suppressed by the failure that is stored there, and all other
exchanges are left alone. That is its own exchange exactly if that is still active. If that has
ended, and a stream is attached, it is another one: the one that is active meanwhile, or one that is
made up. -/
theorem rejected_target_fails_active (hw : Reachable w) {stream : Stream}
    (hstream : w.channel.stream = some stream) (hidle : w.channel.active = none)
    {request : RequestHead} {fault : PathFault}
    (hfault : w.channel.config.compliance.validate request = some fault) (host : Host κ ε) :
    let e : ExchangeRef := ⟨w.exchanges.size⟩
    let cause := w.failures.next
    ∃ w₁, Channel.onRequest host request w = (.done (.ok ⟨"bad-message", .abort cause⟩), w₁) ∧
      w₁.activeFor? e = some (.fresh e) ∧
      (w₁.failures.get cause).error = .badRequest fault.message ∧
      ∀ (β : Type) (m : Engine κ ε β) (host' : Host κ ε), Permitted m →
        let w₂ := (m w₁).2
        (w₂.blamed? = none → Job.perform host' (.abort cause) w₂ = (.done (), w₂)) ∧
        (∀ g, w₂.blamed? = some g → ∃ task w₃, w₂.Blames cause g task w₃ ∧
          Job.perform host' (.abort cause) w₂ =
            (match task with
              | some task => host'.perform task.job
              | none => pure ()) w₃) ∧
        (w₂.blamed? = some e ↔ (w₂.activeFor? e).isSome = true) ∧
        ((∃ g, g ≠ e ∧ w₂.blamed? = some g) ↔
          w₂.channel.stream.isSome = true ∧ w₂.activeFor? e = none) := by
  intro e cause
  obtain ⟨w₁, hrun, h₁, hactive, herror⟩ :=
    Channel.onRequest_of_rejected hw.possible hstream hidle hfault host
  refine ⟨w₁, hrun, hactive, herror, fun β m host' hm => ?_⟩
  intro w₂
  have h₂ : w₂.Possible := h₁.course (hm.runs w₁ h₁.sound)
  have hlt : e.index < w₂.exchanges.size := by
    have hlt₁ := h₁.sound.index_lt_of_active hactive
    exact Nat.lt_of_lt_of_le hlt₁ (Course.size_le (hm.runs w₁ h₁.sound) h₁)
  refine ⟨fun hnone => ?_, fun g hg => ?_, h₂.blamed_own_iff hlt, h₂.blamed_other_iff hlt⟩
  · have hstreamless := blamed?_eq_none_iff.1 hnone
    show Job.abortNow host' cause w₂ = _
    unfold Job.abortNow
    rw [Effect.bind_run, Channel.onError_of_streamless hstreamless]
    rfl
  · obtain ⟨task, w₃, herrored, hblames⟩ := Channel.onError_blames h₂ hg host' cause
    refine ⟨task, w₃, hblames, ?_⟩
    show Job.abortNow host' cause w₂ = _
    refine (Effect.bind_of_done herrored).trans ?_
    cases task <;> rfl

/-- The head of a request with an escaped slash in its path. -/
def RequestHead.ambiguous : RequestHead :=
  { RequestHead.bare with target := ⟨none, [], Octets.ofString "/a/%2F/b", none⟩ }

/-- A stream is attached. -/
def attachFirst : Engine Unit Unit Unit := do
  let _ ← Channel.setStream (.transport ⟨0⟩)

/-- The exchange fails and ends, another stream is attached, and a request arrives on it. -/
def replaceExchange : Engine Unit Unit Unit := do
  let lost ← Engine.newFailure (.transport "lost")
  let _ ← Channel.onError (Host.idle 3) lost
  Job.perform (Host.idle 3) (.drain .channel)
  let _ ← Channel.setStream (.transport ⟨1⟩)
  let _ ← Channel.onRequest (Host.idle 3) .bare

/-- A rejected target whose exchange fails and is replaced by the next one before its task is run:
the task fails the next one. -/
theorem rejected_target_fails_successor :
    ∃ w₁, Channel.onRequest (Host.idle 3) .ambiguous (World.after attachFirst) =
        (.done (.ok ⟨"bad-message", .abort ⟨0⟩⟩), w₁) ∧
      ∃ task w₃, (replaceExchange w₁).2.Blames ⟨0⟩ ⟨1⟩ task w₃ := by
  have hpermitted : Permitted attachFirst := .bind (.setStream _) fun _ => .pure ()
  have hidle₃ : ∃ depth, Surroundings depth (Host.idle 3 : Host Unit Unit) :=
    ⟨3, surroundings_idle 3⟩
  have hreplace : Permitted replaceExchange :=
    .bind (.newFailure _) fun _ => .bind (.onError _ hidle₃) fun _ =>
    .bind (.perform _ hidle₃) fun _ => .bind (.setStream _) fun _ =>
    .bind (.onRequest _ hidle₃) fun _ => .pure ()
  have hstream : (World.after attachFirst).channel.stream = some (.transport ⟨0⟩) := by
    decide +kernel
  have hidle : (World.after attachFirst).channel.active = none := by
    rw [← Option.isNone_iff_eq_none]
    decide +kernel
  have hfault : (World.after attachFirst).channel.config.compliance.validate .ambiguous =
      some .encodedSeparator := by decide +kernel
  have hblamed : (replaceExchange (Channel.onRequest (Host.idle 3) .ambiguous
      (World.after attachFirst)).2).2.blamed? = some ⟨1⟩ := by decide +kernel
  obtain ⟨w₁, hrun, -, -, hlater⟩ := rejected_target_fails_active
    hpermitted.reachable hstream hidle hfault (Host.idle 3)
  rw [hrun] at hblamed
  obtain ⟨-, hput, -, -⟩ := hlater Unit replaceExchange (Host.idle 3) hreplace
  obtain ⟨task, w₃, hblames, -⟩ := hput _ hblamed
  exact ⟨w₁, hrun, task, w₃, hblames⟩

end HttpExchange
