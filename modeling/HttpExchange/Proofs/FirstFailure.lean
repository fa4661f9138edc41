import HttpExchange.Proofs.Outcome

/-!
# The first failure of an exchange

An exchange keeps the first failure that the connection reports for it. Later failures come on
three ways: the connection reports another one, the application fails the exchange, or its handler
refuses it or panics. Only the first way looks at what is stored. The others end the exchange with
the later failure, which is then what the stream is told.

`Record.Marked` ties what is stored to how the exchange can end, `World.Recorded` is what is kept of
a suppressed failure, and `Spares` says that a computation records nothing under a failure.
-/

namespace HttpExchange

variable {κ ε α β : Type}

namespace Record

variable {e : ExchangeRef} {closing : Prop} {ρ ρ' : Record κ}

/-! ## What is stored -/

/-- As long as an exchange is active its first failure stands in both of its parts, and an exchange
with a failure does not end with success. -/
structure Marked (e : ExchangeRef) (ρ : Record κ) : Prop where
  stored : ∀ a, ρ.active = some a → a.error = ρ.state.failure
  unfailed : ∀ stream, .ended e stream none ∈ ρ.history → ρ.state.failure = none

/-- The running part and the exchange know the same failure. -/
theorem Move.stored (hm : ρ.Move e closing ρ') (hk : ρ.Marked e) {a' : Active κ}
    (ha' : ρ'.active = some a') : a'.error = ρ'.state.failure := by
  cases hm with
  | stay | answerFinal | complete | recycle | stickFinal | tellFailure | stickError | conclude =>
    exact hk.stored a' ha'
  | edit hedit =>
    rw [hedit.same]
    exact hk.stored a' ha'
  | create =>
    cases ha'
    rfl
  | contentAvailable ha | enable ha | demand _ ha | listenForError _ ha | send _ _ ha
  | withhold ha | stick _ ha =>
    cases ha'
    have hsame := hk.stored _ ha
    exact hsame
  | storeFailure cause ha herror =>
    cases ha'
    have hnone : ρ.state.failure = none := (hk.stored _ ha).symm.trans herror
    simp [hnone]
  | answer =>
    obtain ⟨a, ha, rfl⟩ := Option.map_eq_some_iff.1 ha'
    exact hk.stored a ha
  | succeed | fail | mismatch | tellSuccess | sendFinal | sendError => cases ha'

/-- An exchange that succeeded had no failure. -/
theorem Move.unfailed (hm : ρ.Move e closing ρ') (hk : ρ.Marked e) (ho : ρ.Orderly e)
    {stream : Option Stream} (hmem : .ended e stream none ∈ ρ'.history) :
    ρ'.state.failure = none := by
  cases hm with
  | stay | contentAvailable | enable | demand | listenForError | stick | complete | recycle
  | stickFinal | stickError => exact hk.unfailed stream hmem
  | create => rfl
  | edit hedit =>
    rw [hedit.same]
    exact hk.unfailed stream hmem
  | storeFailure _ ha => exact absurd hmem (ho.not_ended_of_active ha stream none)
  | succeed _ ha _ _ _ herror => exact (hk.stored _ ha).symm.trans herror
  | send | withhold | answer | fail | tellSuccess | sendFinal | tellFailure | sendError
  | conclude => exact hk.unfailed stream (List.mem_of_ne_of_mem (by nofun) hmem)
  | mismatch =>
    have hmem' := List.mem_of_ne_of_mem (by nofun) hmem
    exact hk.unfailed stream (List.mem_of_ne_of_mem (by nofun) hmem')
  | answerFinal =>
    have hmem' := List.mem_of_ne_of_mem (finalOutcome_ne_ended _ _ _ _ _).symm hmem
    exact hk.unfailed stream (List.mem_of_ne_of_mem (by nofun) hmem')

/-- Every move keeps the failure that was stored. -/
theorem Move.marked (hm : ρ.Move e closing ρ') (hk : ρ.Marked e) (ho : ρ.Orderly e) :
    ρ'.Marked e :=
  ⟨fun _ => hm.stored hk, fun _ => hm.unfailed hk ho⟩

theorem marked_new (e : ExchangeRef) : Marked e (⟨default, none, []⟩ : Record κ) :=
  ⟨nofun, fun _ h => absurd h List.not_mem_nil⟩

end Record

namespace World

open Record

variable {A : ExchangeRef → Prop} {w w' : World κ ε} {e : ExchangeRef} {f : FailureRef}
  {l : List FailureRef}

/-- The stored failure is marked in every state of a run. -/
theorem Possible.marked (h : w.Possible) (e : ExchangeRef) : (w.record e).Marked e :=
  (h.record_induct (P := fun ρ => ρ.Orderly e ∧ ρ.Marked e) e ⟨orderly_new e _, marked_new e⟩
    fun _ _ ⟨ho, hk⟩ hm => ⟨hm.orderly ho, hm.marked hk ho⟩).2

/-- The failure of an active exchange stands in two places. -/
theorem Possible.failure_eq {a : Active κ} (h : w.Possible) (ha : w.activeFor? e = some a) :
    (w.exchange e).failure = a.error :=
  ((h.marked e).stored a ha).symm

/-- The cause that a stream is told is the one that the exchange was failed with, if it was. -/
theorem Possible.told_cause (h : w.Possible) {ended : Option Stream} {stream : Stream}
    {cause told : FailureRef} (hended : .ended e ended (some cause) ∈ w.history e)
    (htold : .failed e stream told ∈ w.history e) : told = cause := by
  obtain ⟨stream', cause', hended', htells⟩ := (h.settled e).told _ htold rfl
  obtain ⟨-, heq⟩ := (h.orderly e).once _ _ _ _ hended' hended
  cases htells with
  | failed _ hcause => exact hcause cause heq

/-- A failed exchange tells the cause that it was failed with. -/
theorem Possible.ended_of_told (h : w.Possible) (hf : (w.exchange e).failure = some f)
    {stream : Stream} {told : FailureRef} (htold : .failed e stream told ∈ w.history e) :
    .ended e (some stream) (some told) ∈ w.history e := by
  obtain ⟨stream', cause, hended, htells⟩ := (h.settled e).told _ htold rfl
  cases htells with
  | failed _ hcause =>
    cases cause with
    | none =>
      -- an exchange with a stored failure does not end with success
      have hnone : (w.exchange e).failure = none := (h.marked e).unfailed _ hended
      rw [hf] at hnone
      cases hnone
    | some cause =>
      rw [hcause cause rfl]
      exact hended

/-! ## What is suppressed -/

/-- A failure exists, and these were recorded as suppressed by it. -/
def Recorded (w : World κ ε) (f : FailureRef) (l : List FailureRef) : Prop :=
  f.index < w.failures.entries.size ∧ l ⊆ w.failures.suppressed f

/-- What is recorded depends on the failures alone. -/
theorem Recorded.of_eq (h : w.Recorded f l) (heq : w'.failures = w.failures) :
    w'.Recorded f l := by
  rw [Recorded, heq]
  exact h

/-- A new failure takes nothing from the old ones. -/
theorem Recorded.addFailure (h : w.Recorded f l) (error : ExchangeError) :
    (w.addFailure error).Recorded f l := by
  refine ⟨Failures.lt_size_add h.1 error, ?_⟩
  show l ⊆ (w.failures.add error).suppressed f
  rw [Failures.suppressed_add_of_lt h.1]
  exact h.2

/-- What is suppressed is added to what was before. -/
theorem Recorded.suppress (h : w.Recorded f l) (f' other : FailureRef) :
    Recorded { w with failures := w.failures.suppress f' other } f l := by
  refine ⟨?_, ?_⟩
  · show f.index < (w.failures.suppress f' other).entries.size
    rw [Failures.size_suppress]
    exact h.1
  · show l ⊆ (w.failures.suppress f' other).suppressed f
    by_cases hf : f' = f
    · subst hf
      rw [Failures.suppressed_suppress h.1]
      split
      · exact List.subset_append_of_subset_left _ h.2
      · exact h.2
    · rw [Failures.suppressed_suppress_of_ne (Ne.symm hf)]
      exact h.2

theorem failures_offer (w : World κ ε) (name : QueueName) (tasks : List (Task κ)) :
    (w.offer name tasks).failures = w.failures := by
  cases name <;> rfl

theorem failures_tell (w : World κ ε) (p : PromiseRef) (state : PromiseState) :
    (w.tell p state).failures = w.failures := by
  unfold tell
  split <;> rfl

theorem failures_nextTask (w : World κ ε) (name : QueueName) :
    (Engine.nextTask name w).2.failures = w.failures := by
  simp only [Engine.nextTask, Effect.modifyGet]
  split <;> cases name <;> rfl

/-- A step leaves the failures alone, makes a new one, or records one as suppressed by another. -/
theorem Step.failures_cases (hstep : Step A w w') :
    w'.failures = w.failures ∨ (∃ error, w'.failures = w.failures.add error) ∨
      ∃ f other, w'.failures = w.failures.suppress f other := by
  cases hstep with
  | aside | attach | wrap | listen | unpersist | count | activate | enable | demand
  | listenForError | ignore | edit | answerLate | answerFinal | succeed | fail | complete | recycle
  | tellFailure | conclude => exact .inl rfl
  | addFailure error => exact .inr (.inl ⟨error, rfl⟩)
  | suppress f other => exact .inr (.inr ⟨f, other, rfl⟩)
  | offer | close | contentAvailable | storeFailure | demandNow | listenLate | flush
  | refuseFailed => exact .inl (failures_offer _ _ _)
  | tell p state => exact .inl (failures_tell w p state)
  | refuse _ _ _ _ _ why => exact .inr (.inl ⟨why, failures_offer _ _ _⟩)
  | next name => exact .inl (failures_nextTask w name)
  | send _ _ _ _ hfix | stick _ _ _ _ hfix | sendFinal _ _ _ hfix | stickFinal _ _ _ _ hfix
  | tellSuccess _ _ _ hfix | sendError _ _ _ _ _ _ hfix | stickError _ _ _ _ _ _ hfix =>
    exact .inl hfix.failures_eq
  | withhold callback hstream ha hadm hfix hfault =>
    rename_i e stream active last commits chunks w₁ head fault
    have hkept : ((w₁.note (.mismatched e)).dropWrite e).failures = w.failures :=
      (failures_dropWrite _ _).trans hfix.failures_eq
    exact .inr (.inl ⟨fault, (failures_offer _ _ _).trans (congrArg (Failures.add · fault) hkept)⟩)
  | answerWrite result => exact .inl ((failures_offer _ _ _).trans (failures_dropWrite _ _))
  | answerError result =>
    cases result with
    | ok _ => exact .inl rfl
    | error other => exact .inr (.inr ⟨_, other, rfl⟩)
  | mismatch hc hend hphase hfix hfault =>
    rename_i e stream w₁ head fault
    exact .inr (.inl ⟨fault, congrArg (Failures.add · fault) hfix.failures_eq⟩)

/-- What was recorded stays recorded. -/
theorem Step.recorded (hstep : Step A w w') (h : w.Recorded f l) : w'.Recorded f l := by
  rcases hstep.failures_cases with heq | ⟨error, heq⟩ | ⟨f', other, heq⟩
  · exact h.of_eq heq
  · exact (h.addFailure error).of_eq heq
  · exact (h.suppress f' other).of_eq heq

/-- What was recorded stays so. -/
theorem Course.recorded (hc : Course A w w') (h : w.Recorded f l) : w'.Recorded f l := by
  induction hc with
  | refl => exact h
  | tail _ hstep ih => exact hstep.recorded ih

end World

/-! ## What a call records -/

/-- A computation records nothing as suppressed by a failure that exists. -/
def Spares (f : FailureRef) (m : Engine κ ε α) : Prop :=
  ∀ w : World κ ε, f.index < w.failures.entries.size →
    f.index < (m w).2.failures.entries.size ∧
    (m w).2.failures.suppressed f = w.failures.suppressed f

namespace Spares

variable {f : FailureRef}

theorem pure (a : α) : Spares f (pure a : Engine κ ε α) := fun _ h => ⟨h, rfl⟩

theorem panic (p : Panic) : Spares f (Effect.panic p : Engine κ ε α) := fun _ h => ⟨h, rfl⟩

theorem gets (read : World κ ε → α) : Spares f (Effect.gets read) := fun _ h => ⟨h, rfl⟩

/-- Failures may be left alone. -/
theorem modify {change : World κ ε → World κ ε} (h : ∀ w, (change w).failures = w.failures) :
    Spares f (Effect.modify change) := by
  intro w hf
  show f.index < (change w).failures.entries.size ∧ (change w).failures.suppressed f = _
  rw [h]
  exact ⟨hf, rfl⟩

theorem modifyGet {change : World κ ε → α × World κ ε}
    (h : ∀ w, (change w).2.failures = w.failures) : Spares f (Effect.modifyGet change) := by
  intro w hf
  show f.index < (change w).2.failures.entries.size ∧ (change w).2.failures.suppressed f = _
  rw [h]
  exact ⟨hf, rfl⟩

/-- Neither part touches the failure. -/
theorem bind {m : Engine κ ε α} {k : α → Engine κ ε β} (hm : Spares f m)
    (hk : ∀ a, Spares f (k a)) : Spares f (m >>= k) := by
  intro w hf
  obtain ⟨hsize, hsame⟩ := hm w hf
  rw [Effect.bind_run]
  rcases hmw : m w with ⟨a | _ | _, w₁⟩
  · rw [hmw] at hsize hsame
    obtain ⟨hsize', hsame'⟩ := hk a w₁ hsize
    exact ⟨hsize', hsame'.trans hsame⟩
  · rw [hmw] at hsize hsame
    exact ⟨hsize, hsame⟩
  · rw [hmw] at hsize hsame
    exact ⟨hsize, hsame⟩

theorem attempt {m : Engine κ ε α} (hm : Spares f m) : Spares f (Effect.attempt m) := by
  intro w hf
  rw [Effect.snd_attempt]
  exact hm w hf

/-- A new failure is another one. -/
theorem newFailure (error : ExchangeError) :
    Spares f (Engine.newFailure error : Engine κ ε FailureRef) := by
  intro w hf
  exact ⟨Failures.lt_size_add hf error, Failures.suppressed_add_of_lt hf error⟩

/-- Another failure may suppress what it likes. -/
theorem suppress {cause : FailureRef} (hne : cause ≠ f) (other : FailureRef) :
    Spares f (Engine.suppress cause other : Engine κ ε Unit) := by
  intro w hf
  refine ⟨?_, Failures.suppressed_suppress_of_ne hne.symm other⟩
  show f.index < (w.failures.suppress cause other).entries.size
  rw [Failures.size_suppress]
  exact hf

/-- What is quiet changes no failure at all. -/
theorem of_quiet {m : Engine κ ε α} (h : Quiet m) : Spares f m := by
  intro w hf
  obtain ⟨out, hout⟩ := h w
  rw [hout]
  exact ⟨hf, rfl⟩

/-- Callbacks and the calls of streams spare a failure that the surroundings spare. -/
theorem compositional : Compositional (P := fun _ (m : Engine κ ε _) => Spares f m) where
  pure := Spares.pure
  bind := Spares.bind
  attempt := Spares.attempt
  gets := Spares.gets
  aside h _ := .modifyGet fun w => by
    obtain ⟨slots, promises, bodies, streamCount, outside, hw⟩ := (h w).same
    rw [hw]
  tell p state := .modify fun w => World.failures_tell w p state

end Spares

/-- Surroundings that record nothing as suppressed by a failure. -/
abbrev Host.Spares (f : FailureRef) (host : Host κ ε) : Prop :=
  host.Answers fun _ m => HttpExchange.Spares f m

variable {f cause : FailureRef} {host : Host κ ε}

namespace Engine

/-- Telling a stream its failure adds nothing to it. -/
theorem spares_terminate (hh : host.Spares f) (e : ExchangeRef) (stream : Stream)
    (told : FailureRef) : Spares f (terminate host e stream told) := by
  refine .bind (.bind (.modify fun _ => rfl) fun _ => ?_) fun _ => ?_
  · exact Spares.compositional.failed hh told stream
  · exact .bind (.modify fun _ => rfl) fun _ => .modify fun _ => rfl

theorem spares_freezeHead (hh : host.Spares f) (e : ExchangeRef) (stream : Stream) (last : Bool) :
    Spares f (freezeHead host e stream last) := by
  refine .bind (.modify fun _ => rfl) fun _ => .bind (.gets _) fun r => ?_
  refine .bind (.of_quiet (stream.quiet_prepare hh r.fields)) fun prepared => ?_
  refine .bind (.modify fun _ => rfl) fun _ => .bind ?_ fun _ => .bind (.gets _) fun _ => .pure _
  cases prepared.2 with
  | none => exact .pure ()
  | some p => exact .panic p

/-- A panic of the renderer is suppressed by the cause, which is another failure. -/
theorem spares_sendErrorResponse (hh : host.Spares f) (hne : cause ≠ f) (e : ExchangeRef)
    (stream : Stream) : Spares f (sendErrorResponse host e stream cause) := by
  refine .bind (.gets _) fun page => .bind (.gets _) fun x => ?_
  refine .bind (.attempt (hh.render x.request page .empty)) fun rendered => ?_
  cases rendered with
  | error p =>
    exact .bind (.newFailure _) fun _ => .bind (.suppress hne _) fun _ =>
      spares_terminate hh e stream cause
  | ok rendered =>
    refine .bind (.modify fun _ => rfl) fun _ => ?_
    refine .bind (spares_freezeHead hh e stream true) fun head => .bind ?_ fun _ => ?_
    · exact .bind (.modifyGet fun _ => rfl) fun ended => .bind (.modify fun _ => rfl) fun _ =>
        Spares.compositional.send hh _ _ ended _ stream
    · exact .bind (.modify fun _ => rfl) fun _ => .modify fun _ => rfl

theorem spares_failStream (hh : host.Spares f) (hne : cause ≠ f) (e : ExchangeRef)
    (stream : Stream) (standard : Fields) :
    Spares f (failStream host e stream cause standard) := by
  have hend : ∀ committed : Bool, Spares f (do
      setPhase e .completing
      if committed then terminate host e stream cause
      else sendErrorResponse host e stream cause : Engine κ ε Unit) := by
    refine fun committed => .bind (.modify fun _ => rfl) fun _ => ?_
    split
    · exact spares_terminate hh e stream cause
    · exact spares_sendErrorResponse hh hne e stream
  refine .bind (.gets _) fun r => ?_
  dsimp only
  split
  · exact .bind (.gets _) fun _ => .bind (.modify fun _ => rfl) fun _ => hend _
  · exact hend _

end Engine

/-- Failing an exchange records nothing as suppressed by another failure. -/
theorem ExchangeRef.spares_fail (hh : host.Spares f) (hne : cause ≠ f) (e : ExchangeRef) :
    Spares f (e.fail host cause) := by
  refine .bind (.gets _) fun active => ?_
  cases active with
  | none => exact .pure ()
  | some active =>
    refine .bind (.gets _) fun channel => .bind ?_ fun _ => ?_
    · exact .bind (.gets _) fun _ => .bind (.modify fun _ => rfl) fun _ => .modify fun _ => rfl
    · cases channel.stream with
      | none =>
        cases active.write with
        | none => exact .pure ()
        | some callback => exact .bind (Spares.compositional.drop hh callback) fun _ => .pure ()
      | some stream =>
        have hfail := Engine.spares_failStream hh hne e stream
        cases active.write with
        | none => exact hfail _
        | some callback => exact .bind (Spares.compositional.drop hh callback) fun _ => hfail _

/-! ## Later failures -/

open World

variable {w w₁ : World κ ε} {e : ExchangeRef}

/-- A failure that is reported for a failed exchange is suppressed by the stored one, and changes
nothing else. -/
theorem Channel.onError_of_failed (hs : w.Sound) {active : Active κ}
    (ha : w.activeFor? e = some active) (herror : active.error = some f) :
    Channel.onError host cause w =
      (.done none, { w with failures := w.failures.suppress f cause }) := by
  have hactive := ((activeFor?_eq_some w).1 ha).1
  obtain ⟨stream, hstream⟩ := hs.exists_stream ha
  simp only [onError, Effect.bind_run, Effect.get, hstream, hactive, failActive, herror]
  rfl

/-- What is suppressed is found with the failure that exists. -/
theorem Failures.mem_suppress {fs : Failures} (hexists : f.index < fs.entries.size)
    (hne : cause ≠ f) : cause ∈ (fs.suppress f cause).suppressed f := by
  rw [suppressed_suppress hexists]
  split
  · exact List.mem_append_right _ List.mem_cons_self
  next hknown =>
    refine Classical.not_not.1 fun hnew => hknown ⟨rfl, hne.symm, hnew⟩

/-- The error that a handler's refusal or panic is. -/
def Outcome.handlerError? : Outcome (Option String) → Option ExchangeError
  | .done (some why) => some (.application why)
  | .panicked p => some (.application p.message)
  | _ => none

/-- Calling the handler of an exchange. -/
def ExchangeRef.callHandler (host : Host κ ε) (e : ExchangeRef) : Engine κ ε (Option String) := do
  e.enableProcessing
  host.handle e

theorem ExchangeRef.runs_callHandler (hh : host.Lawful) (e : ExchangeRef) :
    Runs (e.callHandler host) :=
  .bind e.runs_enableProcessing fun _ => hh.answers.handle e

/-- A handler that refuses or panics fails its exchange with a new failure. -/
theorem ExchangeRef.dispatch_of_error {ended : Outcome (Option String)} {error : ExchangeError}
    (hrun : e.callHandler host w = (ended, w₁)) (herror : ended.handlerError? = some error) :
    e.dispatch host w = e.fail host w₁.failures.next (w₁.addFailure error) := by
  -- both begin by enabling the exchange, which is always done
  have hready : e.enableProcessing w = (.done (), (e.enableProcessing w).2) := by
    simp only [enableProcessing, Engine.activeFor?, Effect.bind_run, Effect.gets]
    split <;> rfl
  rw [callHandler, Effect.bind_run, hready] at hrun
  rw [dispatch, Effect.bind_run, hready]
  dsimp only at hrun ⊢
  rw [Effect.bind_run, Effect.attempt, hrun]
  cases ended with
  | done why =>
    cases why with
    | none => cases herror
    | some why =>
      cases herror
      rfl
  | panicked p =>
    cases herror
    rfl
  | halted => cases herror

namespace World

/-- A failure that exists is stored as the first of an exchange. -/
structure Stored (w : World κ ε) (e : ExchangeRef) (f : FailureRef) : Prop where
  failure : (w.exchange e).failure = some f
  known : f.index < w.failures.entries.size

/-- The exchange was failed with this cause. Whatever runs from here on, its stream is told no other
one. -/
def FailedWith (w : World κ ε) (e : ExchangeRef) (cause : FailureRef) : Prop :=
  ∀ (β : Type) (m : Engine κ ε β), Permitted m →
    (∃ stream, .ended e stream (some cause) ∈ (m w).2.history e) ∧
    ∀ stream told, .failed e stream told ∈ (m w).2.history e → told = cause

/-- An exchange that ended with a cause failed with it. -/
theorem Possible.failedWith (h : w.Possible) {stream : Option Stream}
    (hended : .ended e stream (some cause) ∈ w.deeds) : w.FailedWith e cause := by
  intro β m hm
  have hcourse := hm.runs w h.sound
  have hended' : .ended e stream (some cause) ∈ (m w).2.history e :=
    (mem_history _).2 ⟨(Course.deeds_suffix hcourse).subset hended, rfl⟩
  exact ⟨⟨stream, hended'⟩, fun _ _ htold => (h.course hcourse).told_cause hended' htold⟩

/-- Failing an active exchange is final. -/
theorem Possible.failedWith_fail (h : w.Possible) (hh : host.Lawful)
    (hactive : (w.activeFor? e).isSome = true) (cause : FailureRef) :
    (e.fail host cause w).2.FailedWith e cause := by
  obtain ⟨active, ha⟩ := Option.isSome_iff_exists.1 hactive
  have hcourse := ExchangeRef.course_fail hh h.sound ha cause
  have hstep : Step w.Open w (w.detach e (some cause)) := .fail cause ha
  have hended : .ended e w.channel.stream (some cause) ∈ (e.fail host cause w).2.deeds :=
    (Course.deeds_suffix hcourse).subset List.mem_cons_self
  exact ((h.course (.single hstep)).course hcourse).failedWith hended

end World

/-- **The first failure.** Of an exchange with a stored failure the stream is told that failure
exactly if the call that ended the exchange gave it as the cause. While the exchange is active,
another failure that the connection reports is recorded as suppressed by the first, for good. If the
application fails the exchange with another one instead, or its handler refuses or panics, the
exchange ends with that one, which is all that its stream is told, and which is not recorded. -/
theorem told_first_failure_iff {w : World κ ε} (hw : Reachable w) (e : ExchangeRef)
    (f : FailureRef) :
    (w.Stored e f → ∀ stream told, .failed e stream told ∈ w.history e →
      (told = f ↔ ∃ stream', .ended e stream' (some f) ∈ w.history e)) ∧
    (w.Stored e f → (w.activeFor? e).isSome = true → ∀ depth host, Surroundings depth host →
      (∀ later, later ≠ f → ∀ (β : Type) (m : Engine κ ε β), Permitted m →
        later ∈ (m (Channel.onError host later w).2).2.failures.suppressed f) ∧
      ∀ later, (e.fail host later w).2.FailedWith e later ∧
        (later ≠ f → host.Spares f →
          (e.fail host later w).2.failures.suppressed f = w.failures.suppressed f)) ∧
    ∀ depth host, Surroundings depth host → ∀ ended error w₁, e.callHandler host w = (ended, w₁) →
      ended.handlerError? = some error → w₁.Stored e f → (w₁.activeFor? e).isSome = true →
      w₁.failures.next ≠ f ∧ (e.dispatch host w).2.FailedWith e w₁.failures.next ∧
      (host.Spares f →
        (e.dispatch host w).2.failures.suppressed f = w₁.failures.suppressed f) := by
  have h := hw.possible
  refine ⟨fun hf stream told htold => ?_, fun hf hactive depth host hh => ⟨?_, ?_⟩,
    fun depth host hh ended error w₁ hrun herror hf hactive => ?_⟩
  · have hended := h.ended_of_told hf.failure htold
    constructor
    · rintro rfl
      exact ⟨some stream, hended⟩
    · rintro ⟨stream', hended'⟩
      exact h.told_cause hended' htold
  · intro later hne β m hm
    obtain ⟨active, ha⟩ := Option.isSome_iff_exists.1 hactive
    have herror : active.error = some f := ((h.marked e).stored active ha).trans hf.failure
    have hcourse := Channel.runs_onError host later w h.sound
    rw [Channel.onError_of_failed h.sound ha herror] at hcourse ⊢
    have hpossible := h.course hcourse
    have hrecorded : Recorded { w with failures := w.failures.suppress f later } f [later] :=
      ⟨(Failures.size_suppress _ _ _).symm ▸ hf.known,
        List.cons_subset.2 ⟨Failures.mem_suppress hf.known hne, List.nil_subset _⟩⟩
    exact (Course.recorded (hm.runs _ hpossible.sound) hrecorded).2 List.mem_cons_self
  · refine fun later => ⟨h.failedWith_fail hh.lawful hactive later, fun hne hspares => ?_⟩
    exact (ExchangeRef.spares_fail hspares hne e w hf.known).2
  · have hcourse := ExchangeRef.runs_callHandler hh.lawful e w h.sound
    rw [hrun] at hcourse
    -- the refusal becomes a failure of its own, newer than the stored one
    have hadd : Step (fun _ => True) w₁ (w₁.addFailure error) := .addFailure error
    have hpossible := (h.course hcourse).course (.single hadd)
    have hne : w₁.failures.next ≠ f := by
      rintro rfl
      exact Nat.lt_irrefl _ hf.known
    rw [ExchangeRef.dispatch_of_error hrun herror]
    refine ⟨hne, hpossible.failedWith_fail hh.lawful hactive _, fun hspares => ?_⟩
    obtain ⟨hexists, hsame⟩ := Spares.newFailure error w₁ hf.known
    exact (ExchangeRef.spares_fail hspares hne e _ hexists).2.trans hsame

/-- An exchange with a stored failure that is failed with another one. -/
theorem told_second_failure :
    (World.after firstFailure).Stored ⟨0⟩ ⟨0⟩ ∧
    (ExchangeRef.fail (Host.idle 2) ⟨0⟩ ⟨1⟩ (World.after firstFailure)).2.FailedWith ⟨0⟩ ⟨1⟩ ∧
    (ExchangeRef.fail (Host.idle 2) ⟨0⟩ ⟨1⟩ (World.after firstFailure)).2.failures.suppressed ⟨0⟩ =
      [] := by
  have hstored : (World.after firstFailure).Stored ⟨0⟩ ⟨0⟩ :=
    ⟨by decide +kernel, by decide +kernel⟩
  have hactive : ((World.after firstFailure).activeFor? ⟨0⟩).isSome = true := by decide +kernel
  have hnone : (World.after firstFailure).failures.suppressed ⟨0⟩ = [] := by decide +kernel
  have hspares : (Host.idle 2 : Host Unit Unit).Spares ⟨0⟩ :=
    Host.answers_idleWith (fun _ => Spares.pure) _
  have htold := told_first_failure_iff permitted_firstFailure.reachable ⟨0⟩ ⟨0⟩
  obtain ⟨hfailed, hsame⟩ := (htold.2.1 hstored hactive 2 _ (surroundings_idle 2)).2 ⟨1⟩
  exact ⟨hstored, hfailed, (hsame nofun hspares).trans hnone⟩

end HttpExchange
