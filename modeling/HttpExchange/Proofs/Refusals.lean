import HttpExchange.Proofs.Ending

/-!
# Refused calls

Calls that can fail refuse before they change anything. Two of them, the edit of the fields and the
replacement of the stream, run code of the application between looking at the state and changing it,
and look again afterwards; whatever that code did is then all that happened. A write that is not
admitted is handed back through its callback by the queue of the channel, and that is all, too.

A refused call has no use for the stream: with streams that answer in any other way it goes as it
goes with those that are there.
-/

namespace HttpExchange

variable {κ ε α : Type}

namespace World

/-- A run of the code that makes a wrapper, on the attached stream. -/
def Transforms (transform : Stream → Engine κ ε Stream) (w w' : World κ ε) : Prop :=
  ∃ stream, w.channel.stream = some stream ∧ (transform stream w).2 = w'

/-- The calls that can fail, and the states that each of them may leave if it is refused. -/
inductive FallibleCall (w : World κ ε) : (α : Type) →
    (Host κ ε → Engine κ ε (Except ExchangeError α)) → (World κ ε → Prop) → Prop
  -- events of the connection
  | setStream (stream : Stream) : FallibleCall w Unit (fun _ => Channel.setStream stream) (· = w)
  | onRequest (request : RequestHead) :
      FallibleCall w (Task κ) (fun host => Channel.onRequest host request) (· = w)
  | wrapStream (transform : Stream → Engine κ ε Stream) :
      FallibleCall w Unit (fun host => Channel.wrapStream host transform)
        (Relation.ReflTransGen (Transforms transform) w)
  -- the request side of an exchange
  | demandContent (e : ExchangeRef) (job : Job κ) :
      FallibleCall w Unit (fun host => e.demandContent host job) (· = w)
  | addCompletionListener (e : ExchangeRef) (listener : Callback κ) :
      FallibleCall w Unit (fun host => e.addCompletionListener host listener) (· = w)
  -- the response side of an exchange
  | editFields {α : Type} (e : ExchangeRef) (edit : Fields → Engine κ ε (α × Fields)) :
      FallibleCall w α (fun _ => e.editFields edit) fun w' =>
        w' = w ∨ w' = (edit (w.exchange e).response.fields w).2
  | setContentLength (e : ExchangeRef) (length : Nat) :
      FallibleCall w Unit (fun _ => e.setContentLength length) (· = w)
  | reset (e : ExchangeRef) : FallibleCall w Unit (fun _ => e.reset) (· = w)
  -- the end of an exchange
  | succeed (e : ExchangeRef) : FallibleCall w Unit (fun host => e.succeed host) (· = w)

/-- What becomes of a write, whether or not the exchange is active. -/
def admission (w : World κ ε) (e : ExchangeRef) (last : Bool) (chunks : List Octets) : Admission :=
  match w.channel.stream, w.activeFor? e with
  | some _, some active => active.admission (w.exchange e).response last chunks
  | _, _ => .refuse .completed

end World

/-- The failure that a write is refused with, and all failures there are then: one is made up to say
why, unless it is that of the exchange. -/
def Admission.refusal? (failures : Failures) : Admission → Option (FailureRef × Failures)
  | .refuse why => some (failures.next, failures.add why)
  | .failed cause => some (cause, failures)
  | .send _ | .flush => none

/-- A computation that comes to its end is not refused. -/
def Accepts (m : Engine κ ε (Except ExchangeError α)) : Prop :=
  ∀ w why w', m w ≠ (.done (.error why), w')

namespace Accepts

/-- What returns a value refuses nothing. -/
theorem ok (a : α) : Accepts (pure (.ok a) : Engine κ ε (Except ExchangeError α)) :=
  fun _ _ _ hrun => nomatch hrun

/-- It does not matter what comes before the last call. -/
theorem bind {β : Type} {m : Engine κ ε β} {f : β → Engine κ ε (Except ExchangeError α)}
    (hf : ∀ b, Accepts (f b)) : Accepts (m >>= f) := by
  intro w why w' hrun
  obtain ⟨b, w₁, -, hrun⟩ := Effect.bind_eq_done.1 hrun
  exact hf b w₁ why w' hrun

end Accepts

namespace World

/-- If a call is refused in the state `w`, it leaves a state of the given kind. Then the call `m'`,
which is the same one with other surroundings, goes the same way. -/
def Refuses (w : World κ ε) (m m' : Engine κ ε (Except ExchangeError α))
    (kept : World κ ε → Prop) : Prop :=
  ∀ why w', m w = (.done (.error why), w') → kept w' ∧ m' w = m w

namespace Refuses

variable {w : World κ ε} {m m' : Engine κ ε (Except ExchangeError α)} {kept : World κ ε → Prop}

/-- A refusal that does nothing keeps the state. -/
theorem refuse (why : ExchangeError) :
    w.Refuses (pure (.error why) : Engine κ ε (Except ExchangeError α)) (pure (.error why))
      (· = w) := by
  intro why' w' hrun
  cases hrun
  exact ⟨rfl, rfl⟩

/-- What refuses nothing has nothing to keep. -/
theorem of_accepts (hm : Accepts m) : w.Refuses m m' kept :=
  fun why w' hrun => absurd hrun (hm w why w')

/-- Looking at the state first changes nothing. -/
theorem look {β : Type} {f : World κ ε → β} {k k' : β → Engine κ ε (Except ExchangeError α)}
    (h : w.Refuses (k (f w)) (k' (f w)) kept) :
    w.Refuses (Effect.gets f >>= k) (Effect.gets f >>= k') kept := h

end Refuses

end World

open World

variable {w w' : World κ ε} {e : ExchangeRef} {host host' : Host κ ε}

/-! ## Events of the connection -/

namespace Channel

/-- A second stream is refused before anything changes. -/
theorem refuses_setStream (stream : Stream) :
    w.Refuses (setStream stream) (setStream stream) (· = w) := by
  refine .look ?_
  split
  · exact .refuse .streamSet
  · exact .of_accepts (.bind fun _ => .bind fun _ => .ok ())

/-- A request is refused before an exchange is made for it. -/
theorem refuses_onRequest (host host' : Host κ ε) (request : RequestHead) :
    w.Refuses (onRequest host request) (onRequest host' request) (· = w) := by
  refine .look (f := id) ?_
  dsimp only [id]
  split
  · exact .refuse .noStream
  · split
    · exact .refuse .exchangeActive
    · -- an exchange is made; its target is judged too, but a task deals with it
      refine .of_accepts (.bind fun active => .bind fun _ => ?_)
      split
      · exact .ok _
      · exact .bind fun _ => .ok _

/-- If a wrapper is refused, its code was run in some rounds, and nothing else was done. -/
theorem transforms_of_refused {transform : Stream → Engine κ ε Stream} {why : ExchangeError}
    (rounds : Nat) (hrun : wrapStreamWithin transform rounds w = (.done (.error why), w')) :
    Relation.ReflTransGen (Transforms transform) w w' := by
  induction rounds generalizing w with
  | zero => cases hrun
  | succ rounds ih =>
    obtain ⟨before, w₁, hlook, hrun⟩ := Effect.bind_eq_done.1 hrun
    cases hlook
    cases hstream : w.channel.stream with
    | none =>
      simp only [hstream] at hrun
      cases hrun
      exact .refl
    | some current =>
      simp only [hstream] at hrun
      obtain ⟨wrapper, w₁, htransform, hrun⟩ := Effect.bind_eq_done.1 hrun
      have hround : Transforms transform w w₁ := ⟨current, hstream, by rw [htransform]⟩
      split at hrun
      · cases hrun
        exact .single hround
      · obtain ⟨after, w₂, hlook, hrun⟩ := Effect.bind_eq_done.1 hrun
        cases hlook
        cases hafter : w₁.channel.stream with
        | none =>
          simp only [hafter] at hrun
          cases hrun
          exact .single hround
        | some active =>
          simp only [hafter] at hrun
          split at hrun
          · cases hrun
          -- the stream was replaced meanwhile, so the wrapper is made once more
          · exact .head hround (ih hrun)

/-- If a wrapper is refused, only the code of the application has run. -/
theorem refuses_wrapStream (hpatience : host'.patience = host.patience)
    (transform : Stream → Engine κ ε Stream) :
    w.Refuses (wrapStream host transform) (wrapStream host' transform)
      (Relation.ReflTransGen (Transforms transform) w) := by
  intro why w' hrun
  refine ⟨transforms_of_refused host.patience hrun, ?_⟩
  show wrapStreamWithin transform host'.patience w = wrapStreamWithin transform host.patience w
  rw [hpatience]

end Channel

/-! ## The request side -/

namespace ExchangeRef

/-- A demand is refused before it is entered. -/
theorem refuses_demandContent (host host' : Host κ ε) (e : ExchangeRef) (job : Job κ) :
    w.Refuses (e.demandContent host job) (e.demandContent host' job) (· = w) := by
  intro why w' hrun
  rcases e.demandContent_forms job w with ⟨_, hrefused⟩ | ⟨_, -, -, -, -, htaken⟩ | htaken
  · rw [hrefused host] at hrun ⊢
    cases hrun
    exact ⟨rfl, hrefused host'⟩
  · rw [htaken host] at hrun
    exact absurd hrun (Accepts.bind (fun _ => .ok ()) _ why w')
  · rw [htaken host] at hrun
    exact absurd hrun (Accepts.bind (fun _ => .ok ()) _ why w')

/-- The listener of an active exchange gets its wrapper. The wrapper says what it wraps, and nobody
replaces the stream while it is made. -/
theorem accepts_listen (stream : Stream) (hstream : w.channel.stream = some stream) (slot : SlotRef)
    (rounds : Nat) (why : ExchangeError) (w' : World κ ε) :
    Channel.wrapStreamWithin (·.listen slot) rounds w ≠ (.done (.error why), w') := by
  intro hrun
  cases rounds with
  | zero => cases hrun
  | succ rounds =>
    obtain ⟨before, w₁, hlook, hrun⟩ := Effect.bind_eq_done.1 hrun
    cases hlook
    simp only [hstream] at hrun
    obtain ⟨wrapper, w₁, hlisten, hrun⟩ := Effect.bind_eq_done.1 hrun
    cases hlisten
    rw [if_neg (by simp [Stream.wrapped?])] at hrun
    obtain ⟨after, w₂, hlook, hrun⟩ := Effect.bind_eq_done.1 hrun
    cases hlook
    simp only [hstream, if_true] at hrun
    cases hrun

theorem refuses_addCompletionListener (hs : w.Sound) (host host' : Host κ ε) (e : ExchangeRef)
    (listener : Callback κ) :
    w.Refuses (e.addCompletionListener host listener) (e.addCompletionListener host' listener)
      (· = w) := by
  refine .look ?_
  cases ha : w.activeFor? e with
  | none => exact .refuse .completed
  | some active =>
    intro why w' hrun
    obtain ⟨stream, hstream⟩ := hs.exists_stream ha
    obtain ⟨slot, w₁, hslot, hrun⟩ := Effect.bind_eq_done.1 hrun
    cases hslot
    refine absurd hrun (accepts_listen stream ?_ _ host.patience why w')
    exact hstream

/-! ## The response side -/

/-- The fields of a fixed head are refused, before the edit or after it. -/
theorem refuses_editFields (e : ExchangeRef) (edit : Fields → Engine κ ε (α × Fields)) :
    w.Refuses (e.editFields edit) (e.editFields edit) fun w' =>
      w' = w ∨ w' = (edit (w.exchange e).response.fields w).2 := by
  intro why w' hrun
  refine ⟨?_, rfl⟩
  obtain ⟨r, w₁, hlook, hrun⟩ := Effect.bind_eq_done.1 hrun
  cases hlook
  split at hrun
  · cases hrun
    exact .inl rfl
  · obtain ⟨⟨a, fields⟩, w₁, hedit, hrun⟩ := Effect.bind_eq_done.1 hrun
    obtain ⟨r, w₂, hlook, hrun⟩ := Effect.bind_eq_done.1 hrun
    cases hlook
    dsimp only at hrun
    split at hrun
    · cases hrun
      exact .inr (by rw [hedit])
    · cases hrun

theorem refuses_setContentLength (e : ExchangeRef) (length : Nat) :
    w.Refuses (e.setContentLength length) (e.setContentLength length) (· = w) := by
  refine .look ?_
  split
  · exact .refuse .committed
  · exact .of_accepts (.bind fun _ => .ok ())

/-- A response whose head is fixed is not reset. -/
theorem refuses_reset (e : ExchangeRef) : w.Refuses e.reset e.reset (· = w) := by
  refine .look ?_
  split
  · exact .refuse .committed
  · exact .of_accepts (.bind fun _ => .ok ())

/-! ## The end of an exchange -/

/-- Success is refused before the exchange is detached. -/
theorem refuses_succeed (hs : w.Sound) (host host' : Host κ ε) (e : ExchangeRef) :
    w.Refuses (e.succeed host) (e.succeed host') (· = w) := by
  intro why w' hrun
  cases ha : w.activeFor? e with
  | none =>
    rw [succeed_of_detached ha] at hrun
    cases hrun
  | some active =>
    by_cases hready : active.Ready
    · obtain ⟨stream, hstream⟩ := hs.exists_stream ha
      rw [succeed_run ha hready hstream] at hrun
      exact absurd hrun (Accepts.bind (fun _ => .ok ()) _ why w')
    · obtain ⟨why', hrefused⟩ := succeed_of_unready ha hready
      rw [hrefused host] at hrun ⊢
      cases hrun
      exact ⟨rfl, hrefused host'⟩

variable {last : Bool} {chunks : List Octets}

/-- A write that is not admitted goes no further than saying so. -/
theorem write_of_unadmitted (w : World κ ε) (e : ExchangeRef) (last : Bool) (chunks : List Octets)
    (host : Host κ ε) (callback : Callback κ) :
    (∀ why, w.admission e last chunks = .refuse why → e.write host last callback chunks w =
      Engine.refuseWrite host callback why (w.enterWrote e callback last chunks)) ∧
    ∀ stored, w.admission e last chunks = .failed stored → e.write host last callback chunks w =
      Engine.failWrite host callback stored (w.enterWrote e callback last chunks) := by
  unfold World.admission write
  simp only [Effect.bind_run, Effect.get, Engine.enter, Effect.modify]
  cases hstream : w.channel.stream with
  | none =>
    refine ⟨?_, nofun⟩
    rintro _ ⟨⟩
    rfl
  | some stream =>
    cases ha : w.activeFor? e with
    | none =>
      refine ⟨?_, nofun⟩
      rintro _ ⟨⟩
      rfl
    | some active =>
      constructor <;> intro _ h
      · simp only [h]
        rfl
      · simp only [h]
        rfl

/-- A write that is not admitted is handed back by the queue of the channel. Before that it is
entered, and the failure is made up that says why. -/
theorem write_of_refusal {cause : FailureRef} {failures : Failures}
    (h : (w.admission e last chunks).refusal? w.failures = some (cause, failures))
    (callback : Callback κ) :
    ∃ ledger, ∀ host : Host κ ε, e.write host last callback chunks w =
      Queue.run host .channel ⟨"write-failure", .complete callback (.error cause)⟩
        { w with failures, ledger } := by
  cases hadm : w.admission e last chunks with
  | send commits =>
    rw [hadm] at h
    cases h
  | flush =>
    rw [hadm] at h
    cases h
  | refuse why =>
    rw [hadm] at h
    cases h
    exact ⟨_, fun host => (write_of_unadmitted w e last chunks host callback).1 why hadm⟩
  | failed stored =>
    rw [hadm] at h
    cases h
    exact ⟨_, fun host => (write_of_unadmitted w e last chunks host callback).2 _ hadm⟩

end ExchangeRef

/-- **Refused calls change nothing.** A call that can fail and does so leaves the state that it
found, and whatever code of the application ran meanwhile did is then all that was done; the streams
have no part in it, so it goes the same way whatever they would do. A write that is not admitted has
its callback told by the queue of the channel, in a state that differs from the one it was called in
by the records of failures and waiters only. -/
theorem refused_unchanged {w : World κ ε} (hw : Reachable w) :
    (∀ {α : Type} {op : Host κ ε → Engine κ ε (Except ExchangeError α)} {kept : World κ ε → Prop},
      w.FallibleCall α op kept → ∀ host host' : Host κ ε, host'.patience = host.patience →
        ∀ why w', op host w = (.done (.error why), w') → kept w' ∧ op host' w = op host w) ∧
    ∀ e last chunks cause failures,
      (w.admission e last chunks).refusal? w.failures = some (cause, failures) →
      ∀ callback, ∃ ledger, ∀ host : Host κ ε, e.write host last callback chunks w =
        Queue.run host .channel ⟨"write-failure", .complete callback (.error cause)⟩
          { w with failures, ledger } := by
  refine ⟨fun hcall host host' hpatience => ?_, fun e last chunks cause failures h callback =>
    e.write_of_refusal h callback⟩
  cases hcall with
  | setStream stream => exact Channel.refuses_setStream stream
  | onRequest request => exact Channel.refuses_onRequest host host' request
  | wrapStream transform => exact Channel.refuses_wrapStream hpatience transform
  | demandContent e job => exact e.refuses_demandContent host host' job
  | addCompletionListener e listener =>
    exact e.refuses_addCompletionListener hw.possible.sound host host' listener
  | editFields e edit => exact e.refuses_editFields edit
  | setContentLength e length => exact e.refuses_setContentLength length
  | reset e => exact e.refuses_reset
  | succeed e => exact e.refuses_succeed hw.possible.sound host host'

/-- An exchange that waits for content and for the end of a write neither succeeds nor takes another
write. -/
theorem refused_unchanged_allWaiting :
    let w := World.afterNumbered allWaiting
    (∀ host : Host Nat Unit, host.patience = 4 →
      ExchangeRef.succeed host ⟨0⟩ w = (.done (.error .demandPending), w)) ∧
    ∃ ledger, ∀ host : Host Nat Unit, ExchangeRef.write host ⟨0⟩ true (.code 7) [[33]] w =
      Queue.run host .channel ⟨"write-failure", .complete (.code 7) (.error w.failures.next)⟩
        { w with failures := w.failures.add .writePending, ledger } := by
  intro w
  obtain ⟨hcalls, hwrites⟩ := refused_unchanged permitted_allWaiting.reachable_numbered
  constructor
  · intro host hpatience
    have hended : (ExchangeRef.succeed (Host.idle 2) ⟨0⟩ w).1 = .done (.error .demandPending) := by
      rfl
    have hrun : ExchangeRef.succeed (Host.idle 2) ⟨0⟩ w =
        (.done (.error .demandPending), (ExchangeRef.succeed (Host.idle 2) ⟨0⟩ w).2) :=
      Prod.ext hended rfl
    obtain ⟨hkept, hsame⟩ := hcalls (.succeed ⟨0⟩) (Host.idle 2) host hpatience _ _ hrun
    rw [hsame, hrun, hkept]
  · refine hwrites ⟨0⟩ true [[33]] w.failures.next _ ?_ (.code 7)
    have hadm : w.admission ⟨0⟩ true [[33]] = .refuse .writePending := by rfl
    rw [hadm]
    rfl

end HttpExchange
