import HttpExchange.Proofs.Shifting

/-!
# Runs as sequences of shifts

The response side and the end of an exchange go by shifts as well. Sending, preparing heads and
editing a response are not seen at a glance, so of the response side little more has to be said than
whom it calls. The end of an exchange is what shifts are about: it leaves the channel, those who
still wait are lost, and its phase moves on, all in one go. Only where the waker of a promise is run
in between is the phase set by a shift of its own (`Glance.Shift.failAwaited`).

All that a host is made of goes by shifts too (`SurroundingsOf.shifts`). The induction is on its
depth: it is made of clients of the hosts below, and these go by shifts in whatever they do. So every
permitted run is a sequence of shifts (`PermittedOf.shifting`).

From that it follows how to prove something of every reachable state (`Reachable.glance_induct`): a
property of glances that holds of a new connection and is kept by shifts holds of every state that a
client comes to, or of the glance just before, if the run was cut off between taking a task and doing
it. `Proofs.Lifecycle` and `Proofs.WakeUps` use it, for the phases and for the bodies that wait.
-/

namespace HttpExchange

variable {κ ε α : Type} {host : Host κ ε}

open Glance World

/-! ## Writes -/

namespace Engine

/-- The head of a response is not seen at a glance. -/
theorem shifting_freezeHead (hh : host.Shifts) (e : ExchangeRef) (stream : Stream) (last : Bool) :
    Shifting (freezeHead host e stream last) := by
  refine .bind (.modifyResponse e _) fun _ => .bind (.gets _) fun r => ?_
  refine .bind (.quiet (stream.quiet_prepare hh.answers r.fields)) fun (fields, panic) => ?_
  refine .bind (.modifyResponse e _) fun _ => .bind ?_ fun _ => .bind (.gets _) fun _ => .pure _
  cases panic with
  | none => exact .pure ()
  | some p => exact .panic p

/-- Nor are sends, but they call the stream. -/
theorem shifting_sendTo (hh : host.Shifts) (e : ExchangeRef) (stream : Stream)
    (head : Option ResponseHead) (last : Bool) (callback : SendCallback κ)
    (chunks : List Octets) : Shifting (sendTo host e stream head last callback chunks) :=
  .bind (.modifyGet fun _ => rfl) fun ref => .bind (.note _) fun _ =>
    Shifting.compositional.send hh.answers _ last ref chunks stream

/-- Telling a stream the outcome calls the stream. -/
theorem shifting_tellFailed (hh : host.Shifts) (e : ExchangeRef) (stream : Stream)
    (cause : FailureRef) : Shifting (tellFailed host e stream cause) :=
  .bind (.note _) fun _ => Shifting.compositional.failed hh.answers cause stream

theorem shifting_tellSucceeded (hh : host.Shifts) (e : ExchangeRef) (stream : Stream) :
    Shifting (tellSucceeded host e stream) :=
  .bind (.note _) fun _ => Shifting.compositional.succeeded hh.answers stream

/-- Pending writes are not seen. -/
theorem shifting_takeWrite (e : ExchangeRef) :
    Shifting (takeWrite e : Engine κ ε (Option (Callback κ))) := by
  intro w _
  rw [takeWrite_run]
  exact .of_glance_eq (w.glance_dropWrite e)

/-- A refusal uses the queue. -/
theorem shifting_refuseWrite (hh : host.Shifts) (callback : Callback κ) (why : ExchangeError) :
    Shifting (refuseWrite host callback why) :=
  .bind (.newFailure why) fun _ => .bind (.enter rfl) fun _ => shifting_runQueued hh _ _

end Engine

namespace ExchangeRef

/-- An admitted write once its head is there. -/
theorem shifting_sendChecked (hh : host.Shifts) (e : ExchangeRef) (stream : Stream) (last : Bool)
    (callback : Callback κ) (chunks : List Octets) (head : Option ResponseHead) :
    Shifting (do
      match (← Engine.response e).lengthFault last with
      | none =>
        Effect.modify (·.enterSending callback)
        Engine.sendTo host e stream head last (.pendingWrite e) chunks
      | some fault =>
        Engine.note (.mismatched e)
        match ← Engine.takeWrite e with
        | some callback => Engine.refuseWrite host callback fault
        | none => pure () : Engine κ ε Unit) := by
  refine .bind (.gets _) fun r => ?_
  split
  · refine .bind (.modify fun w => w.glance_enter rfl) fun _ => ?_
    exact Engine.shifting_sendTo hh e stream head last _ chunks
  · refine .bind (.note _) fun _ => .bind (Engine.shifting_takeWrite e) fun taken => ?_
    cases taken with
    | none => exact .pure ()
    | some callback => exact Engine.shifting_refuseWrite hh callback _

/-- A write is admitted, refused or withheld, and only a refusal is seen. -/
theorem shifting_write (hh : host.Shifts) (e : ExchangeRef) (last : Bool) (callback : Callback κ)
    (chunks : List Octets) : Shifting (e.write host last callback chunks) := by
  refine .bind .get fun w => .bind (.enter rfl) fun _ => ?_
  split
  next stream active _ _ =>
    split
    · exact Engine.shifting_runQueued hh _ _
    · exact Engine.shifting_refuseWrite hh callback _
    · exact Engine.shifting_runQueued hh _ _
    next commits _ =>
      refine .bind (.modifyResponse e _) fun _ => .bind (.modifyActive fun _ => rfl) fun _ => ?_
      have hrest := e.shifting_sendChecked hh stream last callback chunks
      dsimp only
      split
      · exact .bind (.map _ (Engine.shifting_freezeHead hh e stream last)) hrest
      · exact .bind (.pure none) hrest
  · exact Engine.shifting_refuseWrite hh callback _

theorem shifting_writeAsync (hh : host.Shifts) (e : ExchangeRef) (last : Bool)
    (chunks : List Octets) : Shifting (e.writeAsync host last chunks) :=
  .bind (.modifyGet fun _ => rfl) fun _ => .bind (e.shifting_write hh last _ chunks) fun _ =>
    .pure _

/-- The renderer runs before the page is written. -/
theorem shifting_writeError (hh : host.Shifts) (e : ExchangeRef) (status : Status)
    (message : Option String) (callback : Callback κ) :
    Shifting (e.writeError host status message callback) := by
  refine .bind (.gets _) fun x => .bind (hh.answers.render _ _ _) fun (body, fields) => ?_
  refine .bind (.gets _) fun r => ?_
  split
  · exact .bind (.enter rfl) fun _ => Engine.shifting_refuseWrite hh callback _
  · exact .bind (.modifyResponse e _) fun _ => e.shifting_write hh true callback [body]

/-- A push calls the stream. -/
theorem shifting_push (hh : host.Shifts) (e : ExchangeRef) (request : RequestHead) :
    Shifting (e.push host request) := by
  refine .bind .get fun w => ?_
  split
  · exact Shifting.compositional.push hh.answers request _
  · exact .pure ()

/-- Fields are not seen, but the edit runs. -/
theorem shifting_editFields (e : ExchangeRef) {edit : Fields → Engine κ ε (α × Fields)}
    (hedit : ∀ fields, Shifting (edit fields)) : Shifting (e.editFields edit) := by
  refine .bind (.gets _) fun r => ?_
  split
  · exact .pure _
  · refine .bind (hedit _) fun (a, fields) => .bind (.gets _) fun r => ?_
    split
    · exact .pure _
    · exact .bind (.modifyResponse e _) fun _ => .pure _

theorem shifting_setContentLength (e : ExchangeRef) (length : Nat) :
    Shifting (e.setContentLength length : Engine κ ε (Except ExchangeError Unit)) := by
  refine .bind (.gets _) fun r => ?_
  split
  · exact .pure _
  · exact .bind (.modifyResponse e _) fun _ => .pure _

/-- Trailers are not seen. -/
theorem shifting_setTrailers (e : ExchangeRef) (trailers : Option Fields) :
    Shifting (Engine.modifyExchange e fun x => { x with trailers } : Engine κ ε Unit) :=
  .modifyExchange e (fun _ => rfl) fun _ => rfl

/-- The edit of trailers runs. -/
theorem shifting_editTrailers (e : ExchangeRef) {edit : Fields → Engine κ ε (α × Fields)}
    (hedit : ∀ fields, Shifting (edit fields)) : Shifting (e.editTrailers edit) := by
  refine .bind (.gets _) fun x => .bind (hedit _) fun (a, trailers) => ?_
  exact .bind (e.shifting_setTrailers _) fun _ => .pure _

theorem shifting_takeTrailers (e : ExchangeRef) :
    Shifting (e.takeTrailers : Engine κ ε (Option Fields)) :=
  .bind (.gets _) fun _ => .bind (e.shifting_setTrailers none) fun _ => .pure _

/-- What is reset is not seen. -/
theorem shifting_reset (e : ExchangeRef) :
    Shifting (e.reset : Engine κ ε (Except ExchangeError Unit)) := by
  refine .bind (.gets _) fun r => ?_
  split
  · exact .pure _
  · exact .bind (.modifyExchange e (fun _ => rfl) fun _ => rfl) fun _ => .pure _

end ExchangeRef

/-! ## The end of a send -/

/-- The end of a write has its callback told by the queue, and that of a last send tells the stream.
-/
theorem SendCallback.shifting_complete (hh : host.Shifts) (callback : SendCallback κ)
    (ref : SendRef) (result : Result) : Shifting (callback.complete host ref result) := by
  cases callback with
  | direct callback => exact Shifting.compositional.complete hh.answers callback result
  | pendingWrite e =>
    refine .bind (.note _) fun _ => .bind (Engine.shifting_takeWrite e) fun taken => ?_
    cases taken with
    | none => exact .pure ()
    | some callback => exact Engine.shifting_runQueued hh _ _
  | finalFrame e stream =>
    refine .bind (.note _) fun _ => ?_
    cases result with
    | ok _ => exact Engine.shifting_tellSucceeded hh e stream
    | error cause => exact Engine.shifting_tellFailed hh e stream cause
  | errorResponse e stream cause =>
    refine .bind (.note _) fun _ => ?_
    cases result with
    | ok _ => exact Engine.shifting_tellFailed hh e stream cause
    | error other =>
      exact .bind (.suppress cause other) fun _ => Engine.shifting_tellFailed hh e stream cause

/-- The callback of a send is taken, and called. -/
theorem SendRef.shifting_complete (hh : host.Shifts) (ref : SendRef) (result : Result) :
    Shifting (ref.complete host result) := by
  refine .bind (.modifyGet fun _ => rfl) fun callback => ?_
  cases callback with
  | none => exact .pure ()
  | some callback => exact callback.shifting_complete hh ref result

/-! ## The end of an exchange -/

namespace Engine

/-- An exchange that is over enters its last phase. -/
theorem shifting_conclude (e : ExchangeRef) : Shifting (conclude e : Engine κ ε Unit) :=
  .bind (.settle e (.inr rfl)) fun _ => .note _

/-- The stream is told the failure before that. -/
theorem shifting_terminate (hh : host.Shifts) (e : ExchangeRef) (stream : Stream)
    (cause : FailureRef) : Shifting (terminate host e stream cause) :=
  .bind (shifting_tellFailed hh e stream cause) fun _ => shifting_conclude e

/-- The error response is rendered and sent, and the exchange is over. -/
theorem shifting_sendErrorResponse (hh : host.Shifts) (e : ExchangeRef) (stream : Stream)
    (cause : FailureRef) : Shifting (sendErrorResponse host e stream cause) := by
  refine .bind (.gets _) fun page => .bind (.gets _) fun x => ?_
  refine .bind (.attempt (hh.answers.render _ _ _)) fun rendered => ?_
  cases rendered with
  | error p =>
    refine .bind (.newFailure _) fun failure => .bind (.suppress _ _) fun _ => ?_
    exact shifting_terminate hh e stream cause
  | ok given =>
    refine .bind (.modifyResponse e _) fun _ => ?_
    refine .bind (shifting_freezeHead hh e stream true) fun head => ?_
    exact .bind (shifting_sendTo hh e stream _ true _ _) fun _ => shifting_conclude e

/-- The last frame is sent, and the exchange is over. -/
theorem shifting_sendRest (hh : host.Shifts) (e : ExchangeRef) (stream : Stream)
    (head : Option ResponseHead) : Shifting (sendRest host e stream head) := by
  refine .bind (.gets _) fun r => ?_
  split
  · exact .bind (.note _) fun _ => .bind (.newFailure _) fun _ => shifting_terminate hh e stream _
  · dsimp only
    split
    · exact .bind (shifting_tellSucceeded hh e stream) fun _ => shifting_conclude e
    · exact .bind (shifting_sendTo hh e stream _ true _ _) fun _ => shifting_conclude e

theorem shifting_sendEnd (hh : host.Shifts) (e : ExchangeRef) (stream : Stream) :
    Shifting (sendEnd host e stream) := by
  refine .bind (.gets _) fun before => .bind (.modifyResponse e _) fun _ => ?_
  dsimp only
  split
  · exact .bind (.pure none) fun head => shifting_sendRest hh e stream head
  · exact .bind (.map _ (shifting_freezeHead hh e stream true)) fun head =>
      shifting_sendRest hh e stream head

/-- Whether a connection is used again is not seen. -/
theorem shifting_forbidReuse (e : ExchangeRef) : Shifting (forbidReuse e : Engine κ ε Unit) := by
  refine .bind (.gets _) fun persistent => ?_
  split
  · exact .bind (.modify fun _ => rfl) fun _ => .modifyResponse e _
  · exact .pure ()

/-- The stream discards what was not read, and the rest of the response is sent. -/
theorem shifting_succeedStream (hh : host.Shifts) (e : ExchangeRef) (stream : Stream) :
    Shifting (succeedStream host e stream) := by
  refine .bind (Shifting.compositional.consumeAll hh.answers stream) fun unread => ?_
  cases unread with
  | none => exact shifting_sendEnd hh e stream
  | some unread =>
    refine .bind (.gets _) fun error => ?_
    split
    · exact .bind (shifting_forbidReuse e) fun _ => shifting_sendEnd hh e stream
    · exact shifting_terminate hh e stream unread

/-- Before anything is sent about a failed exchange, its response may start over, and the exchange
goes on to its next phase. -/
theorem goes_failStream (hh : host.Shifts) {w w₁ : World κ ε} (hw : w.glance.Proper)
    {e : ExchangeRef} (hlt : e.index < w₁.exchanges.size)
    (h : Glance.Shifts w.glance (w₁.glance.enterPhase e .completing)) (stream : Stream)
    (cause : FailureRef) (standard : Fields) :
    w.Goes (failStream host e stream cause standard w₁) := by
  unfold failStream
  have hresponse : Engine.response e w₁ = (.done (w₁.exchange e).response, w₁) := rfl
  rw [Effect.bind_of_done hresponse]
  dsimp only
  cases (w₁.exchange e).response.committed with
  | true =>
    rw [← w₁.glance_setPhase hlt] at h
    show w.Goes (terminate host e stream cause (w₁.setPhase e .completing))
    exact .run hw h (shifting_terminate hh e stream cause)
  | false =>
    let fresh : Exchange → Exchange := fun x =>
      { x with
        response := .recycled (w₁.failures.get cause).error.status standard, trailers := none }
    have hfresh : (w₁.modifyExchange e fresh).glance = w₁.glance := by
      refine w₁.glance_modifyExchange e ?_ ?_ <;> exact fun _ => rfl
    have hlt' : e.index < (w₁.modifyExchange e fresh).exchanges.size := by
      rw [size_modifyExchange]
      exact hlt
    rw [← hfresh, ← glance_setPhase _ hlt'] at h
    show w.Goes (sendErrorResponse host e stream cause
      ((w₁.modifyExchange e fresh).setPhase e .completing))
    exact .run hw h (shifting_sendErrorResponse hh e stream cause)

end Engine

namespace ExchangeRef

/-- An exchange that succeeds is parted from the channel first. -/
theorem shifting_succeed (hh : host.Shifts) (e : ExchangeRef) : Shifting (e.succeed host) := by
  intro w hw
  cases ha : w.activeFor? e with
  | none =>
    rw [succeed_of_detached ha]
    exact .of_glance_eq rfl
  | some active =>
    by_cases hready : active.Ready
    · obtain ⟨hactive, rfl⟩ := (activeFor?_eq_some w).1 ha
      have hc := w.current_glance hactive
      have hlt : active.exchange.index < (w.detach active.exchange none).exchanges.size :=
        hw.index_lt hc
      obtain ⟨stream, hstream⟩ := Option.isSome_iff_exists.1 (hw.attached _ hc)
      have hshift : w.glance.Shift
          ((w.detach active.exchange none).setPhase active.exchange .completing).glance := by
        rw [glance_setPhase _ hlt, glance_detach, leaving_none]
        exact .succeed hc hready.demand
      rw [succeed_run ha hready hstream]
      refine .run hw (.single hshift) ?_
      exact (Engine.shifting_succeedStream hh active.exchange stream).bind fun _ => .pure _
    · obtain ⟨why, hrefused⟩ := succeed_of_unready ha hready
      rw [hrefused]
      exact .of_glance_eq rfl

/-- Somebody who waited for a promise is told while the exchange that failed is detached already,
but not at its next phase yet. -/
theorem shifting_fail (hh : host.Shifts) (e : ExchangeRef) (cause : FailureRef) :
    Shifting (e.fail host cause) := by
  intro w hw
  cases ha : w.activeFor? e with
  | none =>
    rw [fail_of_detached ha]
    exact .of_glance_eq rfl
  | some active =>
    obtain ⟨hactive, rfl⟩ := (activeFor?_eq_some w).1 ha
    have hc := w.current_glance hactive
    have hlt : active.exchange.index < (w.detach active.exchange (some cause)).exchanges.size :=
      hw.index_lt hc
    obtain ⟨stream, hstream⟩ := Option.isSome_iff_exists.1 (hw.attached _ hc)
    have hlost : ∀ job, active.demand = some job →
        ⟨.demand job, active.exchange, cause⟩ ∈ w.leaving active.exchange (some cause) := by
      intro job hjob
      exact w.mem_leaving hactive (by simp [Active.waiters, hjob]) active.exchange cause
    have hfail : w.glance.Shift ((w.detach active.exchange (some cause)).glance.enterPhase
        active.exchange .completing) := by
      rw [glance_detach]
      exact .fail cause hc hlost
    rw [fail_run ha hstream]
    cases hwrite : active.write with
    | none => exact Engine.goes_failStream hh hw hlt (.single hfail) stream cause _
    | some callback =>
      cases callback with
      | code | ignore => exact Engine.goes_failStream hh hw hlt (.single hfail) stream cause _
      | promise p =>
        have hawaited : w.glance.Shift (w.detach active.exchange (some cause)).glance := by
          rw [glance_detach]
          refine .failAwaited cause p hc hlost (w.mem_leaving hactive ?_ active.exchange cause)
          simp [Active.waiters, hwrite]
        have hdrop := Shifting.compositional.drop hh.answers (.promise p)
        refine .bind (.run hw (.single hawaited) hdrop) fun _ w₁ hrun h => ?_
        have hlt₁ : active.exchange.index < w₁.exchanges.size :=
          Nat.lt_of_lt_of_le hlt h.size_le
        exact Engine.goes_failStream hh hw hlt₁ (h.tail (.settle _ (.inl rfl))) stream cause _

/-- The handler runs, and if it fails, the exchange fails. -/
theorem shifting_dispatch (hh : host.Shifts) (e : ExchangeRef) : Shifting (e.dispatch host) := by
  refine .bind e.shifting_enableProcessing fun _ => ?_
  refine .bind (.attempt (hh.answers.handle e)) fun handled => ?_
  split
  · exact .pure ()
  · exact .bind (.newFailure _) fun _ => e.shifting_fail hh _
  · exact .bind (.newFailure _) fun _ => e.shifting_fail hh _

end ExchangeRef

/-! ## Everything that can run -/

/-- Every job goes by shifts. -/
theorem Job.shifting_perform (hh : host.Shifts) (job : Job κ) : Shifting (job.perform host) := by
  cases job with
  | code run signal => exact hh.answers.run run signal
  | wakeBody body => exact body.shifting_wake hh.answers
  | complete callback result => exact Shifting.compositional.complete hh.answers callback result
  | errorListener _ run cause => exact hh.answers.run run _
  | closeListener run cause => exact .bind (.attempt (hh.answers.run run _)) fun _ => .pure ()
  | abort cause =>
    refine .bind (Channel.shifting_onError host cause) fun task => ?_
    cases task with
    | none => exact .pure ()
    | some task => exact hh.perform task.job
  | fail e cause => exact e.shifting_fail hh cause
  | dispatch e => exact e.shifting_dispatch hh
  | drain name => exact Queue.shifting_drain hh name

/-- A client goes by shifts if the hosts that it uses do. -/
theorem ClientOf.shifting {C : Craft κ ε} {H : Host κ ε → Prop}
    (hH : ∀ host, H host → host.Shifts) {m : Engine κ ε α} (h : ClientOf C H α m) :
    Shifting m := by
  induction h with
  | pure a => exact .pure a
  | bind _ _ ihm ihf => exact .bind ihm ihf
  | panic p => exact .panic p
  | attempt _ ih => exact .attempt ih
  | halt => exact .halt
  | look => exact .get
  | keep f => exact .modify fun _ => rfl
  | newFailure error => exact .newFailure error
  | suppress f other => exact .suppress f other
  | newStream => exact .modifyGet fun _ => rfl
  | newSlot listener => exact .modifyGet fun _ => rfl
  | attach _ _ ih => exact .bind ih fun stream => Channel.shifting_setStream stream
  | onRequest request _ => exact Channel.shifting_onRequest _ request
  | onContentAvailable => exact Channel.shifting_onContentAvailable
  | onError cause _ => exact Channel.shifting_onError _ cause
  | onClose cause => exact Channel.shifting_onClose cause
  | addCloseListener listener => exact Channel.shifting_addCloseListener listener
  | wrapStream _ _ _ ih => exact Channel.shifting_wrapStream _ ih
  | endSend ref result hh => exact ref.shifting_complete (hH _ hh) result
  | perform job hh => exact job.shifting_perform (hH _ hh)
  | offer tasks => exact .modifyGet fun _ => rfl
  | enqueue task hh => exact Queue.shifting_run (hH _ hh) _ task
  | readContent e hh => exact e.shifting_readContent (hH _ hh)
  | demandContent e code hh => exact e.shifting_demandContent (hH _ hh) _
  | addErrorListener e listener hh => exact e.shifting_addErrorListener (hH _ hh) listener
  | addCompletionListener e listener _ => exact e.shifting_addCompletionListener _ listener
  | newBody e => exact fun _ _ => .of_shift (.newBody e)
  | pollBody body waker hh => exact body.shifting_poll (hH _ hh) waker
  | setStatus e status => exact .modifyResponse e _
  | editFields e _ ih => exact e.shifting_editFields ih
  | setContentLength e length => exact e.shifting_setContentLength length
  | editTrailers e _ ih => exact e.shifting_editTrailers ih
  | takeTrailers e => exact e.shifting_takeTrailers
  | reset e => exact e.shifting_reset
  | write e last callback chunks hh => exact e.shifting_write (hH _ hh) last callback chunks
  | writeAsync e last chunks hh => exact e.shifting_writeAsync (hH _ hh) last chunks
  | writeError e status message callback hh =>
    exact e.shifting_writeError (hH _ hh) status message callback
  | push e request hh => exact e.shifting_push (hH _ hh) request
  | pollPromise promise waker => exact promise.shifting_poll waker
  | forget promise => exact .modify fun _ => rfl
  | succeed e hh => exact e.shifting_succeed (hH _ hh)
  | fail e cause hh => exact e.shifting_fail (hH _ hh) cause

/-- Surroundings of every depth go by shifts. -/
theorem SurroundingsOf.shifts {C : Craft κ ε} {depth : Nat} {host : Host κ ε}
    (h : SurroundingsOf C depth host) : host.Shifts := by
  -- a host of the next depth is made of clients of the hosts below it
  induction depth generalizing host with
  | zero =>
    obtain ⟨hanswers, hperform⟩ := h
    refine ⟨hanswers.imp fun hm => hm.shifting fun _ hf => hf.elim, fun job => ?_,
      fun b => .inl (hperform _)⟩
    rw [hperform job]
    exact .halt
  | succ depth ih =>
    obtain ⟨hanswers, inner, hinner, hperform⟩ := h
    refine ⟨hanswers.imp fun hm => hm.shifting fun _ hh => ih hh, fun job => ?_, fun b => ?_⟩
    · rw [hperform job]
      exact job.shifting_perform (ih hinner)
    · exact .inr ⟨inner, (ih hinner).answers, hperform _⟩

/-- Whatever runs goes by shifts, however it makes streams. -/
theorem PermittedOf.shifting {C : Craft κ ε} {m : Engine κ ε α} (h : PermittedOf C m) :
    Shifting m :=
  ClientOf.shifting (fun _ ⟨_, hh⟩ => hh.shifts) h

/-- Before anything happened there is nothing to see. -/
def Glance.blank : Glance κ :=
  ⟨false, 0, fun _ => .created, fun _ => false, none, #[], .idle, []⟩

theorem Glance.proper_blank : (Glance.blank : Glance κ).Proper :=
  ⟨nofun, nofun, nofun, nofun, fun _ _ => rfl, .idle⟩

/-- What holds before anything happened and is kept by shifts holds of every reachable state, unless
it is one between taking a task and doing it; then it holds of the state before. -/
theorem Reachable.glance_induct {P : Glance κ → Prop} {w : World κ ε} (hw : Reachable w)
    (hblank : P .blank) (hshift : ∀ g g' : Glance κ, g.Proper → P g → g.Shift g' → P g') :
    P w.glance ∨ ∃ g, P g ∧ g.Proper ∧ g.CutOff w := by
  have hshifts : ∀ g : Glance κ, Shifts .blank g → P g ∧ g.Proper := by
    intro g hg
    induction hg with
    | refl => exact ⟨hblank, proper_blank⟩
    | tail _ hstep ih => exact ⟨hshift _ _ ih.2 ih.1 hstep, hstep.proper ih.2⟩
  cases hw with
  | intro id version config persistent outside permitted =>
    have hstart : (start (.fresh id version config persistent) outside : World κ ε).glance.Proper :=
      proper_blank
    rcases permitted.shifting _ hstart with hg | ⟨-, g, hg, hcut⟩
    · exact .inl (hshifts _ hg).1
    · exact .inr ⟨g, (hshifts g hg).1, (hshifts g hg).2, hcut⟩

/-- Every state that is reached is proper. -/
theorem Reachable.proper {w : World κ ε} (hw : Reachable w) : w.glance.Proper := by
  have hkept := hw.glance_induct (P := Glance.Proper) proper_blank
    fun _ _ _ h hshift => hshift.proper h
  rcases hkept with h | ⟨g, h, -, hcut⟩
  · exact h
  · obtain ⟨task, b, htasks, -⟩ := hcut.taken
    rw [hcut.same]
    exact h.beside _ (h.settled_leave htasks)

end HttpExchange
