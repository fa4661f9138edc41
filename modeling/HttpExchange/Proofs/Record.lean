import HttpExchange.Proofs.Update

/-!
# The life of one exchange

`Record.Move` is a state machine for a single exchange: what a step of the engine can change in its
record, and under which conditions. It speaks of nothing but the record, so what holds of a single
exchange in all runs is an invariant of this machine.

Some facts tie the records to the state they were read off (`World.Sound`): which callbacks of
sends are still to be called, and that nothing has been done for an exchange that does not exist.
`Step.move` shows that in such a state every step moves every record.
-/

namespace HttpExchange

variable {κ ε : Type}

/-- The head of a response is fixed when the first bytes are sent, with fields that the stream put
in. -/
inductive Response.HeadFixed (r : Response) (last : Bool) :
    (commits : Bool) → Response → Option ResponseHead → Prop
  | before : HeadFixed r last false r none
  | now (version : Version) (fields : Fields) :
      HeadFixed r last true { r.freeze last with fields }
        (some ⟨(r.freeze last).status.getD .ok, version, fields, (r.freeze last).committedLength⟩)

/-- The callback that ends an exchange. -/
def finalCallback (e : ExchangeRef) (stream : Stream) : Option FailureRef → SendCallback κ
  | none => .finalFrame e stream
  | some cause => .errorResponse e stream cause

/-- A callback that the engine uses for the sends of an exchange. -/
def SendCallback.IsFor (callback : SendCallback κ) (e : ExchangeRef) : Prop :=
  callback = .pendingWrite e ∨ ∃ stream cause, callback = finalCallback e stream cause

/-- A callback tells which exchange it is for. -/
theorem SendCallback.IsFor.unique {callback : SendCallback κ} {e g : ExchangeRef}
    (he : callback.IsFor e) (hg : callback.IsFor g) : e = g := by
  rcases he with he | ⟨stream, cause, he⟩ <;> rcases hg with hg | ⟨stream', cause', hg⟩
  · cases he.symm.trans hg
    rfl
  · cases cause' <;> cases he.symm.trans hg
  · cases cause <;> cases hg.symm.trans he
  · cases cause <;> cases cause' <;> cases he.symm.trans hg <;> rfl

/-- What a stream is told when the callback that ends its exchange is called. -/
def finalOutcome (e : ExchangeRef) (stream : Stream) (cause : Option FailureRef)
    (result : Result) : Deed κ :=
  match cause, result with
  | none, .ok () => .succeeded e stream
  | none, .error told => .failed e stream told
  | some told, _ => .failed e stream told

theorem HeadUsed.mono {e : ExchangeRef} {h h' : List (Deed κ)} (hu : HeadUsed e h) (hsub : h ⊆ h') :
    HeadUsed e h' :=
  hu.imp (fun ⟨s, hs⟩ => ⟨s, hsub hs⟩) (hsub ·)

namespace Record

/-- The callback of a send was not called yet. -/
def Unanswered (e : ExchangeRef) (history : List (Deed κ)) (ref : SendRef) : Prop :=
  ∀ result, .sendEnded e ref result ∉ history

/-- A send that can be told apart from those before. -/
structure NewSend (e : ExchangeRef) (history : List (Deed κ)) (ref : SendRef) : Prop where
  unused : ∀ s, .sent e s ∈ history → s.ref ≠ ref
  unanswered : Unanswered e history ref

/-- What a step can change in the record of an exchange. The moves of the call that ends the
exchange need `closing`. -/
inductive Move (e : ExchangeRef) (closing : Prop) (ρ : Record κ) : Record κ → Prop
  | stay : Move e closing ρ ρ
  | create (id : String) (request : RequestHead) (standard : Fields) : ρ.active = none →
      ρ.history = [] → Move e closing ρ ⟨.fresh id request standard, some (.fresh e), []⟩
  | edit {x : Exchange} : ρ.state.Edited x → Move e closing ρ { ρ with state := x }
  | contentAvailable {a : Active κ} : ρ.active = some a →
      Move e closing ρ { ρ with active := some { a with demand := none } }
  | storeFailure {a : Active κ} (cause : FailureRef) : ρ.active = some a → a.error = none →
      Move e closing ρ
        { ρ with
          state :=
            { ρ.state with
              failure := ρ.state.failure.or (some cause),
              phase := if a.processing then ρ.state.phase else .processing }
          active :=
            some { a with
              error := some cause, processing := true, demand := none, write := none,
              errorListeners := [] } }
  | enable {a : Active κ} : ρ.active = some a →
      Move e closing ρ
        { ρ with
          state := { ρ.state with phase := .processing }
          active := some { a with processing := true } }
  | demand {a : Active κ} (job : Job κ) : ρ.active = some a → a.error = none →
      a.processing = true → a.demand = none →
      Move e closing ρ { ρ with active := some { a with demand := some job } }
  | listenForError {a : Active κ} (listener : κ) : ρ.active = some a → a.error = none →
      Move e closing ρ
        { ρ with active := some { a with errorListeners := a.errorListeners ++ [listener] } }
  | send {a : Active κ} {last commits : Bool} (callback : Callback κ) {chunks : List Octets}
      {r : Response} {head : Option ResponseHead} {ref : SendRef} (stream : Stream) :
      ρ.active = some a → a.admission ρ.state.response last chunks = .send commits →
      (ρ.state.response.accept last chunks).HeadFixed last commits r head →
      r.lengthFault last = none → NewSend e ρ.history ref →
      Move e closing ρ ⟨{ ρ.state with response := r }, some { a with write := some callback },
        .sent e ⟨ref, stream, head, last, .pendingWrite e, chunks⟩ :: ρ.history⟩
  | withhold {a : Active κ} {last commits : Bool} {chunks : List Octets} {r : Response}
      {head : Option ResponseHead} {fault : ExchangeError} :
      ρ.active = some a → a.admission ρ.state.response last chunks = .send commits →
      (ρ.state.response.accept last chunks).HeadFixed last commits r head →
      r.lengthFault last = some fault →
      Move e closing ρ ⟨{ ρ.state with response := r }, some { a with write := none },
        .mismatched e :: ρ.history⟩
  | stick {a : Active κ} {last : Bool} (callback : Callback κ) {chunks : List Octets}
      {r : Response} {head : Option ResponseHead} :
      ρ.active = some a → a.admission ρ.state.response last chunks = .send true →
      (ρ.state.response.accept last chunks).HeadFixed last true r head →
      Move e closing ρ
        ⟨{ ρ.state with response := r }, some { a with write := some callback }, ρ.history⟩
  | answer {s : Sending κ} (result : Result) : .sent e s ∈ ρ.history →
      Unanswered e ρ.history s.ref → s.callback = .pendingWrite e →
      Move e closing ρ
        ⟨ρ.state, ρ.active.map fun a => { a with write := none },
          .sendEnded e s.ref result :: ρ.history⟩
  | answerFinal {s : Sending κ} {stream : Stream} {cause : Option FailureRef} (result : Result) :
      .sent e s ∈ ρ.history → Unanswered e ρ.history s.ref →
      s.callback = finalCallback e stream cause →
      Move e closing ρ
        { ρ with
          history :=
            finalOutcome e stream cause result :: .sendEnded e s.ref result :: ρ.history }
  | succeed {a : Active κ} (stream : Option Stream) : ρ.active = some a → a.processing = true →
      a.demand = none → a.write = none → a.error = none →
      Move e closing ρ ⟨ρ.state, none, .ended e stream none :: ρ.history⟩
  | fail {a : Active κ} (stream : Option Stream) (cause : FailureRef) : ρ.active = some a →
      Move e closing ρ ⟨ρ.state, none, .ended e stream (some cause) :: ρ.history⟩
  | complete {stream : Stream} {cause : Option FailureRef} : closing →
      ρ.Ending e (some stream) cause →
      Move e closing ρ { ρ with state := { ρ.state with phase := .completing } }
  | recycle {stream : Stream} {cause : FailureRef} (status : Status) (standard : Fields) :
      closing → ρ.Ending e (some stream) (some cause) → ρ.state.response.committed = false →
      Move e closing ρ
        { ρ with
          state :=
            { ρ.state with
              response := .recycled status standard, trailers := none, phase := .completing } }
  | mismatch {stream : Stream} {r : Response} {head : Option ResponseHead}
      {fault : ExchangeError} (cause : FailureRef) : closing → ρ.Ending e (some stream) none →
      ρ.state.phase = .completing →
      ρ.state.response.close.HeadFixed true (!ρ.state.response.committed) r head →
      r.lengthFault true = some fault →
      Move e closing ρ ⟨{ ρ.state with response := r }, none,
        .failed e stream cause :: .mismatched e :: ρ.history⟩
  | tellSuccess {stream : Stream} {r : Response} {head : Option ResponseHead} : closing →
      ρ.Ending e (some stream) none → ρ.state.phase = .completing →
      ρ.state.response.close.HeadFixed true (!ρ.state.response.committed) r head →
      r.lengthFault true = none → r.lastWritten = true →
      Move e closing ρ
        ⟨{ ρ.state with response := r }, none, .succeeded e stream :: ρ.history⟩
  | sendFinal {stream : Stream} {r : Response} {head : Option ResponseHead} {ref : SendRef} :
      closing → ρ.Ending e (some stream) none → ρ.state.phase = .completing →
      ρ.state.response.close.HeadFixed true (!ρ.state.response.committed) r head →
      r.lengthFault true = none → r.lastWritten = false → NewSend e ρ.history ref →
      Move e closing ρ ⟨{ ρ.state with response := r }, none,
        .sent e ⟨ref, stream, head, true, .finalFrame e stream, []⟩ :: ρ.history⟩
  | stickFinal {stream : Stream} {r : Response} {head : Option ResponseHead} : closing →
      ρ.Ending e (some stream) none → ρ.state.phase = .completing →
      ρ.state.response.committed = false → ρ.state.response.close.HeadFixed true true r head →
      Move e closing ρ { ρ with state := { ρ.state with response := r } }
  | tellFailure {stream : Stream} {cause : Option FailureRef} (told : FailureRef) : closing →
      ρ.Ending e (some stream) cause → ρ.state.phase = .completing →
      (∀ c, cause = some c → told = c) →
      Move e closing ρ { ρ with history := .failed e stream told :: ρ.history }
  | sendError {stream : Stream} {cause : FailureRef} (body : Octets) (fields : Fields)
      {r : Response} {head : Option ResponseHead} {ref : SendRef} : closing →
      ρ.Ending e (some stream) (some cause) → ρ.state.phase = .completing →
      ρ.state.response.committed = false →
      (ρ.state.response.overlaid body fields).HeadFixed true true r head →
      NewSend e ρ.history ref →
      Move e closing ρ ⟨{ ρ.state with response := r }, none,
        .sent e ⟨ref, stream, head, true, .errorResponse e stream cause, [body]⟩ :: ρ.history⟩
  | stickError {stream : Stream} {cause : FailureRef} (body : Octets) (fields : Fields)
      {r : Response} {head : Option ResponseHead} : closing →
      ρ.Ending e (some stream) (some cause) → ρ.state.phase = .completing →
      ρ.state.response.committed = false →
      (ρ.state.response.overlaid body fields).HeadFixed true true r head →
      Move e closing ρ { ρ with state := { ρ.state with response := r } }
  | conclude {d : Deed κ} : closing → ρ.active = none → ρ.state.phase = .completing →
      d ∈ ρ.history → d.closes = true →
      Move e closing ρ
        { ρ with
          state := { ρ.state with phase := .terminal }
          history := .concluded e :: ρ.history }

/-- As long as an exchange is active nothing was done that ends it. A head that is fixed has been
used, unless a write is pending or the exchange failed. -/
structure Unended (e : ExchangeRef) (ρ : Record κ) : Prop where
  going : ρ.active.isSome = true → ∀ d ∈ ρ.history, d.closes = false ∧
    ∀ stream cause, d ≠ .ended e stream cause
  used : ∀ a, ρ.active = some a → a.write = none → a.error = none →
    ρ.state.response.committed = true → HeadUsed e ρ.history

end Record

/-- What ties the records of exchanges to the state. -/
structure World.Sound (w : World κ ε) : Prop where
  /-- The active exchange exists, and its stream is attached. -/
  exists_active : ∀ a, w.channel.active = some a →
    a.exchange.index < w.exchanges.size ∧ w.channel.stream.isSome = true
  /-- Nothing was done for an exchange that does not exist. -/
  unborn : ∀ e, w.exchanges.size ≤ e.index → w.history e = []
  /-- For an active exchange nothing was done that ends it. -/
  unended : ∀ e, (w.record e).Unended e
  /-- A callback that is still to be called belongs to a send that was not answered. -/
  waiting : ∀ ref callback, w.sendCallback? ref = some callback → ∃ e s,
    .sent e s ∈ w.deeds ∧ s.ref = ref ∧ s.callback = callback ∧
    callback.IsFor e ∧ ∀ g result, .sendEnded g ref result ∉ w.deeds
  /-- The callback of a send that was not answered is still to be called. -/
  answerable : ∀ e s, .sent e s ∈ w.deeds →
    (∀ result, .sendEnded e s.ref result ∉ w.deeds) → w.sendCallback? s.ref = some s.callback
  /-- Sends can be told apart. -/
  distinct : ∀ e g s s', .sent e s ∈ w.deeds → .sent g s' ∈ w.deeds → s.ref = s'.ref →
    e = g ∧ s = s'
  /-- Sends are numbered. -/
  numbered : ∀ e s, .sent e s ∈ w.deeds → s.ref.index < w.sends.size
  answered : ∀ e ref result, .sendEnded e ref result ∈ w.deeds → ref.index < w.sends.size

end HttpExchange
