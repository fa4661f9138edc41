import HttpExchange.Proofs.Runs

/-!
# Writes as sequences of steps

A write is one step up to the call of the stream: the admission, the fixing of the head on the
first occasion, and the check of the length happen without the surroundings taking part, because a
stream that prepares a head is quiet. The callback of a send is taken out before it is used, so it
is used once.

That a write is one step is what later invariants need. Between the admission and the send the flags
of the response are ahead of what was sent, and nobody sees them then. The changes are put together
along the way the engine takes (`takesIn_send`, `takesIn_write`): each way out ends in the step that
has its name, and only the sent write goes on with a call of the stream, which is for the
surroundings.

The callback of a send is the other place where writes are touched. Which write it answers is not
known to it; the step says only that the pending write was taken, if there was one. That it is the
right one is shown in `Proofs.Attribution`.
-/

namespace HttpExchange

variable {κ ε : Type} {host : Host κ ε}

open World

/-! ## The head -/

namespace Engine

/-- The response of an exchange after its head was fixed. -/
theorem response_fixHead {w : World κ ε} {e : ExchangeRef} (hlt : e.index < w.exchanges.size)
    (last : Bool) (outside : ε) (fields : Fields) :
    ((w.fixHead e last outside fields).exchange e).response =
      { (w.exchange e).response.freeze last with fields } :=
  congrArg (·.response) (exchange_modifyExchange_self w hlt _)

theorem headOf_fixHead {w : World κ ε} {e : ExchangeRef} (hlt : e.index < w.exchanges.size)
    (last : Bool) (outside : ε) (fields : Fields) :
    (w.fixHead e last outside fields).headOf e =
      ⟨((w.exchange e).response.freeze last).status.getD .ok, w.channel.version, fields,
        ((w.exchange e).response.freeze last).committedLength⟩ := by
  rw [headOf, response_fixHead hlt]
  rfl

/-- Fixing a head is to have the stream prepare the fields of the frozen response. -/
theorem freezeHead_eq {w : World κ ε} {e : ExchangeRef} (hlt : e.index < w.exchanges.size)
    (stream : Stream) (last : Bool) :
    freezeHead host e stream last w =
      (stream.prepare host ((w.exchange e).response.freeze last).fields >>= fun prepared => do
        modifyResponse e fun x => { x with fields := prepared.1 }
        Effect.unwindWith prepared.2
        let version ← Effect.gets fun w => w.channel.version
        return ⟨((w.exchange e).response.freeze last).status.getD .ok, version, prepared.1,
          ((w.exchange e).response.freeze last).committedLength⟩)
        (w.modifyResponse e (·.freeze last)) := by
  have hresponse : ((w.modifyResponse e (·.freeze last)).exchange e).response =
      (w.exchange e).response.freeze last :=
    congrArg (·.response) (exchange_modifyExchange_self w hlt _)
  rw [← hresponse]
  rfl

/-- The fields that a stream prepared are put in. -/
theorem fixHead_eq (w : World κ ε) (e : ExchangeRef) (last : Bool) (outside : ε)
    (fields : Fields) :
    World.modifyResponse { w.modifyResponse e (·.freeze last) with outside } e
      (fun x => { x with fields }) = w.fixHead e last outside fields := by
  have htwice := modifyExchange_modifyExchange w e
    (fun x => { x with response := x.response.freeze last })
    fun x => { x with response := { x.response with fields } }
  exact congrArg (fun v : World κ ε => { v with outside }) htwice

/-- A stream that is done preparing the fields gives the head. -/
theorem freezeHead_of_prepared {w : World κ ε} {e : ExchangeRef} (hlt : e.index < w.exchanges.size)
    {stream : Stream} {last : Bool} {fields : Fields} {outside : ε}
    (hprep : stream.prepare host ((w.exchange e).response.freeze last).fields
      (w.modifyResponse e (·.freeze last)) =
        (.done (fields, none), { w.modifyResponse e (·.freeze last) with outside })) :
    freezeHead host e stream last w =
      (.done ((w.fixHead e last outside fields).headOf e), w.fixHead e last outside fields) := by
  rw [freezeHead_eq hlt, Effect.bind_of_done hprep, headOf_fixHead hlt, ← fixHead_eq]
  rfl

/-- Fixing a head either gives the head, or is cut off after it was fixed. -/
theorem freezeHead_cases (hh : host.Lawful) {w : World κ ε} {e : ExchangeRef}
    (hlt : e.index < w.exchanges.size) (stream : Stream) (last : Bool) :
    ∃ outside fields,
      freezeHead host e stream last w = (.done ((w.fixHead e last outside fields).headOf e),
        w.fixHead e last outside fields) ∨
      (∃ p, freezeHead host e stream last w = (.panicked p, w.fixHead e last outside fields)) ∨
      freezeHead host e stream last w = (.halted, w.fixHead e last outside fields) := by
  -- a head whose stream panics before it gives any fields keeps those it has
  have hcut : ∀ outside, { w.modifyResponse e (·.freeze last) with outside } =
      w.fixHead e last outside ((w.exchange e).response.freeze last).fields := by
    intro outside
    refine congrArg (fun v : World κ ε => { v with outside }) ?_
    exact modifyExchange_congr w e rfl
  obtain ⟨outside, hout⟩ := stream.quiet_prepare hh.answers
    ((w.exchange e).response.freeze last).fields (w.modifyResponse e (·.freeze last))
  rcases hprep : stream.prepare host ((w.exchange e).response.freeze last).fields
    (w.modifyResponse e (·.freeze last)) with ⟨⟨fields, panic⟩ | p | _, w₁⟩
  · rw [hprep] at hout
    subst hout
    refine ⟨outside, fields, ?_⟩
    cases panic with
    | none => exact .inl (freezeHead_of_prepared hlt hprep)
    | some p =>
      refine .inr (.inl ⟨p, ?_⟩)
      rw [freezeHead_eq hlt, Effect.bind_of_done hprep, ← fixHead_eq]
      rfl
  · rw [hprep] at hout
    subst hout
    rw [freezeHead_eq hlt, Effect.bind_run, hprep]
    exact ⟨outside, _, .inr (.inl ⟨p, congrArg (Prod.mk _) (hcut outside)⟩)⟩
  · rw [hprep] at hout
    subst hout
    rw [freezeHead_eq hlt, Effect.bind_run, hprep]
    exact ⟨outside, _, .inr (.inr (congrArg (Prod.mk _) (hcut outside)))⟩

/-- A computation that fixes a head and goes on with it. -/
theorem bind_freezeHead {α : Type} {P : World κ ε → Prop} (hh : host.Lawful) {w : World κ ε}
    {e : ExchangeRef} (hlt : e.index < w.exchanges.size) {stream : Stream} {last : Bool}
    {rest : ResponseHead → Engine κ ε α}
    (hstick : ∀ w₁ head, w.HeadFixed e last true w₁ head → P w₁)
    (hrest : ∀ w₁ head, w.HeadFixed e last true w₁ (some head) → P (rest head w₁).2) :
    P ((freezeHead host e stream last >>= rest) w).2 := by
  obtain ⟨outside, fields, hrun⟩ := freezeHead_cases hh hlt stream last
  rw [Effect.bind_run]
  rcases hrun with hrun | ⟨p, hrun⟩ | hrun
  · rw [hrun]
    exact hrest _ _ (.now outside fields)
  · rw [hrun]
    exact hstick _ _ (.now outside fields)
  · rw [hrun]
    exact hstick _ _ (.now outside fields)

/-- Bytes are handed to a stream in one step, and the stream goes on. -/
theorem course_sendTo {A : ExchangeRef → Prop} (hh : host.Lawful) {w w₁ : World κ ε}
    (hs : w.Sound) (hA : ∀ e, w.Open e → A e) {e : ExchangeRef} {stream : Stream}
    {head : Option ResponseHead} {last : Bool} {callback : SendCallback κ} {chunks : List Octets}
    (h : Course A w
      (w₁.handOver e ⟨⟨w₁.sends.size⟩, stream, head, last, callback, chunks⟩)) :
    Course A w (sendTo host e stream head last callback chunks w₁).2 := by
  have hrun := Course.run h hs hA
    (Runs.compositional.send hh.answers (head.map (·, e)) last ⟨w₁.sends.size⟩ chunks stream)
  exact hrun

end Engine

/-! ## Changes of what is prepared -/

theorem Exchange.Edited.of_response {x : Exchange} {r : Response}
    (hr : r = { x.response with status := r.status, fields := r.fields })
    (hfixed : x.response.committed = true → r = x.response) :
    Exchange.Edited x { x with response := r } :=
  ⟨by rw [← hr], hfixed⟩

theorem Exchange.Edited.of_trailers (x : Exchange) (trailers : Option Fields) :
    Exchange.Edited x { x with trailers } := ⟨rfl, fun _ => rfl⟩

namespace ExchangeRef

theorem runs_setStatus (e : ExchangeRef) (status : Status) :
    Runs (e.setStatus status : Engine κ ε Unit) := by
  refine .modify fun w _ => .edit e _ (.of_response ?_ fun hcommitted => if_pos hcommitted)
  dsimp only
  split <;> rfl

theorem step_editResponse {A : ExchangeRef → Prop} {w : World κ ε} {e : ExchangeRef}
    (f : Response → Response) (hopen : (w.exchange e).response.committed = false)
    (hf : ∀ r, f r = { r with status := (f r).status, fields := (f r).fields }) :
    Step A w (w.modifyResponse e f) :=
  .edit e _ (.of_response (hf _) fun hcommitted => by rw [hopen] at hcommitted; cases hcommitted)

theorem runs_editFields {α : Type} (e : ExchangeRef) {edit : Fields → Engine κ ε (α × Fields)}
    (hedit : ∀ fields, Runs (edit fields)) : Runs (e.editFields edit) := by
  refine .bind (.gets _) fun r => ?_
  split
  · exact .pure _
  · refine .bind (hedit _) fun (a, fields) w hs => Course.bind_done rfl ?_
    dsimp only
    split
    · exact .refl
    next hopen =>
      have hopen' : (w.exchange e).response.committed = false := by simpa using hopen
      exact .single (step_editResponse (fun r => { r with fields }) hopen' fun _ => rfl)

theorem runs_setContentLength (e : ExchangeRef) (length : Nat) :
    Runs (e.setContentLength length : Engine κ ε (Except ExchangeError Unit)) := by
  refine fun w hs => Course.bind_done rfl ?_
  dsimp only
  split
  · exact .refl
  next hopen =>
    have hopen' : (w.exchange e).response.committed = false := by simpa using hopen
    exact .single (step_editResponse
      (fun r => { r with fields := r.fields.insert .contentLength (.ofNat length) }) hopen'
      fun _ => rfl)

theorem runs_editTrailers {α : Type} (e : ExchangeRef) {edit : Fields → Engine κ ε (α × Fields)}
    (hedit : ∀ fields, Runs (edit fields)) : Runs (e.editTrailers edit) := by
  refine .bind (.gets _) fun x => .bind (hedit _) fun (a, trailers) => ?_
  refine .bind (.modify fun w _ => ?_) fun _ => .pure _
  exact .edit e _ (.of_trailers _ _)

theorem runs_takeTrailers (e : ExchangeRef) :
    Runs (e.takeTrailers : Engine κ ε (Option Fields)) := by
  refine .bind (.gets _) fun x => .bind (.modify fun w _ => ?_) fun _ => .pure _
  exact .edit e _ (.of_trailers _ _)

theorem runs_reset (e : ExchangeRef) :
    Runs (e.reset : Engine κ ε (Except ExchangeError Unit)) := by
  refine fun w hs => Course.bind_done rfl ?_
  dsimp only
  split
  · exact .refl
  next hopen =>
    refine .single (.edit e _ ⟨rfl, fun hcommitted => ?_⟩)
    exact absurd hcommitted hopen

end ExchangeRef

/-! ## Writes -/

namespace World

variable {w w₁ : World κ ε} {e : ExchangeRef}

theorem activeFor?_accept {active : Active κ} (ha : w.activeFor? e = some active) (last : Bool)
    (callback : Callback κ) (chunks : List Octets) :
    (w.accept e last callback chunks).activeFor? e =
      some { active with write := some callback } := by
  rw [accept, activeFor?_modifyActive]
  · show (w.activeFor? e).map _ = _
    rw [ha]
    rfl
  · exact fun _ => rfl

theorem HeadFixed.activeFor?_eq {last commits : Bool} {head : Option ResponseHead}
    (h : w.HeadFixed e last commits w₁ head) (g : ExchangeRef) :
    w₁.activeFor? g = w.activeFor? g := by
  simp only [activeFor?, h.channel_eq]

end World

/-- A write that has nothing to send comes after the head is fixed, and is not the last. -/
theorem Active.admission_eq_flush {active : Active κ} {r : Response} {last : Bool}
    {chunks : List Octets} (h : active.admission r last chunks = .flush) :
    last = false ∧ chunks = [] ∧ r.committed = true := by
  unfold Active.admission at h
  split at h
  · cases h
  · split at h
    · cases h
    · split at h
      · cases h
      · split at h
        · cases h
        · split at h
          next hflush =>
            rw [Bool.and_eq_true, Bool.and_eq_true, List.isEmpty_iff] at hflush
            obtain ⟨⟨hchunks, hlast⟩, hcommitted⟩ := hflush
            exact ⟨by simpa using hlast, hchunks, hcommitted⟩
          next => cases h

/-- A write that is told a stored failure is told that of its exchange. -/
theorem Active.admission_eq_failed {active : Active κ} {r : Response} {last : Bool}
    {chunks : List Octets} {cause : FailureRef}
    (h : active.admission r last chunks = .failed cause) : active.error = some cause := by
  unfold Active.admission at h
  split at h
  · cases h
  · split at h
    · cases h
    · split at h
      next stored herror =>
        cases h
        exact herror
      next =>
        split at h
        · cases h
        · split at h <;> cases h

/-- Taking the callback of a pending write. -/
theorem Engine.takeWrite_run (w : World κ ε) (e : ExchangeRef) :
    Engine.takeWrite e w = (.done ((w.activeFor? e).bind (·.write)), w.dropWrite e) := by
  cases ha : w.activeFor? e with
  | none => simp [takeWrite, Effect.modifyGet, dropWrite, ha]
  | some active => simp [takeWrite, Effect.modifyGet, dropWrite, ha]

/-- Refusing a write is one step, after what led to it. -/
theorem Engine.course_refuseWrite (hh : host.Lawful) {A : ExchangeRef → Prop} {w w₁ : World κ ε}
    (hs : w.Sound) (hA : ∀ e, w.Open e → A e) {callback : Callback κ} {why : ExchangeError}
    (h : Course A w (w₁.refuse callback why)) :
    Course A w (Engine.refuseWrite host callback why w₁).2 := by
  refine Course.bind_done rfl (Course.bind_done rfl ?_)
  exact Queue.course_run hh hs hA h

/-- Refusing a write that is taken in by that. -/
theorem Engine.takesIn_refuseWrite (hh : host.Lawful) {w w₁ : World κ ε} (hs : w.Sound)
    {entry : Entry κ} {callback : Callback κ} {why : ExchangeError}
    (hstep : Step w.Open w (w₁.refuse callback why)) (hentry : w₁.ledger = entry :: w.ledger) :
    w.TakesIn entry (Engine.refuseWrite host callback why w₁).2 := by
  refine ⟨_, hstep, ?_, Engine.course_refuseWrite hh (hstep.sound hs) (fun _ h => h) .refl⟩
  rw [World.refuse, ledger_offer, ← hentry]
  exact List.suffix_cons _ _

namespace ExchangeRef

/-- An admitted write whose head is fixed, if it is the first. -/
theorem takesIn_send (hh : host.Lawful) {w w₁ : World κ ε} (hs : w.Sound) {e : ExchangeRef}
    {stream : Stream} {active : Active κ} {last commits : Bool} {callback : Callback κ}
    {chunks : List Octets} {head : Option ResponseHead}
    (hstream : w.channel.stream = some stream) (ha : w.activeFor? e = some active)
    (hadm : active.admission (w.exchange e).response last chunks = .send commits)
    (hfix : (w.accept e last callback chunks).HeadFixed e last commits w₁ head) :
    w.TakesIn (.wrote e callback last chunks (w.exchange e).response.committed) ((do
      match (← Engine.response e).lengthFault last with
      | none =>
        Effect.modify (·.enterSending callback)
        Engine.sendTo host e stream head last (.pendingWrite e) chunks
      | some fault =>
        Engine.note (.mismatched e)
        match ← Engine.takeWrite e with
        | some callback => Engine.refuseWrite host callback fault
        | none => pure () : Engine κ ε Unit) w₁).2 := by
  have hledger : w₁.ledger =
      .wrote e callback last chunks (w.exchange e).response.committed :: w.ledger := hfix.ledger_eq
  refine .bind_done rfl ?_
  dsimp only
  cases hfault : (w₁.exchange e).response.lengthFault last with
  | none =>
    have hstep := Step.send (A := w.Open) callback hstream ha hadm hfix hfault
    have hsends : (w₁.enterSending callback).sends = w.sends := hfix.sends_eq
    refine .bind_done rfl ⟨_, hstep, ?_, ?_⟩
    · exact hledger ▸ List.suffix_cons _ _
    · refine Engine.course_sendTo hh (hstep.sound hs) (fun _ h => h) ?_
      rw [hsends]
  | some fault =>
    have hactive : (w₁.note (.mismatched e)).activeFor? e =
        some { active with write := some callback } :=
      (hfix.activeFor?_eq e).trans (activeFor?_accept ha last callback chunks)
    refine .bind_done rfl (.bind_done (Engine.takeWrite_run _ e) ?_)
    dsimp only
    rw [hactive]
    refine Engine.takesIn_refuseWrite hh hs (.withhold callback hstream ha hadm hfix hfault) ?_
    exact (ledger_dropWrite e).trans hledger

/-- Whatever becomes of a write, it is taken in first. -/
theorem takesIn_write (hh : host.Lawful) {w : World κ ε} (hs : w.Sound) (e : ExchangeRef)
    (last : Bool) (callback : Callback κ) (chunks : List Octets) :
    w.TakesIn (.wrote e callback last chunks (w.exchange e).response.committed)
      (e.write host last callback chunks w).2 := by
  have hrefuse : ∀ why, w.TakesIn (.wrote e callback last chunks (w.exchange e).response.committed)
      (Engine.refuseWrite host callback why (w.enterWrote e callback last chunks)).2 :=
    fun why => Engine.takesIn_refuseWrite hh hs (.refuse e callback last chunks _ why) rfl
  refine .bind_done rfl (.bind_done rfl ?_)
  dsimp only
  cases hstream : w.channel.stream with
  | none => exact hrefuse .completed
  | some stream =>
    cases ha : w.activeFor? e with
    | none => exact hrefuse .completed
    | some active =>
      dsimp only
      cases hadm : active.admission (w.exchange e).response last chunks with
      | flush =>
        obtain ⟨rfl, rfl, hcommitted⟩ := Active.admission_eq_flush hadm
        rw [hcommitted]
        exact Queue.takesIn_run hh hs (.flush e callback) rfl
      | refuse why => exact hrefuse why
      | failed cause =>
        have herror := Active.admission_eq_failed hadm
        exact Queue.takesIn_run hh hs (.refuseFailed callback last chunks ha herror) rfl
      | send commits =>
        refine .bind_done rfl (.bind_done rfl ?_)
        cases commits with
        | false => exact takesIn_send hh hs hstream ha hadm .before
        | true =>
          have hlt : e.index < (w.accept e last callback chunks).exchanges.size := by
            rw [size_accept]
            exact hs.index_lt_of_active ha
          rw [if_pos rfl, bind_map_left]
          refine Engine.bind_freezeHead hh hlt (fun w₁ head hfix => ?_) fun w₁ head hfix => ?_
          · exact ⟨w₁, .stick callback hstream ha hadm hfix, ⟨[], hfix.ledger_eq.symm⟩, .refl⟩
          · exact takesIn_send hh hs hstream ha hadm hfix

theorem runs_write (hh : host.Lawful) (e : ExchangeRef) (last : Bool) (callback : Callback κ)
    (chunks : List Octets) : Runs (e.write host last callback chunks) :=
  fun _ hs => (e.takesIn_write hh hs last callback chunks).leads hs

end ExchangeRef

theorem ExchangeRef.runs_writeAsync (hh : host.Lawful) (e : ExchangeRef) (last : Bool)
    (chunks : List Octets) : Runs (e.writeAsync host last chunks) :=
  .bind PromiseRef.runs_new fun _ => .bind (e.runs_write hh _ _ _) fun _ => .pure _

theorem ExchangeRef.runs_writeError (hh : host.Lawful) (e : ExchangeRef) (status : Status)
    (message : Option String) (callback : Callback κ) :
    Runs (e.writeError host status message callback) := by
  refine .bind (.gets _) fun x => .bind (hh.answers.render _ _ _) fun (body, fields) => ?_
  refine fun w hs => Course.bind_done rfl ?_
  dsimp only
  split
  · refine Course.bind_done rfl (Engine.course_refuseWrite hh hs (fun _ h => h) ?_)
    exact .single (.refuse e callback true [body] true .committed)
  next hopen =>
    have hopen' : (w.exchange e).response.committed = false := by simpa using hopen
    have hstep := step_editResponse (A := w.Open) (fun r =>
      { r with
        status := some status,
        fields := (r.fields.remove .contentLength).extend fields }) hopen' fun _ => rfl
    have hrun := Leads.run (.single hstep) hs (e.runs_write hh true callback [body])
    exact hrun

theorem ExchangeRef.runs_push (hh : host.Lawful) (e : ExchangeRef) (request : RequestHead) :
    Runs (e.push host request) := by
  refine .bind .get fun w => ?_
  split
  · exact Runs.compositional.push hh.answers request _
  · exact .pure ()

/-! ## The end of a send -/

namespace World

variable {w : World κ ε} {e : ExchangeRef}

/-- Nobody waits for a callback that was taken out. -/
theorem modify_sends_of_none {ref : SendRef} (h : w.sendCallback? ref = none) :
    w.sends.modify ref.index (fun _ => none) = w.sends := by
  refine Array.ext (by simp) fun j hj hj' => ?_
  by_cases hij : ref.index = j
  · subst hij
    have hnone : w.sends[ref.index] = none := by simpa [sendCallback?, hj'] using h
    simp [Array.getElem_modify, hnone]
  · simp [Array.getElem_modify, hij]

end World

theorem SendRef.complete_eq {w : World κ ε} {ref : SendRef} {callback : SendCallback κ}
    (hcb : w.sendCallback? ref = some callback) (result : Result) :
    ref.complete host result w = callback.complete host ref result
      { w with sends := w.sends.modify ref.index fun _ => none } := by
  simp only [complete, Effect.bind_run, Effect.modifyGet, hcb]

/-- The callback that ends an exchange tells the stream the outcome before anything else. -/
theorem SendRef.leads_completeFinal (hh : host.Lawful) {w : World κ ε} (hs : w.Sound)
    {ref : SendRef} {e : ExchangeRef} {stream : Stream} {cause : Option FailureRef}
    (hcb : w.sendCallback? ref = some (finalCallback e stream cause)) (result : Result) :
    ∃ w₁, Step w.Open w w₁ ∧ finalOutcome e stream cause result ∈ w₁.deeds ∧
      w₁.Leads (ref.complete host result w).2 := by
  rw [SendRef.complete_eq hcb]
  cases cause with
  | none =>
    have hstep := Step.answerFinal (A := w.Open) result hcb
    cases result with
    | ok _ =>
      have hrun := Runs.compositional.succeeded hh.answers stream _ (hstep.sound hs)
      exact ⟨_, hstep, List.mem_cons_self, hrun⟩
    | error told =>
      have hrun := Runs.compositional.failed hh.answers told stream _ (hstep.sound hs)
      exact ⟨_, hstep, List.mem_cons_self, hrun⟩
  | some cause =>
    have hstep := Step.answerError (A := w.Open) result hcb
    have hrun := Runs.compositional.failed hh.answers cause stream _ (hstep.sound hs)
    refine ⟨_, hstep, List.mem_cons_self, ?_⟩
    cases result with
    | ok _ => exact hrun
    | error other => exact hrun

/-- Telling the engine how a send ended. -/
theorem SendRef.runs_complete (hh : host.Lawful) (ref : SendRef) (result : Result) :
    Runs (ref.complete host result) := by
  intro w hs
  cases hcb : w.sendCallback? ref with
  | none =>
    have hrun : ref.complete host result w =
        (.done (), { w with sends := w.sends.modify ref.index fun _ => none }) := by
      simp only [complete, Effect.bind_run, Effect.modifyGet, hcb]
      rfl
    rw [hrun, modify_sends_of_none hcb]
  | some callback =>
    obtain ⟨e, s, -, -, -, hkind, -⟩ := hs.waiting ref callback hcb
    rcases hkind with rfl | ⟨stream, cause, rfl⟩
    · rw [SendRef.complete_eq hcb]
      refine Course.bind_done rfl (Course.bind_done (Engine.takeWrite_run _ e) ?_)
      have hlate : (∀ active, w.activeFor? e = some active → active.write = none) →
          w.Leads ((w.answer e ref result).dropWrite e) := by
        intro hnone
        rw [dropWrite_of_none _]
        · exact .single (.answerLate result hcb hnone)
        · exact hnone
      have hactive : (w.answer e ref result).activeFor? e = w.activeFor? e := rfl
      show w.Leads ((match ((w.answer e ref result).activeFor? e).bind (·.write) with
        | some callback => Engine.runQueued host "write-complete" (.complete callback result)
        | none => pure () : Engine κ ε Unit) ((w.answer e ref result).dropWrite e)).2
      rw [hactive]
      cases ha : w.activeFor? e with
      | none => exact hlate (by simp [ha])
      | some active =>
        cases hwrite : active.write with
        | none =>
          simp only [Option.bind_some, hwrite]
          exact hlate (by simp [ha, hwrite])
        | some callback =>
          simp only [Option.bind_some, hwrite]
          refine Queue.course_run hh hs (fun _ h => h) ?_
          exact .single (.answerWrite result hcb ha hwrite)
    · obtain ⟨w₁, hstep, -, hcourse⟩ := SendRef.leads_completeFinal hh hs hcb result
      exact Leads.trans (.single hstep) hs hcourse

end HttpExchange
