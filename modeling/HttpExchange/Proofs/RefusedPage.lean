import HttpExchange.Proofs.WriteError
import HttpExchange.Proofs.WriteFate

/-!
# Error pages that are refused

An error page is prepared first, and then its write is admitted or not. If the head is fixed nothing
is prepared. But an exchange that is not processing yet, that failed, or that ended with its head
open refuses the write as well, and by then its response has the status and the fields of the page.
They are not taken back (`refused_page_stays`), so the next write that is admitted fixes a head with
them.

Which refusals find an open head is a matter of the state before (`World.Barred`), and the renderer
does not change it, as it does not use the exchange. What stays behind is said twice
(`World.LeavesPage`): of the response, which is the prepared one, and of the head that is sent later,
if the application changes nothing until then (`World.CarriesPage`). That the exchange may come to
send again is why it matters; one that was not processing is handled after that as if nothing had
happened.
-/

namespace HttpExchange

variable {κ ε : Type} {host : Host κ ε}

open World

variable {w v x : World κ ε} {e : ExchangeRef} {status : Status} {message : Option String}
  {callback : Callback κ} {body : Octets} {fields : Fields} {last : Bool} {chunks : List Octets}

/-! ## Who is refused with an open head -/

namespace World

/-- Nothing lets a write of this exchange in: it is not active, not processing, or it failed. -/
def Barred (w : World κ ε) (e : ExchangeRef) : Prop :=
  ∀ a, w.activeFor? e = some a → a.processing = false ∨ a.error.isSome = true

/-- A write of a barred exchange is refused, also if the head is open. -/
theorem Possible.refusal_of_barred (h : w.Possible)
    (hopen : (w.exchange e).response.committed = false) (hbarred : w.Barred e)
    (last : Bool) (chunks : List Octets) :
    ∃ cause failures,
      (w.admission e last chunks).refusal? w.failures = some (cause, failures) := by
  cases ha : w.activeFor? e with
  | none =>
    have hadm : w.admission e last chunks = .refuse .completed := by
      unfold World.admission
      rw [ha]
      cases w.channel.stream <;> rfl
    rw [hadm]
    exact ⟨_, _, rfl⟩
  | some a =>
    obtain ⟨stream, hstream⟩ := h.sound.exists_stream ha
    have hidle : a.write = none := by
      refine Option.eq_none_iff_forall_ne_some.2 fun pending hpending => ?_
      have hfixed := ((h.active_consistent ha).write (by rw [hpending]; rfl)).2.2
      cases hopen.symm.trans hfixed
    have hadm : w.admission e last chunks =
        a.admission (w.exchange e).response last chunks := by
      unfold World.admission
      rw [ha, hstream]
    rw [hadm]
    unfold Active.admission
    rw [hidle, if_neg (by simp)]
    cases hprocessing : a.processing with
    | false => exact ⟨_, _, rfl⟩
    | true =>
      rcases hbarred a ha with hnot | hfailed
      · cases hprocessing.symm.trans hnot
      · obtain ⟨cause, hcause⟩ := Option.isSome_iff_exists.1 hfailed
        rw [hcause]
        exact ⟨_, _, rfl⟩

/-- What is prepared of the response makes no difference to an admission. -/
theorem admission_prepared (hlt : e.index < w.exchanges.size) (status : Status) (fields : Fields) :
    (w.modifyResponse e (·.prepared status fields)).admission e last chunks =
      w.admission e last chunks := by
  have hresponse : ((w.modifyResponse e (·.prepared status fields)).exchange e).response =
      (w.exchange e).response.prepared status fields :=
    congrArg (·.response) (exchange_modifyExchange_self w hlt _)
  unfold World.admission
  rw [hresponse]
  rfl

end World

/-! ## What stays behind -/

/-- The fields of a page that was prepared are still those of the response once a write has counted,
except for the length. -/
theorem Response.values_after_prepared (r : Response) {name : FieldName}
    (hname : name ≠ .contentLength) (hpage : fields.values name ≠ []) :
    ((r.prepared status fields).after last chunks).fields.values name = fields.values name := by
  have hlaid : (r.prepared status fields).fields.values name = fields.values name := by
    show ((r.fields.remove .contentLength).extend fields).values name = _
    rw [Fields.values_extend, if_neg hpage]
  show ((r.prepared status fields).fieldsAfter last _).values name = _
  unfold fieldsAfter
  split
  · rw [Fields.values_insert, if_neg (Ne.symm hname), hlaid]
  · exact hlaid

/-- The first write that is sent from this state on has a head with the status of a page, and with
the fields of that page among those that the stream is shown. -/
def World.CarriesPage (x : World κ ε) (host : Host κ ε) (e : ExchangeRef) (status : Status)
    (fields : Fields) : Prop :=
  ∀ last callback chunks, x.writeFate e last chunks = .sent →
    ∃ stream s u head shown, x.SendsWrite host e stream last callback chunks s u ∧
      s.head = some head ∧ head.status = status ∧
      (∀ name, name ≠ .contentLength → fields.values name ≠ [] →
        shown.values name = fields.values name) ∧
      ∃ v outside, stream.prepare host shown v = (.done (head.fields, none), { v with outside })

/-- The write of a page is refused, but the response keeps the status and the fields of it, and so
does the head, if nobody changes them before it is fixed. -/
structure World.LeavesPage (w : World κ ε) (host : Host κ ε) (e : ExchangeRef) (status : Status)
    (message : Option String) (callback : Callback κ) (fields : Fields) (cause : FailureRef)
    (u : World κ ε) : Prop where
  refuses : e.writeError host status message callback w =
    Queue.run host .channel ⟨"write-failure", .complete callback (.error cause)⟩ u
  response : (u.exchange e).response = (w.exchange e).response.prepared status fields
  carried : ∀ {β : Type} {m : Engine κ ε β}, Permitted m →
    let x := (m (e.writeError host status message callback w).2).2
    (x.exchange e).response = (w.exchange e).response.prepared status fields →
      x.CarriesPage host e status fields

/-- A response that is as a page was prepared, with its head open, has the page in its head. -/
theorem World.carriesPage_of_prepared (h : x.Possible) (hgives : host.GivesFields) {r : Response}
    (hopen : r.committed = false) (hkept : (x.exchange e).response = r.prepared status fields) :
    x.CarriesPage host e status fields := by
  intro last callback chunks hfate
  have hopen' : (x.exchange e).response.committed = false := by
    rw [hkept]
    exact hopen
  -- what is sent was admitted, and so the exchange is active
  obtain ⟨stream, s, u, -, hsends⟩ : x.Meets host e last callback chunks .sent := by
    cases ha : x.activeFor? e with
    | none =>
      unfold writeFate at hfate
      rw [ha] at hfate
      cases hfate
    | some a =>
      obtain ⟨stream, hstream⟩ := h.sound.exists_stream ha
      rw [writeFate_of_active ha] at hfate
      cases hadm : a.admission (x.exchange e).response last chunks with
      | send commits =>
        rw [hadm] at hfate
        rw [← hfate]
        exact meets_of_admitted h hstream ha hadm (hgives stream _ _) callback
      | refuse | failed | flush =>
        rw [hadm] at hfate
        cases hfate
  obtain ⟨w₁, hcounts, rfl⟩ := hsends.counts
  obtain ⟨made, hexchange⟩ := hcounts.exchange
  have hprepared := hcounts.prepared hopen'
  refine ⟨stream, s, _, w₁.headOf e, ((x.exchange e).response.after last chunks).fields, hsends,
    ?_, ?_, fun name hname hpage => ?_, _, _, hprepared⟩
  · rw [hsends.sending, hopen']
    rfl
  · show (w₁.exchange e).response.status.getD .ok = status
    rw [hexchange]
    show (if (x.exchange e).response.committed = true then _ else _ : Option Status).getD .ok = _
    rw [hopen', hkept]
    rfl
  · rw [hkept]
    exact r.values_after_prepared hname hpage

/-- A page for a response whose head is fixed is refused at once. -/
theorem ExchangeRef.writeError_of_fixed (hpage : w.PageGiven host e status message body fields v)
    (hfixed : (w.exchange e).response.committed = true) (callback : Callback κ) :
    e.writeError host status message callback w =
      Engine.refuseWrite host callback .committed
        (v.enter (.wrote e callback true [body] true)) := by
  have hresponse : Engine.response e v = (.done (v.exchange e).response, v) := rfl
  refine (Effect.bind_of_done rfl).trans ((Effect.bind_of_done hpage.run).trans ?_)
  refine (Effect.bind_of_done hresponse).trans ?_
  rw [hpage.spared, hfixed]
  rfl

/-- **A refused error page stays.** In a reachable state, a renderer gives a page for an exchange,
without using that exchange, and the write of the page is refused. If the head is fixed the response
is left alone. If it is open the refusal comes too late: the response has the status and the fields
of the page from then on, though nothing was sent, and unless somebody changes them again they are
those of the head that is fixed later. That is so as long as the exchange is not processing, and
after it failed or ended. -/
theorem refused_page_stays {w : World κ ε} (hw : Reachable w) {e : ExchangeRef}
    (hlt : e.index < w.exchanges.size) {depth : Nat} (hh : Surroundings depth host)
    (hgives : host.GivesFields) {v : World κ ε}
    (hpage : w.PageGiven host e status message body fields v) (callback : Callback κ) :
    ((w.exchange e).response.committed = true → ∃ u,
      e.writeError host status message callback w =
        Engine.refuseWrite host callback .committed u ∧
      u.deeds = v.deeds ∧ u.exchange e = w.exchange e) ∧
    ((w.exchange e).response.committed = false → w.Barred e → ∃ cause u,
      (v.admission e true [body]).refusal? v.failures = some (cause, u.failures) ∧
      u.deeds = v.deeds ∧ w.LeavesPage host e status message callback fields cause u) := by
  have h := hw.possible
  have hrender := hh.lawful.answers.render (w.exchange e).request (.ofStatus status message none)
    .empty w h.sound
  rw [hpage.run] at hrender
  have hv : v.Possible := h.course hrender
  have hlt' : e.index < v.exchanges.size := Nat.lt_of_lt_of_le hlt (Course.size_le hrender h)
  refine ⟨fun hfixed => ?_, fun hopen hbarred => ?_⟩
  · exact ⟨_, ExchangeRef.writeError_of_fixed hpage hfixed callback, rfl, hpage.spared⟩
  · have hopen' : (v.exchange e).response.committed = false := by
      rw [hpage.spared]
      exact hopen
    have hbarred' : v.Barred e := by
      intro a ha
      rw [hpage.active] at ha
      exact hbarred a ha
    obtain ⟨cause, failures, hrefusal⟩ := hv.refusal_of_barred hopen' hbarred' true [body]
    have hlate := hrefusal
    rw [← admission_prepared hlt' status fields] at hlate
    obtain ⟨ledger, hrun⟩ := e.write_of_refusal hlate callback
    have hgiven := ExchangeRef.writeError_of_given hpage hopen callback
    let u : World κ ε := { v.modifyResponse e (·.prepared status fields) with failures, ledger }
    refine ⟨cause, u, hrefusal, rfl, hgiven.trans (hrun host), ?_, fun hm hkept => ?_⟩
    · have hprepared := exchange_modifyExchange_self v hlt' fun x =>
        { x with response := x.response.prepared status fields }
      rw [hpage.spared] at hprepared
      exact congrArg (·.response) hprepared
    · have hcourse := e.runs_writeError hh.lawful status message callback w h.sound
      have hlater := hm.runs _ (Course.sound hcourse h.sound)
      exact carriesPage_of_prepared ((h.course hcourse).course hlater) hgives hopen hkept

/-- A request arrives, and is not handled yet. -/
def unhandled : Engine Unit Unit Unit := do
  let _ ← Channel.setStream (.transport ⟨0⟩)
  let _ ← Channel.onRequest (Host.idle 2) .bare

theorem permitted_unhandled : Permitted unhandled :=
  .bind (.setStream _) fun _ =>
    .bind (.onRequest _ ⟨2, surroundings_idle 2⟩) fun _ => .pure ()

/-- A renderer that puts a field in. -/
def signedPage : RequestHead → ErrorPage → Fields → Engine Unit Unit (Octets × Fields) :=
  fun _ _ fields => pure ([104, 105], fields.insert .server .close)

/-- A page is refused because the exchange is not processing. Then the exchange is handled, and what
it writes has the status of that page, and its field. -/
theorem refused_page_stays_unhandled :
    let host := (Host.idle 2).rendering signedPage
    let w := World.after unhandled
    let refused := ExchangeRef.writeError host ⟨0⟩ .badRequest none .ignore w
    let x := (Job.perform (Host.idle 2) (.dispatch ⟨0⟩) refused.2).2
    (w.exchange ⟨0⟩).response.status = none ∧ refused.2.deeds.all (·.exchange? = none) = true ∧
    ∃ stream s u head, x.SendsWrite host ⟨0⟩ stream true .ignore [[33]] s u ∧ s.head = some head ∧
      head.status = .badRequest ∧ head.fields.values .server = [.close] := by
  intro host w refused x
  have hh : Surroundings 2 host := (surroundings_idle 2).rendering fun _ _ _ => .pure _
  have hprepare : host.Prepares fun _ fields => fields :=
    ⟨fun _ _ w => ⟨w.outside, rfl⟩, fun _ w => ⟨w.outside, rfl⟩⟩
  have hlt : 0 < w.exchanges.size := by decide +kernel
  have hopen : (w.exchange ⟨0⟩).response.committed = false := by decide +kernel
  have hidle : (w.activeFor? ⟨0⟩).all (fun a => !a.processing) = true := by decide +kernel
  have hbarred : w.Barred ⟨0⟩ := by
    intro a ha
    rw [ha] at hidle
    exact .inl (by simpa using hidle)
  have hpage : w.PageGiven host ⟨0⟩ .badRequest none [104, 105]
      (Fields.empty.insert .server .close) w := ⟨rfl, rfl, rfl⟩
  obtain ⟨-, hstays⟩ := refused_page_stays permitted_unhandled.reachable (e := ⟨0⟩) hlt hh
    hprepare.givesFields hpage .ignore
  obtain ⟨cause, u, -, -, hleaves⟩ := hstays hopen hbarred
  have hkept : (x.exchange ⟨0⟩).response = (w.exchange ⟨0⟩).response.prepared .badRequest
      (Fields.empty.insert .server .close) := by decide +kernel
  have hfate : x.writeFate ⟨0⟩ true [[33]] = .sent := by decide +kernel
  obtain ⟨stream, s, u', head, shown, hsends, hhead, hstatus, hfields, v, outside, hprepared⟩ :=
    hleaves.carried (.perform _ ⟨2, surroundings_idle 2⟩) hkept true .ignore [[33]] hfate
  obtain ⟨outside', hsame⟩ := stream.prepare_run hprepare shown v
  have hshown : head.fields = shown := by
    cases hprepared.symm.trans hsame
    rfl
  refine ⟨by decide +kernel, by decide +kernel, stream, s, u', head, hsends, hhead, hstatus, ?_⟩
  rw [hshown, hfields .server (by decide) (by decide +kernel)]
  decide +kernel

end HttpExchange
