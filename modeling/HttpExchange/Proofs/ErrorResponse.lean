import HttpExchange.Proofs.Consistency
import HttpExchange.Proofs.Constancy
import HttpExchange.Proofs.Preparing

/-!
# Error responses

An exchange that fails before its head is fixed is answered with an error page. Its response starts
over (`World.startOver`), the page is rendered, and what the renderer gives is laid over the fields
that the response holds by then. So the error response is made from what was there before anything
was prepared (`World.errorBrief`), as long as the renderer leaves the exchange alone. If it does not,
whatever it makes of the response is sent: only the body, its length and the single send are out of
its reach.

`ExchangeRef.fail_of_rendered` says what is sent after any rendering, and `World.SentError` what
becomes of the exchange from then on.
-/

namespace HttpExchange

variable {κ ε : Type} {host : Host κ ε} {edit : StreamRef → Fields → Fields}

open World Record

/-! ## After the send -/

namespace World

variable {w : World κ ε} {e : ExchangeRef} {cause : FailureRef} {s : Sending κ}

/-- The state in which the stream of an error response is told the cause, once the send ended like
this: a failure of the send is suppressed by the cause. -/
def endError (w : World κ ε) (e : ExchangeRef) (ref : SendRef) (cause : FailureRef)
    (result : Result) : World κ ε :=
  { w.answer e ref result with
    failures := match result with
      | .ok () => w.failures
      | .error other => w.failures.suppress cause other }

/-- The error response of an exchange that failed with this cause was sent. -/
structure SentError (w : World κ ε) (e : ExchangeRef) (cause : FailureRef) (s : Sending κ) :
    Prop where
  /-- There is no other send. -/
  only : ∀ s', .sent e s' ∈ w.deeds ↔ s' = s
  /-- No other outcome is told. -/
  told : ∀ d ∈ w.history e, d.isOutcome = true → d = .failed e s.stream cause
  /-- Until the engine is told how the send ended, that leads to telling the stream the cause. -/
  answer : (∀ result, .sendEnded e s.ref result ∉ w.deeds) → ∀ (host : Host κ ε) result,
    s.ref.complete host result w =
      Engine.tellFailed host e s.stream cause (w.endError e s.ref cause result)
  /-- A failure of the send is then suppressed by the cause, for good. -/
  suppressed : (∀ result, .sendEnded e s.ref result ∉ w.deeds) →
    cause.index < w.failures.entries.size → ∀ depth (host : Host κ ε) other,
    Surroundings depth host → other ≠ cause → ∀ (β : Type) (m : Engine κ ε β), Permitted m →
      other ∈ (m (s.ref.complete host (.error other) w).2).2.failures.suppressed cause

/-- A send that has both the head and the last bytes is the only one. -/
theorem Possible.only_sent (h : w.Possible) (hsent : .sent e s ∈ w.deeds)
    (hhead : s.head.isSome = true) (hlast : s.last = true) (s' : Sending κ) :
    .sent e s' ∈ w.deeds ↔ s' = s := by
  constructor
  · intro hsent'
    have hs : .sent e s ∈ w.history e := (mem_history w).2 ⟨hsent, rfl⟩
    have hs' : .sent e s' ∈ w.history e := (mem_history w).2 ⟨hsent', rfl⟩
    rcases (h.orderly e).regular.eq_or_before hs' hs with heq | ⟨earlier, ha, hmem, -⟩ |
      ⟨earlier, ha, hmem, -⟩
    · exact heq
    · cases (ha.notLast s hmem).symm.trans hlast
    · exact absurd hmem (ha.head.1 hhead s')
  · rintro rfl
    exact hsent

theorem Possible.told_of_errorResponse (h : w.Possible) (hsent : .sent e s ∈ w.deeds)
    (hcb : s.callback = .errorResponse e s.stream cause) {d : Deed κ} (hd : d ∈ w.history e)
    (hout : d.isOutcome = true) : d = .failed e s.stream cause := by
  have hs : .sent e s ∈ w.history e := (mem_history w).2 ⟨hsent, rfl⟩
  have hfinal : s.callback.isFinal = true := by rw [hcb]; rfl
  obtain ⟨cause', hcb', hended⟩ := (h.settled e).final s hs hfinal
  have heq : finalCallback (κ := κ) e s.stream cause' = finalCallback e s.stream (some cause) :=
    hcb'.symm.trans hcb
  obtain ⟨-, rfl⟩ := finalCallback_inj heq
  obtain ⟨stream, cause'', hended', htells⟩ := (h.settled e).told d hd hout
  obtain ⟨hstream, rfl⟩ := (h.orderly e).once _ _ _ _ hended' hended
  cases hstream
  cases htells with
  | failed told htold => rw [htold cause rfl]

theorem complete_of_errorResponse (hwaiting : w.sendCallback? s.ref =
      some (.errorResponse e s.stream cause)) (host : Host κ ε) (result : Result) :
    s.ref.complete host result w =
      Engine.tellFailed host e s.stream cause (w.endError e s.ref cause result) := by
  rw [SendRef.complete_eq hwaiting]
  cases result <;> rfl

/-- Once an error response is sent, it stays at that. -/
theorem Possible.sentError (h : w.Possible) (hsent : .sent e s ∈ w.deeds)
    (hhead : s.head.isSome = true) (hlast : s.last = true)
    (hcb : s.callback = .errorResponse e s.stream cause) : w.SentError e cause s := by
  have hwaiting : (∀ result, .sendEnded e s.ref result ∉ w.deeds) →
      w.sendCallback? s.ref = some (.errorResponse e s.stream cause) :=
    fun hopen => hcb ▸ h.sound.answerable e s hsent hopen
  refine ⟨h.only_sent hsent hhead hlast, fun d => h.told_of_errorResponse hsent hcb,
    fun hopen host result => complete_of_errorResponse (hwaiting hopen) host result,
    fun hopen hcause depth host other hh hne β m hm => ?_⟩
  rw [complete_of_errorResponse (hwaiting hopen)]
  have hstep := Step.answerError (A := fun _ => True) (.error other) (hwaiting hopen)
  have h₁ := h.course (.single hstep)
  have hrecorded : Recorded ((w.endError e s.ref cause (.error other)).note
      (.failed e s.stream cause)) cause [other] :=
    ⟨(Failures.size_suppress _ _ _).symm ▸ hcause,
      List.cons_subset.2 ⟨Failures.mem_suppress hcause hne, List.nil_subset _⟩⟩
  have htold := Runs.compositional.failed hh.lawful.answers cause s.stream _ h₁.sound
  have h₂ := h₁.course htold
  have hkept := Course.recorded htold hrecorded
  exact (Course.recorded (hm.runs _ h₂.sound) hkept).2 List.mem_cons_self

end World

/-! ## What is sent -/

namespace Response

/-- The fields of an error response: what the renderer gives is laid over those of the response, and
the length is that of the body. -/
def errorFields (r : Response) (body : Octets) (fields : Fields) : Fields :=
  (r.fields.extend fields).insert .contentLength (.ofNat body.length)

/-- The head of an error response, with the fields that the stream made of those. -/
def errorHead (r : Response) (version : Version) (made : Fields) (body : Octets) : ResponseHead :=
  ⟨r.status.getD .ok, version, made, some body.length⟩

/-- The length is that of the body. Any other name has the values of the renderer, if it gives some,
and those of the response otherwise. -/
theorem values_errorFields (r : Response) (body : Octets) (fields : Fields) (name : FieldName) :
    (r.errorFields body fields).values name =
      if name = .contentLength then [.ofNat body.length]
      else if fields.values name = [] then r.fields.values name else fields.values name := by
  rw [errorFields, Fields.values_insert, Fields.values_extend]
  by_cases hname : name = .contentLength
  · rw [if_pos hname, if_pos hname.symm]
  · rw [if_neg hname, if_neg (Ne.symm hname)]

theorem freeze_overlaid (r : Response) (body : Octets) (fields : Fields) :
    (r.overlaid body fields).freeze true =
      { r.overlaid body fields with
        status := some (r.status.getD .ok), committedLength := some body.length,
        fields := r.errorFields body fields } := by
  rw [freeze_of_undeclared (ContentLength.ofFields?_remove _)]
  refine congrArg (fun fields : Fields => (⟨_, fields, _, _, _, _⟩ : Response)) ?_
  exact Fields.insert_remove _ _ _

end Response

namespace World

variable {w v : World κ ε} {e : ExchangeRef}

/-- The response of an exchange that failed starts over. -/
def startOver (w : World κ ε) (now : FieldValue) (e : ExchangeRef) (cause : FailureRef) :
    World κ ε :=
  (w.detach e (some cause)).modifyExchange e fun x =>
    { x with
      response := .recycled (w.failures.get cause).error.status
        (w.channel.config.standardFields now),
      trailers := none, phase := .completing }

theorem exchange_startOver (hlt : e.index < w.exchanges.size) (now : FieldValue)
    (cause : FailureRef) :
    (w.startOver now e cause).exchange e =
      { w.exchange e with
        response := .recycled (w.failures.get cause).error.status
          (w.channel.config.standardFields now),
        trailers := none, phase := .completing } :=
  exchange_modifyExchange_self (w.detach e (some cause)) hlt _

/-- With its error response started over, an exchange has been ended by the call that does that. -/
theorem closing_startOver (h : w.Possible) {a : Active κ} (ha : w.activeFor? e = some a)
    {stream : Stream} (hstream : w.channel.stream = some stream)
    (hopen : (w.exchange e).response.committed = false) (now : FieldValue) (cause : FailureRef) :
    Closing w.Open w (w.startOver now e cause) e stream (some cause) := by
  have hend := ending_detach h.sound ha (some cause) nofun
  rw [hstream] at hend
  have hstep := Step.recycle (A := w.Open) (w.channel.config.standardFields now)
    (open_of_active ha) hend hopen
  rw [World.setPhase, modifyExchange_modifyExchange] at hstep
  exact closing_modifyExchange h.sound (fun _ ho => ho) (open_of_active ha) (.single (.fail cause ha))
    hend hstep rfl nofun

end World

namespace Engine

variable {v : World κ ε} {e : ExchangeRef}

/-- What follows once the page is rendered. -/
theorem sendRendered_run (hgives : host.GivesFields) (hlt : e.index < v.exchanges.size)
    (stream : Stream) (cause : FailureRef) (body : Octets) (fields : Fields) :
    ∃ made, stream.Makes host ((v.exchange e).response.errorFields body fields) made ∧
    let head := (v.exchange e).response.errorHead v.channel.version made body
    ∃ u, (v.modifyResponse e (·.overlaid body fields)).HeadFixed e true true u (some head) ∧
      (u.exchange e).trailers = (v.exchange e).trailers ∧
      (do
        modifyResponse e (·.overlaid body fields)
        let head ← freezeHead host e stream true
        sendTo host e stream (some head) true (.errorResponse e stream cause) [body]
        conclude e : Engine κ ε Unit) v =
      (stream.send host (some (head, e)) true ⟨v.sends.size⟩ [body] >>= fun _ => conclude e)
        (u.handOver e ⟨⟨v.sends.size⟩, stream, some head, true, .errorResponse e stream cause,
          [body]⟩) := by
  have hlt' : e.index < (v.modifyResponse e (·.overlaid body fields)).exchanges.size := by
    rw [size_modifyResponse]
    exact hlt
  have hoverlaid := exchange_modifyExchange_self v hlt fun x =>
    { x with response := x.response.overlaid body fields }
  obtain ⟨made, u, hmakes, hfreeze, hfix, hexchange⟩ := freezeHead_run hgives hlt' stream true
  rw [World.modifyResponse, hoverlaid] at hmakes hfreeze hfix hexchange
  rw [Response.freeze_overlaid] at hmakes hfreeze hfix hexchange
  refine ⟨made, hmakes, u, hfix, congrArg (·.trailers) hexchange, ?_⟩
  have hsends : u.sends = v.sends := hfix.sends_eq
  refine (Effect.bind_of_done rfl).trans ((Effect.bind_of_done hfreeze).trans ?_)
  rw [← hsends]
  rfl

end Engine

/-- The send of an error response. -/
def Sending.ofError (ref : SendRef) (e : ExchangeRef) (stream : Stream) (cause : FailureRef)
    (head : ResponseHead) (body : Octets) : Sending κ :=
  ⟨ref, stream, some head, true, .errorResponse e stream cause, [body]⟩

/-- Failing an exchange comes to this send, with these trailers to follow it, and the send is all
that ever comes of it. -/
structure World.FailsWith (w : World κ ε) (host : Host κ ε) (e : ExchangeRef) (cause : FailureRef)
    (s : Sending κ) (trailers : Option Fields) : Prop where
  sends : ∃ u : World κ ε, e.fail host cause w =
      (s.stream.send host (s.head.map (·, e)) s.last s.ref s.chunks >>= fun _ =>
        Engine.conclude e) u ∧
    (u.exchange e).trailers = trailers
  only : ∀ (β : Type) (m : Engine κ ε β), Permitted m →
    (m (e.fail host cause w).2).2.SentError e cause s

namespace ExchangeRef

variable {w v : World κ ε} {e : ExchangeRef} {stream : Stream} {cause : FailureRef} {body : Octets}
  {fields : Fields}

/-- Failing an exchange whose head is not fixed is to answer it with an error response. -/
theorem fail_of_uncommitted (h : w.Possible) {a : Active κ} (ha : w.activeFor? e = some a)
    (hstream : w.channel.stream = some stream)
    (hopen : (w.exchange e).response.committed = false) (host : Host κ ε) (cause : FailureRef) :
    e.fail host cause w =
      Engine.sendErrorResponse host e stream cause (w.startOver host.now e cause) := by
  have hwrite : a.write = none := by
    refine Option.eq_none_iff_forall_ne_some.2 fun callback hpending => ?_
    have hcommitted := ((h.coherent e).write a ha (by rw [hpending]; rfl)).2.2
    cases hopen.symm.trans hcommitted
  have hopen' : ((w.detach e (some cause)).exchange e).response.committed = false := hopen
  rw [fail_run ha hstream, hwrite]
  show Engine.failStream host e stream cause _ (w.detach e (some cause)) = _
  rw [World.startOver, ← modifyExchange_modifyExchange (w.detach e (some cause)) e
    (fun x => { x with
      response := .recycled (w.failures.get cause).error.status
        (w.channel.config.standardFields host.now),
      trailers := none })
    fun x => { x with phase := .completing }]
  refine (Effect.bind_of_done rfl).trans ?_
  dsimp only
  rw [hopen']
  rfl

/-- Whatever is done while the page is rendered, the error response is made from what the response
holds when the renderer returns, with the fields that the stream makes of those, and is all that is
ever sent. -/
theorem fail_of_rendered (h : w.Possible) {a : Active κ} (ha : w.activeFor? e = some a)
    (hstream : w.channel.stream = some stream)
    (hopen : (w.exchange e).response.committed = false) (hh : host.Lawful)
    (hgives : host.GivesFields)
    (hrun : host.render (w.exchange e).request (.ofFailure w.failures cause) .empty
      (w.startOver host.now e cause) = (.done (body, fields), v)) :
    ∃ made, stream.Makes host ((v.exchange e).response.errorFields body fields) made ∧
      let head := (v.exchange e).response.errorHead w.channel.version made body
      w.FailsWith host e cause (.ofError ⟨v.sends.size⟩ e stream cause head body)
        (v.exchange e).trailers := by
  have hclosing := closing_startOver h ha hstream hopen host.now cause
  have hrender := hh.answers.render (w.exchange e).request (.ofFailure w.failures cause) .empty
  have hv := hclosing.run hrender
  have hversion := Course.settings_eq (hrender _ hclosing.sound₁)
  rw [hrun] at hv hversion
  obtain ⟨hclosing', hcommitted⟩ := hv
  have hversion' : v.channel.version = w.channel.version := congrArg Prod.fst hversion
  have hstarted := exchange_startOver (h.sound.index_lt_of_active ha) host.now cause
  obtain ⟨made, hmakes, u, hfix, htrailers, hsent⟩ :=
    Engine.sendRendered_run hgives hclosing'.index_lt stream cause body fields
  rw [hversion'] at hfix hsent
  let head := (v.exchange e).response.errorHead w.channel.version made body
  let s : Sending κ := .ofError ⟨v.sends.size⟩ e stream cause head body
  have heq : e.fail host cause w =
      (stream.send host (some (head, e)) true s.ref s.chunks >>= fun _ => Engine.conclude e)
        (u.handOver e s) := by
    have hrequest : ((w.startOver host.now e cause).exchange e).request = (w.exchange e).request :=
      by rw [hstarted]
    have hrendered : Effect.attempt (host.render ((w.startOver host.now e cause).exchange e).request
        (.ofFailure w.failures cause) .empty) (w.startOver host.now e cause) =
        (.done (.ok (body, fields)), v) := by
      simp only [Effect.attempt, hrequest, hrun]
    rw [fail_of_uncommitted h ha hstream hopen]
    exact (Effect.bind_of_done hrendered).trans hsent
  refine ⟨made, hmakes, ⟨u.handOver e s, heq, htrailers⟩, fun β m hm => ?_⟩
  have hstep := Step.sendError body fields hclosing'.own hclosing'.ending hclosing'.completing
    (hcommitted.trans (by rw [hstarted]; rfl)) hfix
  have hhanded := Engine.handed_of_headFixed hclosing' hfix hstep rfl rfl
    (Engine.mem_history_handOver u e s) rfl
  have hlast : Handed (fun _ => True) (u.handOver e s) (u.handOver e s) e :=
    ⟨hhanded.sound₁, fun _ _ => trivial, trivial, .refl, hhanded.closed⟩
  have hrest := hlast.conclude
    (Runs.compositional.send hh.answers (some (head, e)) true s.ref s.chunks stream)
  rw [← heq] at hrest
  have hsent' : .sent e s ∈ (e.fail host cause w).2.deeds :=
    (Course.deeds_suffix hrest).subset List.mem_cons_self
  have hfailed := h.course (e.runs_fail hh cause w h.sound)
  have hcourse := hm.runs _ hfailed.sound
  exact (hfailed.course hcourse).sentError ((Course.deeds_suffix hcourse).subset hsent') rfl rfl rfl

end ExchangeRef

/-! ## What it is made from -/

/-- What there is for an error response before it is rendered. -/
structure ErrorBrief where
  request : RequestHead
  page : ErrorPage
  version : Version
  /-- The fields that every response starts with. -/
  standard : Fields

/-- The fields of the error response before the stream edits them: what the renderer gives is laid
over the standard fields, and the length is that of the body. -/
def ErrorBrief.fields (brief : ErrorBrief) (body : Octets) (fields : Fields) : Fields :=
  (brief.standard.extend fields).insert .contentLength (.ofNat body.length)

/-- The head of the error response, with the fields that the stream made of those. -/
def ErrorBrief.head (brief : ErrorBrief) (made : Fields) (body : Octets) : ResponseHead :=
  ⟨brief.page.status, brief.version, made, some body.length⟩

/-- The values of a name in an error response, before the stream edits the fields: the length is that
of the body, other names have what the renderer gives, and where it gives nothing there are the
configured date and server. -/
def Config.errorValues (config : Config) (now : FieldValue) (body : Octets) (fields : Fields)
    (name : FieldName) : List FieldValue :=
  if name = .contentLength then [.ofNat body.length]
  else if fields.values name ≠ [] then fields.values name
  else if name = .date then if config.sendDate then [now] else []
  else if name = .server then config.server.toList
  else []

/-- The standard fields are the date and the server, as far as they are configured. -/
theorem Config.values_standardFields (config : Config) (now : FieldValue) (name : FieldName) :
    (config.standardFields now).values name =
      if name = .date then if config.sendDate then [now] else []
      else if name = .server then config.server.toList
      else [] := by
  have hdate : (if config.sendDate then Fields.empty.insert .date now else .empty : Fields).values
      name = if name = .date then if config.sendDate then [now] else [] else [] := by
    cases config.sendDate with
    | true =>
      rw [if_pos rfl, Fields.values_insert, Fields.values_empty, if_pos rfl]
      exact if_congr eq_comm rfl rfl
    | false =>
      rw [if_neg Bool.false_ne_true, Fields.values_empty, if_neg Bool.false_ne_true, ite_self]
  unfold standardFields
  cases config.server with
  | none =>
    rw [hdate, Option.toList_none, ite_self]
  | some server =>
    dsimp only
    rw [Fields.values_insert, hdate]
    by_cases hserver : name = .server
    · subst hserver
      rfl
    · rw [if_neg (Ne.symm hserver), if_neg hserver]

theorem ErrorPage.ofFailure_congr {fs fs' : Failures} {cause : FailureRef}
    (h : (fs'.get cause).error = (fs.get cause).error) : ofFailure fs' cause = ofFailure fs cause := by
  unfold ofFailure
  rw [h]

namespace World

def errorBrief (w : World κ ε) (now : FieldValue) (e : ExchangeRef) (cause : FailureRef) :
    ErrorBrief :=
  ⟨(w.exchange e).request, .ofFailure w.failures cause, w.channel.version,
    w.channel.config.standardFields now⟩

/-- The renderer is called for the error response of an exchange, gives this page, and leaves the
exchange alone. -/
structure Rendered (w : World κ ε) (host : Host κ ε) (e : ExchangeRef) (cause : FailureRef)
    (body : Octets) (fields : Fields) (v : World κ ε) : Prop where
  run : host.render (w.errorBrief host.now e cause).request (w.errorBrief host.now e cause).page
    .empty (w.startOver host.now e cause) = (.done (body, fields), v)
  spared : v.exchange e = (w.startOver host.now e cause).exchange e

variable {w w' : World κ ε} {e : ExchangeRef} {cause : FailureRef}

/-- While an exchange is active, nothing changes what its error response would be made from. -/
theorem Course.errorBrief_eq {A : ExchangeRef → Prop} (hc : Course A w w') (h : w.Possible)
    (hactive : (w.activeFor? e).isSome = true) (hactive' : (w'.activeFor? e).isSome = true)
    (hcause : cause.index < w.failures.entries.size) (now : FieldValue) :
    w'.errorBrief now e cause = w.errorBrief now e cause := by
  have hrequest := Course.request_eq hc h hactive hactive'
  have hpage := ErrorPage.ofFailure_congr (Course.keep_failures hc cause hcause).2
  have hsettings := Course.settings_eq hc
  have hversion : w'.channel.version = w.channel.version := congrArg Prod.fst hsettings
  have hconfig : w'.channel.config = w.channel.config := congrArg Prod.snd hsettings
  rw [errorBrief, errorBrief, hrequest, hpage, hversion, hconfig]

/-- A renderer that leaves the exchange alone has the error response sent that its page is for. -/
theorem Possible.fails_of_rendered (h : w.Possible) {a : Active κ} (ha : w.activeFor? e = some a)
    {stream : Stream} (hstream : w.channel.stream = some stream)
    (hopen : (w.exchange e).response.committed = false) (hh : host.Lawful)
    (hgives : host.GivesFields) {body : Octets} {fields : Fields} {v : World κ ε}
    (hrender : w.Rendered host e cause body fields v) :
    ∃ made, stream.Makes host ((w.errorBrief host.now e cause).fields body fields) made ∧
      w.FailsWith host e cause (.ofError ⟨v.sends.size⟩ e stream cause
        ((w.errorBrief host.now e cause).head made body) body) none := by
  have hstarted := exchange_startOver (h.sound.index_lt_of_active ha) host.now cause
  have hspared := hrender.spared.trans hstarted
  obtain ⟨made, hmakes, hfails⟩ :=
    ExchangeRef.fail_of_rendered h ha hstream hopen hh hgives hrender.run
  rw [hspared] at hmakes hfails
  exact ⟨made, hmakes, hfails⟩

end World

/-- For every name, the fields of an error response have the values that were to be expected. -/
theorem ErrorBrief.values_fields (w : World κ ε) (now : FieldValue) (e : ExchangeRef)
    (cause : FailureRef) (body : Octets) (fields : Fields) (name : FieldName) :
    ((w.errorBrief now e cause).fields body fields).values name =
      w.channel.config.errorValues now body fields name := by
  have hvalues := (Response.recycled (w.failures.get cause).error.status
    (w.channel.config.standardFields now)).values_errorFields body fields name
  refine hvalues.trans ?_
  unfold Config.errorValues
  by_cases hname : name = .contentLength
  · rw [if_pos hname, if_pos hname]
  · rw [if_neg hname, if_neg hname, ← Config.values_standardFields]
    by_cases hgiven : fields.values name = []
    · rw [if_pos hgiven, if_neg (not_not.2 hgiven)]
      rfl
    · rw [if_neg hgiven, if_pos hgiven]

/-- **The error response forgets what was prepared.** An exchange is active at one moment and later,
after whatever was done with it, it is still active with a head that is not fixed, and is failed.
The error response is made from what was there at the earlier moment. Its head has the status of the
cause and the length of the body. The stream of that moment makes its fields of others that have,
name by name, the values that the renderer gives, or else those that are configured, and as the only
`Content-Length` that of the body (`Config.errorValues`). The head goes with the whole body in one
last send, without trailers, which is the only one there ever is. When that send ended, the stream
is failed with the cause, by which a failure of the send is suppressed. -/
theorem error_response_forgets {w : World κ ε} (hw : Reachable w) {e : ExchangeRef}
    {stream : Stream} {cause : FailureRef} (hactive : (w.activeFor? e).isSome = true)
    (hstream : w.channel.stream = some stream) (hcause : cause.index < w.failures.entries.size)
    {β : Type} {m : Engine κ ε β} (hm : Permitted m)
    (hactive' : ((m w).2.activeFor? e).isSome = true)
    (hopen : ((m w).2.exchange e).response.committed = false) {depth : Nat} {host : Host κ ε}
    (hh : Surroundings depth host) {edit : StreamRef → Fields → Fields}
    (hprepare : host.Prepares edit) {body : Octets} {fields : Fields} {v : World κ ε}
    (hrender : (m w).2.Rendered host e cause body fields v) :
    let brief := w.errorBrief host.now e cause
    let shown := brief.fields body fields
    let head : ResponseHead := ⟨(w.failures.get cause).error.status, w.channel.version,
      edit stream.base shown, some body.length⟩
    (m w).2.errorBrief host.now e cause = brief ∧
    (∀ name, shown.values name = w.channel.config.errorValues host.now body fields name) ∧
    ∃ stream' : Stream, (m w).2.channel.stream = some stream' ∧ stream'.base = stream.base ∧
      (m w).2.FailsWith host e cause (.ofError ⟨v.sends.size⟩ e stream' cause head body) none := by
  intro brief shown head
  have h := hw.possible
  have hcourse := hm.runs w h.sound
  have h' := h.course hcourse
  have hbrief := Course.errorBrief_eq hcourse h hactive hactive' hcause host.now
  obtain ⟨stream', hstream', hover⟩ := Course.over hcourse h hactive hactive' hstream
  obtain ⟨a, ha⟩ := Option.isSome_iff_exists.1 hactive'
  obtain ⟨made, hmakes, hfails⟩ :=
    h'.fails_of_rendered ha hstream' hopen hh.lawful hprepare.givesFields hrender
  rw [hbrief] at hmakes hfails
  rw [hmakes.eq_edit hprepare, hover.base_eq] at hfails
  exact ⟨hbrief, ErrorBrief.values_fields w host.now e cause body fields, stream', hstream',
    hover.base_eq, hfails⟩

/-! ## A run -/

/-- The same surroundings with another renderer. -/
def Host.rendering (host : Host κ ε)
    (render : RequestHead → ErrorPage → Fields → Engine κ ε (Octets × Fields)) : Host κ ε :=
  { host with render }

theorem Surroundings.rendering {depth : Nat} (h : Surroundings (depth + 1) host)
    {render : RequestHead → ErrorPage → Fields → Engine κ ε (Octets × Fields)}
    (hrender : ∀ request page fields,
      Client (Surroundings depth) _ (render request page fields)) :
    Surroundings (depth + 1) (host.rendering render) := by
  obtain ⟨⟨hrun, hread, hdemand, hprepare, hsend, hpush, hconsume, hsucceeded, hfailed, hobserve,
    hquiet, hhandle, -, htask⟩, hperform⟩ := h
  exact ⟨⟨hrun, hread, hdemand, hprepare, hsend, hpush, hconsume, hsucceeded, hfailed, hobserve,
    hquiet, hhandle, hrender, htask⟩, hperform⟩

/-- There is a failure that nobody has reported. A request arrives and is handled, and its response
is still to be prepared. -/
def unprepared : Engine Unit Unit Unit := do
  let _ ← Engine.newFailure (.transport "lost")
  let _ ← Channel.setStream (.transport ⟨0⟩)
  let _ ← Channel.onRequest (Host.idle 2) .bare
  Job.perform (Host.idle 2) (.dispatch ⟨0⟩)

theorem permitted_unprepared : Permitted unprepared := by
  have hidle : ∃ depth, Surroundings depth (Host.idle 2 : Host Unit Unit) :=
    ⟨2, surroundings_idle 2⟩
  exact .bind (.newFailure _) fun _ => .bind (.setStream _) fun _ =>
    .bind (.onRequest _ hidle) fun _ => .perform _ hidle

/-- The application prepares status, length and trailers. -/
def preparation : Engine Unit Unit Unit := do
  ExchangeRef.setStatus ⟨0⟩ .noContent
  let _ ← ExchangeRef.setContentLength ⟨0⟩ 7
  ExchangeRef.editTrailers ⟨0⟩ fun trailers => pure ((), trailers.insert .server .close)

theorem permitted_preparation : Permitted preparation :=
  .bind (.setStatus _ _) fun _ => .bind (.setContentLength _ _) fun _ =>
    .editTrailers _ fun _ => .pure _

/-- A renderer that declares a length which is not that of its body, and has a date of its own. -/
def datedPage : RequestHead → ErrorPage → Fields → Engine Unit Unit (Octets × Fields) :=
  fun _ _ fields =>
    pure ([104, 105], (fields.insert .contentLength (.ofNat 5)).insert .date (.ofNat 7))

/-- The error response has status 500 and length 2, the date of the renderer, and no trailers. -/
theorem error_response_forgets_preparation :
    let w := (preparation (World.after unprepared)).2
    let host := (Host.idle 2).rendering datedPage
    let head : ResponseHead := ⟨.internalServerError, .http11,
      (Fields.empty.insert .date (.ofNat 7)).insert .contentLength (.ofNat 2), some 2⟩
    (w.exchange ⟨0⟩).response.status = some .noContent ∧
    ContentLength.ofFields? (w.exchange ⟨0⟩).response.fields = some 7 ∧
    w.channel.config.standardFields host.now = Fields.empty.insert .date .close ∧
    w.FailsWith host ⟨0⟩ ⟨0⟩ (.ofError ⟨0⟩ ⟨0⟩ (.transport ⟨0⟩) ⟨0⟩ head [104, 105]) none := by
  intro w host head
  have hh : Surroundings 2 host := (surroundings_idle 2).rendering fun _ _ _ => .pure _
  have hprepare : host.Prepares fun _ fields => fields :=
    ⟨fun _ _ w => ⟨w.outside, rfl⟩, fun _ w => ⟨w.outside, rfl⟩⟩
  have hactive : ((World.after unprepared).activeFor? ⟨0⟩).isSome = true := by decide +kernel
  have hactive' : (w.activeFor? ⟨0⟩).isSome = true := by decide +kernel
  have hstream : (World.after unprepared).channel.stream = some (.transport ⟨0⟩) := by decide +kernel
  have hopen : (w.exchange ⟨0⟩).response.committed = false := by decide +kernel
  have hrender : w.Rendered host ⟨0⟩ ⟨0⟩ [104, 105]
      ((Fields.empty.insert .contentLength (.ofNat 5)).insert .date (.ofNat 7))
      (w.startOver host.now ⟨0⟩ ⟨0⟩) :=
    ⟨rfl, rfl⟩
  obtain ⟨-, -, stream', hattached, -, hfails⟩ :=
    error_response_forgets permitted_unprepared.reachable hactive hstream (by decide +kernel)
      permitted_preparation hactive' hopen hh hprepare hrender
  have hhead : ((World.after unprepared).errorBrief host.now ⟨0⟩ ⟨0⟩).head
      (((World.after unprepared).errorBrief host.now ⟨0⟩ ⟨0⟩).fields [104, 105]
        ((Fields.empty.insert .contentLength (.ofNat 5)).insert .date (.ofNat 7))) [104, 105] =
      head := by decide +kernel
  have hattached' : w.channel.stream = some (.transport ⟨0⟩) := by decide +kernel
  cases hattached.symm.trans hattached'
  have href : (⟨(w.startOver host.now ⟨0⟩ ⟨0⟩).sends.size⟩ : SendRef) = ⟨0⟩ := by decide +kernel
  rw [href] at hfails
  refine ⟨by decide +kernel, by decide +kernel, by decide +kernel, ?_⟩
  rw [← hhead]
  exact hfails

/-! ## What becomes of it during rendering -/

/-- Rendering that has a hand in the response: it leaves this status, these fields and these
trailers with the exchange, and returns this body. -/
def ExchangeRef.meddle (e : ExchangeRef) (status : Status) (fields trailers : Fields)
    (body : Octets) : RequestHead → ErrorPage → Fields → Engine κ ε (Octets × Fields) :=
  fun _ _ _ => do
    e.setStatus status
    let _ ← e.editFields fun _ => pure ((), fields)
    e.editTrailers fun _ => pure ((), trailers)
    return (body, .empty)

namespace ExchangeRef

variable {w : World κ ε} {e : ExchangeRef}

/-- It takes nothing but the exchange. -/
theorem client_meddle (H : Host κ ε → Prop) (e : ExchangeRef) (status : Status)
    (fields trailers : Fields) (body : Octets) (request : RequestHead) (page : ErrorPage)
    (given : Fields) : Client H _ (e.meddle status fields trailers body request page given) :=
  .bind (.setStatus e status) fun _ => .bind (.editFields e fun _ => .pure _) fun _ =>
    .bind (.editTrailers e fun _ => .pure _) fun _ => .pure _

theorem setStatus_run (hopen : (w.exchange e).response.committed = false) (status : Status) :
    e.setStatus status w =
      (.done (), w.modifyResponse e fun r => { r with status := some status }) := by
  refine congrArg (Prod.mk _) (modifyExchange_congr w e ?_)
  simp only [hopen, Bool.false_eq_true, if_false]

theorem editFields_run (hopen : (w.exchange e).response.committed = false) (fields : Fields) :
    e.editFields (fun _ => pure ((), fields)) w =
      (.done (.ok ()), w.modifyResponse e fun r => { r with fields }) := by
  have hresponse : Engine.response e w = (.done (w.exchange e).response, w) := rfl
  have hagain : (do
      if (← Engine.response e).committed then return .error .committed
      Engine.modifyResponse e fun r => { r with fields }
      return .ok () : Engine κ ε (Except ExchangeError Unit)) w =
      (.done (.ok ()), w.modifyResponse e fun r => { r with fields }) := by
    refine (Effect.bind_of_done hresponse).trans ?_
    rw [hopen]
    rfl
  refine (Effect.bind_of_done hresponse).trans ?_
  rw [hopen]
  exact hagain

theorem meddle_run (hlt : e.index < w.exchanges.size)
    (hopen : (w.exchange e).response.committed = false) (status : Status)
    (fields trailers : Fields) (body : Octets) (request : RequestHead) (page : ErrorPage)
    (given : Fields) :
    e.meddle status fields trailers body request page given w =
      (.done (body, .empty), w.modifyExchange e fun x =>
        { x with
          response := { x.response with status := some status, fields },
          trailers := some trailers }) := by
  have hopen' : ((w.modifyResponse e fun r => { r with status := some status }).exchange
      e).response.committed = false := by
    rw [World.modifyResponse, exchange_modifyExchange_self w hlt]
    exact hopen
  refine (Effect.bind_of_done (setStatus_run hopen status)).trans ?_
  refine (Effect.bind_of_done (editFields_run hopen' fields)).trans ?_
  rw [World.modifyResponse, World.modifyResponse, modifyExchange_modifyExchange]
  exact congrArg (Prod.mk _) (modifyExchange_modifyExchange _ e _ _)

end ExchangeRef

theorem Fields.extend_empty (fs : Fields) : fs.extend .empty = fs := by
  have hkept : fs.entries.filter (fun e => (empty.values e.1).isEmpty) = fs.entries :=
    List.filter_eq_self.2 fun _ _ => rfl
  rw [extend, hkept, empty, List.append_nil]

/-- **The error response takes over what rendering leaves.** An exchange whose head is not fixed is
failed. Whatever the renderer does, as long as it returns, the error response has the status and the
trailers that it leaves with the exchange. For every name the stream is shown the values that the
renderer gives, or else those that it leaves with the exchange. Out of its reach are only the length,
which is that of the body, and the one last send, which is all that is ever sent. And it need not
leave what the response started over with: for every status, all fields and all trailers there is a
renderer, with no other means than the exchange, that has them sent, whatever the status of the
cause is. -/
theorem error_response_takes_over {w : World κ ε} (hw : Reachable w) {e : ExchangeRef}
    {stream : Stream} (hactive : (w.activeFor? e).isSome = true)
    (hstream : w.channel.stream = some stream)
    (hopen : (w.exchange e).response.committed = false) {depth : Nat} {host : Host κ ε}
    (hh : Surroundings (depth + 1) host) {edit : StreamRef → Fields → Fields}
    (hprepare : host.Prepares edit) (cause : FailureRef) :
    (∀ (body : Octets) (fields : Fields) (v : World κ ε),
      host.render (w.exchange e).request (.ofFailure w.failures cause) .empty
        (w.startOver host.now e cause) = (.done (body, fields), v) →
      let left := (v.exchange e).response
      let shown := left.errorFields body fields
      let head : ResponseHead :=
        ⟨left.status.getD .ok, w.channel.version, edit stream.base shown, some body.length⟩
      (∀ name, shown.values name =
        if name = .contentLength then [.ofNat body.length]
        else if fields.values name = [] then left.fields.values name else fields.values name) ∧
      w.FailsWith host e cause (.ofError ⟨v.sends.size⟩ e stream cause head body)
        (v.exchange e).trailers) ∧
    ∀ (status : Status) (fields trailers : Fields) (body : Octets),
      let meddling := host.rendering (e.meddle status fields trailers body)
      let shown := fields.insert .contentLength (.ofNat body.length)
      let head : ResponseHead :=
        ⟨status, w.channel.version, edit stream.base shown, some body.length⟩
      Surroundings (depth + 1) meddling ∧
        (∀ name, shown.values name =
          if name = .contentLength then [.ofNat body.length] else fields.values name) ∧
        w.FailsWith meddling e cause (.ofError ⟨w.sends.size⟩ e stream cause head body)
          (some trailers) := by
  have h := hw.possible
  obtain ⟨a, ha⟩ := Option.isSome_iff_exists.1 hactive
  constructor
  · intro body fields v hrun left shown head
    obtain ⟨made, hmakes, hfails⟩ :=
      ExchangeRef.fail_of_rendered h ha hstream hopen hh.lawful hprepare.givesFields hrun
    rw [hmakes.eq_edit hprepare] at hfails
    exact ⟨left.values_errorFields body fields, hfails⟩
  · intro status fields trailers body meddling shown head
    have hmeddling : Surroundings (depth + 1) meddling :=
      hh.rendering (e.client_meddle _ status fields trailers body)
    have hlt := h.sound.index_lt_of_active ha
    have hlt' : e.index < (w.startOver meddling.now e cause).exchanges.size := by
      rw [startOver, size_modifyExchange]
      exact hlt
    have hstarted := exchange_startOver hlt meddling.now cause
    have hrun := ExchangeRef.meddle_run hlt' (by rw [hstarted]; rfl) status fields trailers body
      (w.exchange e).request (.ofFailure w.failures cause) .empty
    have hprepare' : meddling.Prepares edit := ⟨hprepare.transport, hprepare.observe⟩
    obtain ⟨made, hmakes, hfails⟩ := ExchangeRef.fail_of_rendered h ha hstream hopen
      hmeddling.lawful hprepare'.givesFields hrun
    rw [hmakes.eq_edit hprepare', exchange_modifyExchange_self _ hlt', Response.errorHead,
      Response.errorFields, Fields.extend_empty] at hfails
    refine ⟨hmeddling, fun name => ?_, hfails⟩
    rw [Fields.values_insert]
    exact if_congr eq_comm rfl rfl

/-- The cause has status 500, and status 200 is sent, without the standard fields. -/
theorem error_response_takes_over_meddled :
    let w := World.after unprepared
    let trailers := Fields.empty.insert .server .close
    let head : ResponseHead :=
      ⟨.ok, .http11, Fields.empty.insert .contentLength (.ofNat 2), some 2⟩
    (w.failures.get ⟨0⟩).error.status = .internalServerError ∧
    w.FailsWith ((Host.idle 2).rendering (ExchangeRef.meddle ⟨0⟩ .ok .empty trailers [104, 105]))
      ⟨0⟩ ⟨0⟩ (.ofError ⟨0⟩ ⟨0⟩ (.transport ⟨0⟩) ⟨0⟩ head [104, 105]) (some trailers) := by
  intro w trailers head
  have hactive : (w.activeFor? ⟨0⟩).isSome = true := by decide +kernel
  have hstream : w.channel.stream = some (.transport ⟨0⟩) := by decide +kernel
  have hopen : (w.exchange ⟨0⟩).response.committed = false := by decide +kernel
  have hfails := (error_response_takes_over permitted_unprepared.reachable hactive hstream hopen
    (surroundings_idle 2) (Host.prepares_idle 2) ⟨0⟩).2 .ok .empty trailers [104, 105]
  exact ⟨by decide +kernel, hfails.2.2⟩

end HttpExchange
