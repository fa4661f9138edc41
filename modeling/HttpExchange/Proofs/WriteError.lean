import HttpExchange.Proofs.ErrorResponse
import HttpExchange.Proofs.WriteFate

/-!
# Error pages that are written

An application can have an error page written itself. Its response is not started over: the fields
of the page are laid over what was prepared, and the head is fixed as that of any last write. So a
length that the renderer declares is taken at its word, and a page of another length is withheld
(`error_page_written_if_fitting`), where the error response of a failure has the length of its body
whatever the renderer declares.

The two ways are set side by side in one statement, about one renderer and one state. What is written
is described by `World.WritesPage` and `World.WithholdsPage`, of which the second is for good: once
bytes did not fit, the exchange never sends anything again. The error response of the same page is
that of `Proofs.ErrorResponse`.

The streams need not be known for this. It is enough that they give some fields for the head when they
are asked (`Host.GivesFields`), and the head that is sent has just these.
-/

namespace HttpExchange

variable {κ ε : Type} {host : Host κ ε}

open World Record

/-! ## The head of the page -/

namespace Response

variable {r : Response}

/-- What is prepared for an error page. -/
def prepared (r : Response) (status : Status) (fields : Fields) : Response :=
  { r with status := some status, fields := (r.fields.remove .contentLength).extend fields }

/-- The fields that an error page has when its head is fixed. -/
def pageFields (r : Response) (body : Octets) (fields : Fields) : Fields :=
  let laid := (r.fields.remove .contentLength).extend fields
  if (ContentLength.ofFields? fields).isNone then laid.insert .contentLength (.ofNat body.length)
  else laid

/-- The length of an error page is what its renderer declares, or else that of its body. -/
def pageLength (body : Octets) (fields : Fields) : Nat :=
  (ContentLength.ofFields? fields).getD body.length

/-- The head of an error page is fixed with the length that the renderer declares, if it does. -/
theorem after_prepared (hopen : r.committed = false) (hr : r.written = 0) (status : Status)
    (body : Octets) (fields : Fields) :
    (r.prepared status fields).after true [body] =
      { r with
        status := some status, fields := r.pageFields body fields, committed := true,
        written := body.length, lastWritten := true,
        committedLength := some (pageLength body fields) } := by
  have hwritten : r.written + [body].flatten.length = body.length := by simp [hr]
  have hdeclared : ContentLength.ofFields? ((r.prepared status fields).accept true [body]).fields =
      ContentLength.ofFields? fields := ContentLength.ofFields?_extend_remove r.fields fields
  rw [← freeze_of_open (r := r.prepared status fields) hopen]
  unfold pageFields pageLength
  cases h : ContentLength.ofFields? fields with
  | none =>
    rw [freeze_of_undeclared (hdeclared.trans h)]
    simp only [accept, prepared, hwritten]
    rfl
  | some n =>
    rw [freeze_of_declared (hdeclared.trans h)]
    simp only [accept, prepared, hwritten]
    rfl

/-- A page is sent if its length is that of the body. -/
theorem fate_prepared (hopen : r.committed = false) (hr : r.written = 0) (status : Status)
    (body : Octets) (fields : Fields) :
    ((r.prepared status fields).after true [body]).fate true =
      if pageLength body fields = body.length then .sent
      else .misfit (pageLength body fields) body.length := by
  rw [after_prepared hopen hr]
  show (if pageLength body fields < body.length ∨ true = true ∧ body.length < pageLength body fields
    then WriteFate.misfit (pageLength body fields) body.length else .sent) = _
  by_cases h : pageLength body fields = body.length
  · rw [if_pos h, if_neg]
    rintro (hlt | ⟨-, hlt⟩)
    · exact Nat.ne_of_lt hlt h
    · exact Nat.ne_of_gt hlt h
  · rw [if_neg h, if_pos]
    exact (Nat.lt_or_gt_of_ne h).imp id fun hlt => ⟨rfl, hlt⟩

end Response

/-! ## What becomes of the page -/

namespace World

variable {w v : World κ ε} {e : ExchangeRef} {status : Status} {message : Option String}
  {callback : Callback κ} {body : Octets} {fields : Fields}

/-- The renderer is called for an error page that an exchange is to write, gives this one, and
leaves the exchange alone. -/
structure PageGiven (w : World κ ε) (host : Host κ ε) (e : ExchangeRef) (status : Status)
    (message : Option String) (body : Octets) (fields : Fields) (v : World κ ε) : Prop where
  run : host.render (w.exchange e).request (.ofStatus status message none) .empty w =
    (.done (body, fields), v)
  spared : v.exchange e = w.exchange e
  active : v.activeFor? e = w.activeFor? e

/-- Writing an error page comes to this send: once the page is laid over what was prepared, its body
is written like any other, its callback is to be told how the send ends, and no other send ever
comes of the exchange. -/
structure WritesPage (w : World κ ε) (host : Host κ ε) (e : ExchangeRef) (status : Status)
    (message : Option String) (callback : Callback κ) (body : Octets) (x : World κ ε)
    (s : Sending κ) : Prop where
  sends : ∃ u : World κ ε, e.writeError host status message callback w =
      s.stream.send host (s.head.map (·, e)) s.last s.ref s.chunks u ∧
    (u.activeFor? e).bind (·.write) = some callback ∧
    x.SendsWrite host e s.stream true callback [body] s u
  only : ∀ (β : Type) (m : Engine κ ε β), Permitted m → ∀ s',
    .sent e s' ∈ (m (e.writeError host status message callback w).2).2.deeds ↔ s' = s

/-- Writing an error page comes to a refusal for this reason: the page is laid over what was prepared
and its body is counted, but then the write is not pending any more, its callback is told a new
failure with the reason, and nothing is ever sent for the exchange. -/
structure WithholdsPage (w : World κ ε) (host : Host κ ε) (e : ExchangeRef) (status : Status)
    (message : Option String) (callback : Callback κ) (body : Octets) (x : World κ ε)
    (stream : Stream) (fault : ExchangeError) : Prop where
  refuses : ∃ w₁, x.Counts host e stream true callback [body] w₁ ∧
    let u := (w₁.note (.mismatched e)).dropWrite e
    e.writeError host status message callback w = Engine.refuseWrite host callback fault u ∧
    u.deeds = .mismatched e :: x.deeds ∧ (u.activeFor? e).bind (·.write) = none ∧
    let w₀ := u.enterFailure callback fault
    (w₀.failures.get x.failures.next).error = fault ∧
      (e.writeError host status message callback).Entrusts host w w₀
        ⟨"write-failure", .complete callback (.error x.failures.next)⟩
  never : ∀ (β : Type) (m : Engine κ ε β), Permitted m → ∀ s,
    .sent e s ∉ (m (e.writeError host status message callback w).2).2.deeds

/-- Once bytes did not fit, nothing more is sent. -/
theorem Possible.unsent_of_mismatched (h : v.Possible) (hsuffix : w.deeds <:+ v.deeds)
    (hmismatched : .mismatched e ∈ w.deeds) (hunsent : ∀ s, .sent e s ∉ w.deeds)
    (s : Sending κ) : .sent e s ∉ v.deeds := by
  intro hsent
  obtain ⟨late, hlate⟩ := hsuffix
  rw [← hlate] at hsent
  rcases List.mem_append.1 hsent with hsent | hsent
  · obtain ⟨late₁, late₂, rfl⟩ := List.append_of_mem hsent
    have hearlier : .sent e s :: (late₂ ++ w.deeds) <:+ v.deeds := by
      rw [← hlate, List.append_assoc]
      exact List.suffix_append _ _
    have hhistory := hearlier.filter (·.exchange? = some e)
    rw [List.filter_cons_of_pos (by simp [Deed.exchange?])] at hhistory
    have hallowed := (h.orderly e).regular s _ hhistory
    refine hallowed.fits (List.mem_filter.2 ⟨List.mem_append_right _ hmismatched, ?_⟩)
    simp [Deed.exchange?]
  · exact hunsent s hsent

end World

namespace ExchangeRef

variable {w : World κ ε} {e : ExchangeRef} {stream : Stream} {a : Active κ} {last : Bool}
  {chunks : List Octets}

/-- Once a whole body is sent, nothing else ever is. -/
theorem only_sent_of_sent (hh : host.Lawful) {u : World κ ε} (hu : u.Possible) {s : Sending κ}
    {callback : Callback κ} {chunks : List Octets}
    (hsends : w.SendsWrite host e stream true callback chunks s u)
    (hopen : (w.exchange e).response.committed = false) {β : Type} {m : Engine κ ε β}
    (hm : Permitted m) (s' : Sending κ) :
    .sent e s' ∈ (m (e.write host true callback chunks w).2).2.deeds ↔ s' = s := by
  have hcourse := Runs.compositional.send hh.answers (s.head.map (·, e)) true s.ref chunks stream _
    hu.sound
  rw [← hsends.run] at hcourse
  have hwritten := hu.course hcourse
  have hrest := hm.runs _ hwritten.sound
  have hsuffix := (Course.deeds_suffix hcourse).trans (Course.deeds_suffix hrest)
  refine (hwritten.course hrest).only_sent (hsuffix.subset ?_) ?_ ?_ s'
  · rw [hsends.once]
    exact List.mem_cons_self
  · rw [hsends.sending, hopen]
    rfl
  · rw [hsends.sending]

/-- Once a whole body is withheld, nothing is ever sent. -/
theorem unsent_of_withheld (hh : host.Lawful) (h : w.Possible)
    (hstream : w.channel.stream = some stream) (ha : w.activeFor? e = some a)
    {callback : Callback κ} {chunks : List Octets} {head : Option ResponseHead} {w₁ : World κ ε}
    {commits : Bool} (hadm : a.admission (w.exchange e).response true chunks = .send commits)
    (hopen : (w.exchange e).response.committed = false)
    (hfix : (w.accept e true callback chunks).HeadFixed e true commits w₁ head)
    {fault : ExchangeError} (hmisfit : (w₁.exchange e).response.lengthFault true = some fault)
    (hrun : e.write host true callback chunks w =
      Engine.refuseWrite host callback fault ((w₁.note (.mismatched e)).dropWrite e))
    {β : Type} {m : Engine κ ε β} (hm : Permitted m) (s : Sending κ) :
    .sent e s ∉ (m (e.write host true callback chunks w).2).2.deeds := by
  have hstep := Step.withhold (A := w.Open) callback hstream ha hadm hfix hmisfit
  have hwithheld := h.course (.single hstep)
  have hcourse := Engine.course_refuseWrite hh hwithheld.sound (fun _ h => h) .refl
  rw [← hrun] at hcourse
  have hwritten := hwithheld.course hcourse
  have hrest := hm.runs _ hwritten.sound
  have hunsent := (h.orderly e).uncommitted hopen
  have hkept : w₁.deeds = w.deeds := hfix.deeds_eq
  obtain ⟨tasks, hdeeds⟩ : ∃ tasks,
      (((w₁.note (.mismatched e)).dropWrite e).refuse callback fault).deeds =
        .offered .channel tasks :: .mismatched e :: w.deeds := by
    rw [World.refuse, deeds_offer, ← hkept]
    exact ⟨_, congrArg (List.cons _) (deeds_dropWrite e)⟩
  refine (hwritten.course hrest).unsent_of_mismatched (e := e)
    ((Course.deeds_suffix hcourse).trans (Course.deeds_suffix hrest)) ?_ ?_ s
  · rw [hdeeds]
    exact List.mem_cons_of_mem _ List.mem_cons_self
  · rw [hdeeds]
    intro s hmem
    rcases List.mem_cons.1 hmem with heq | hmem
    · cases heq
    · rcases List.mem_cons.1 hmem with heq | hmem
      · cases heq
      · exact hunsent s ((mem_history w).2 ⟨hmem, rfl⟩)

/-- The head that a page fixes has the status of the page and its length. -/
theorem head_of_counts {x w₁ : World κ ε} {r : Response} {status : Status} {body : Octets}
    {fields : Fields} {callback : Callback κ}
    (hcounts : x.Counts host e stream true callback [body] w₁)
    (hresponse : (x.exchange e).response = r.prepared status fields)
    (hopen : r.committed = false) (hr : r.written = 0) :
    ∃ made, stream.Makes host (r.pageFields body fields) made ∧
      w₁.headOf e =
        ⟨status, x.channel.version, made, some (Response.pageLength body fields)⟩ := by
  have hafter := Response.after_prepared hopen hr status body fields
  rw [← hresponse] at hafter
  have hopen' : (x.exchange e).response.committed = false := by
    rw [hresponse]
    exact hopen
  have hversion : w₁.channel.version = x.channel.version :=
    congrArg (·.channel.version) hcounts.state
  have hprepared := hcounts.prepared hopen'
  obtain ⟨made, hexchange⟩ := hcounts.exchange
  rw [hafter] at hprepared hexchange
  rw [hexchange] at hprepared
  refine ⟨made, ⟨_, _, hprepared⟩, ?_⟩
  rw [headOf, hexchange, hversion]
  rfl

/-- A page that is given for an open response is written as its whole body. -/
theorem writeError_of_given {v : World κ ε} {status : Status} {message : Option String}
    {body : Octets} {fields : Fields} (hpage : w.PageGiven host e status message body fields v)
    (hopen : (w.exchange e).response.committed = false) (callback : Callback κ) :
    e.writeError host status message callback w =
      e.write host true callback [body] (v.modifyResponse e (·.prepared status fields)) := by
  have hresponse : Engine.response e v = (.done (v.exchange e).response, v) := rfl
  refine (Effect.bind_of_done rfl).trans ((Effect.bind_of_done hpage.run).trans ?_)
  refine (Effect.bind_of_done hresponse).trans ?_
  rw [hpage.spared, hopen]
  rfl

end ExchangeRef

/-! ## Declared and real length -/

/-- **An error page is written if it fits.** The exchange is active and processing, it did not fail
and its head is not fixed, and the renderer gives a page for it without using the exchange. If the
renderer declares no length but that of the body, writing the page comes to one last send of the
whole body, the only one there ever is, whose head has the given status and the length of the body.
If it declares another length, the write is refused for that, and nothing is ever sent. A failure
of the exchange does not share this: with the same body and fields from the renderer its error
response is sent whatever they declare, with the length of the body. -/
theorem error_page_written_if_fitting {w : World κ ε} (hw : Reachable w) {e : ExchangeRef}
    {a : Active κ} (ha : w.activeFor? e = some a) (hprocessing : a.processing = true)
    (herror : a.error = none) (hopen : (w.exchange e).response.committed = false) {depth : Nat}
    (hh : Surroundings depth host) (hgives : host.GivesFields) {status : Status}
    {message : Option String} {body : Octets} {fields : Fields} {v : World κ ε}
    (hpage : w.PageGiven host e status message body fields v) (callback : Callback κ) :
    (∃ stream, v.channel.stream = some stream ∧
      let x := v.modifyResponse e (·.prepared status fields)
      let length := Response.pageLength body fields
      (length = body.length → ∃ made,
        stream.Makes host ((w.exchange e).response.pageFields body fields) made ∧
        let head : ResponseHead := ⟨status, v.channel.version, made, some body.length⟩
        w.WritesPage host e status message callback body x
          ⟨⟨v.sends.size⟩, stream, some head, true, .pendingWrite e, [body]⟩) ∧
      (length ≠ body.length → w.WithholdsPage host e status message callback body x stream
        (.lengthMismatch length body.length))) ∧
    ∀ cause v', w.Rendered host e cause body fields v' → ∃ stream made,
      w.channel.stream = some stream ∧
      let brief := w.errorBrief host.now e cause
      stream.Makes host (brief.fields body fields) made ∧
      w.FailsWith host e cause
        (.ofError ⟨v'.sends.size⟩ e stream cause (brief.head made body) body) none := by
  have h := hw.possible
  have hrender := hh.lawful.answers.render (w.exchange e).request (.ofStatus status message none)
    .empty w h.sound
  rw [hpage.run] at hrender
  have hv : v.Possible := h.course hrender
  have hgiven : (v.modifyResponse e (·.prepared status fields)).Possible :=
    hv.course (.single (ExchangeRef.step_editResponse (A := v.Open) _
      (by rw [hpage.spared]; exact hopen) fun _ => rfl))
  have hactive : (v.modifyResponse e (·.prepared status fields)).activeFor? e = some a :=
    hpage.active.trans ha
  have hresponse : ((v.modifyResponse e (·.prepared status fields)).exchange e).response =
      (w.exchange e).response.prepared status fields := by
    rw [World.modifyResponse,
      exchange_modifyExchange_self _ (hv.sound.index_lt_of_active (hpage.active.trans ha)),
      hpage.spared]
  obtain ⟨hwritten, -, hlast⟩ := (h.response_consistent e).open_fresh hopen
  have hidle : a.write = none := by
    refine Option.eq_none_iff_forall_ne_some.2 fun pending hpending => ?_
    have hcommitted := ((h.active_consistent ha).write (by rw [hpending]; rfl)).2.2
    cases hopen.symm.trans hcommitted
  have hadm : a.admission ((w.exchange e).response.prepared status fields) true [body] =
      .send true := by
    simp [Active.admission, Response.prepared, hidle, hprocessing, herror, hlast, hopen]
  obtain ⟨stream, hstream⟩ := hv.sound.exists_stream (hpage.active.trans ha)
  have hopen' : ((v.modifyResponse e (·.prepared status fields)).exchange
      e).response.committed = false := by
    rw [hresponse]
    exact hopen
  rw [← hresponse] at hadm
  have hrun := ExchangeRef.writeError_of_given hpage hopen callback
  obtain ⟨w₁, head, hfix, hhead, hcounts, hwrite⟩ := e.write_counts hgiven.sound hstream hactive
    hadm (hgives stream _ _) callback
  rw [hopen', if_neg Bool.false_ne_true] at hhead
  have hfate := Response.fate_prepared hopen hwritten status body fields
  rw [← hresponse] at hfate
  refine ⟨⟨stream, hstream, fun hlength => ?_, fun hlength => ?_⟩, fun cause v' hrendered => ?_⟩
  · obtain ⟨hu, hsends⟩ := sendsWrite_of_fits hgiven hstream hactive hadm hfix
      (by rw [hopen', if_neg Bool.false_ne_true, hhead]) hcounts hwrite
      (hfate.trans (if_pos hlength))
    obtain ⟨made, hmakes, hfixed⟩ := ExchangeRef.head_of_counts hcounts hresponse hopen hwritten
    rw [hhead, hfixed, hlength] at hu hsends
    have hsent := hsends.run
    rw [← hrun] at hsent
    refine ⟨made, hmakes, ⟨_, hsent, hsends.waits.2, hsends⟩, fun β m hm => ?_⟩
    rw [hrun]
    exact ExchangeRef.only_sent_of_sent hh.lawful hu hsends hopen' hm
  · have hmisfit := hfate.trans (if_neg hlength)
    obtain ⟨hdeeds, hpending, herr, hentrusts⟩ :=
      withholds_of_misfit hgiven hactive hfix hcounts hwrite hmisfit
    have hrefused := refused_of_misfit hactive hfix hcounts hwrite hmisfit
    refine ⟨⟨w₁, hcounts, hrun.trans hrefused, hdeeds, hpending, herr, hentrusts.of_eq hrun⟩,
      fun β m hm => ?_⟩
    have hfault := hcounts.lengthFault_eq
    rw [hmisfit] at hfault
    rw [hrun]
    exact ExchangeRef.unsent_of_withheld hh.lawful hgiven hstream hactive hadm hopen' hfix hfault
      hrefused hm
  · obtain ⟨attached, hattached⟩ := h.sound.exists_stream ha
    obtain ⟨made, hmakes, hfails⟩ :=
      h.fails_of_rendered ha hattached hopen hh.lawful hgives hrendered
    exact ⟨attached, made, hattached, hmakes, hfails⟩

/-- A renderer that declares a length which is not that of its body. -/
def misstatedPage : RequestHead → ErrorPage → Fields → Engine Unit Unit (Octets × Fields) :=
  fun _ _ fields => pure ([104, 105], fields.insert .contentLength (.ofNat 5))

/-- A page of two bytes that is declared to have five is withheld when it is written, and sent when
the exchange fails. -/
theorem error_page_written_if_fitting_misstated :
    let w := World.after unprepared
    let host := (Host.idle 2).rendering misstatedPage
    let x := w.modifyResponse ⟨0⟩
      (·.prepared .badRequest (Fields.empty.insert .contentLength (.ofNat 5)))
    let head : ResponseHead := ⟨.internalServerError, .http11,
      (Fields.empty.insert .date .close).insert .contentLength (.ofNat 2), some 2⟩
    w.WithholdsPage host ⟨0⟩ .badRequest none .ignore [104, 105] x (.transport ⟨0⟩)
      (.lengthMismatch 5 2) ∧
    w.FailsWith host ⟨0⟩ ⟨0⟩ (.ofError ⟨0⟩ ⟨0⟩ (.transport ⟨0⟩) ⟨0⟩ head [104, 105]) none := by
  intro w host x head
  have hh : Surroundings 2 host := (surroundings_idle 2).rendering fun _ _ _ => .pure _
  have hprepare : host.Prepares fun _ fields => fields :=
    ⟨fun _ _ w => ⟨w.outside, rfl⟩, fun _ w => ⟨w.outside, rfl⟩⟩
  have hactive : (w.activeFor? ⟨0⟩).isSome = true := by decide +kernel
  have hruns : (w.activeFor? ⟨0⟩).all (fun a => a.processing && a.error.isNone) = true := by
    decide +kernel
  have hopen : (w.exchange ⟨0⟩).response.committed = false := by decide +kernel
  have hattached : w.channel.stream = some (.transport ⟨0⟩) := by decide +kernel
  obtain ⟨a, ha⟩ := Option.isSome_iff_exists.1 hactive
  rw [ha, Option.all_some, Bool.and_eq_true, Option.isNone_iff_eq_none] at hruns
  have hpage : w.PageGiven host ⟨0⟩ .badRequest none [104, 105]
      (Fields.empty.insert .contentLength (.ofNat 5)) w := ⟨rfl, rfl, rfl⟩
  have hrendered : w.Rendered host ⟨0⟩ ⟨0⟩ [104, 105]
      (Fields.empty.insert .contentLength (.ofNat 5)) (w.startOver host.now ⟨0⟩ ⟨0⟩) := ⟨rfl, rfl⟩
  obtain ⟨⟨stream, hstream, -, hwithheld⟩, hfailed⟩ := error_page_written_if_fitting
    permitted_unprepared.reachable ha hruns.1 hruns.2 hopen hh hprepare.givesFields hpage .ignore
  cases hattached.symm.trans hstream
  obtain ⟨stream, made, hstream, hmakes, hfails⟩ := hfailed ⟨0⟩ _ hrendered
  cases hattached.symm.trans hstream
  have hmade := hmakes.eq_edit hprepare
  have hhead : (w.errorBrief host.now ⟨0⟩ ⟨0⟩).head
      ((w.errorBrief host.now ⟨0⟩ ⟨0⟩).fields [104, 105]
        (Fields.empty.insert .contentLength (.ofNat 5))) [104, 105] = head := by decide +kernel
  have href : (⟨(w.startOver host.now ⟨0⟩ ⟨0⟩).sends.size⟩ : SendRef) = ⟨0⟩ := by decide +kernel
  have hlength : Response.pageLength [104, 105] (Fields.empty.insert .contentLength (.ofNat 5)) =
      5 := by decide +kernel
  rw [hlength] at hwithheld
  rw [hmade, hhead, href] at hfails
  exact ⟨hwithheld (by decide), hfails⟩

end HttpExchange
