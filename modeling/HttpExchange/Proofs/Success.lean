import HttpExchange.Proofs.Consistency
import HttpExchange.Proofs.Outcome

/-!
# What a success says

A stream is told that its exchange succeeded when the last bytes of the response were sent and all
sends were answered. How they were answered counts only for the final frame, which the engine sends
itself: its outcome is that of the exchange. Of the sends that the application makes the engine asks
no more than that they are over; their results are for the callbacks of the application.

`Record.Earned` says what stands behind a success. `Record.Backed` is what every move keeps.

That a bad answer to a write makes no difference is shown the other way round. It is proved of every
run that the application has sent the last bytes in, whatever the answers were, that ending the
exchange tells the success. All that is asked for is that the call does find the exchange ready and
that the rest of the request body can be discarded.
-/

namespace HttpExchange

variable {κ ε : Type}

namespace Record

variable {e : ExchangeRef} {closing : Prop} {ρ ρ' : Record κ} {h : List (Deed κ)} {d : Deed κ}

/-! ## What stands behind a success -/

/-- The stream of an exchange may be told the success. -/
structure Earned (e : ExchangeRef) (h : List (Deed κ)) : Prop where
  /-- The last bytes were sent. -/
  last : ∃ s, .sent e s ∈ h ∧ s.last = true
  answered : AllAnswered e h
  /-- The bytes of a final frame are out. -/
  final : ∀ s stream result, .sent e s ∈ h → s.callback = .finalFrame e stream →
    .sendEnded e s.ref result ∈ h → result = .ok ()

/-- What is about no send changes nothing about a success. -/
theorem Earned.cons_of_ne (he : Earned e h) (hd : ∀ s, d ≠ .sent e s)
    (hd' : ∀ ref result, d ≠ .sendEnded e ref result) : Earned e (d :: h) := by
  obtain ⟨s, hs, hl⟩ := he.last
  refine ⟨⟨s, List.mem_cons_of_mem _ hs, hl⟩, he.answered.cons_of_ne hd, ?_⟩
  intro s stream result hs hcb hans
  exact he.final s stream result (List.mem_of_ne_of_mem (hd s).symm hs) hcb
    (List.mem_of_ne_of_mem (hd' _ _).symm hans)

theorem Earned.not_unanswered (he : Earned e h) {s : Sending κ} (hs : .sent e s ∈ h) :
    ¬Unanswered e h s.ref := by
  intro hun
  obtain ⟨result, hans⟩ := he.answered s hs
  exact hun result hans

/-! ## The invariant -/

/-- What the flags and the history of an exchange say about its success. -/
structure Backed (e : ExchangeRef) (ρ : Record κ) : Prop where
  /-- Once the last write was admitted the last bytes were sent, if any bytes were and none were
  found not to fit. -/
  last : ρ.state.response.lastWritten = true → (∃ s, .sent e s ∈ ρ.history) →
    .mismatched e ∉ ρ.history → ∃ s, .sent e s ∈ ρ.history ∧ s.last = true
  /-- With the last bytes the length is complete. -/
  fits : Unclosed ρ.history → (∃ s, .sent e s ∈ ρ.history ∧ s.last = true) →
    ρ.state.response.lengthFault true = none
  told : ∀ stream, .succeeded e stream ∈ ρ.history → Earned e ρ.history
  /-- The outcome of the last bytes of an ending call is that of the exchange. -/
  final : ∀ s stream cause result, .sent e s ∈ ρ.history →
    s.callback = finalCallback e stream cause → .sendEnded e s.ref result ∈ ρ.history →
    finalOutcome e stream cause result ∈ ρ.history

/-- Behind a last write there is a last send, unless there was a mismatch. -/
theorem Move.backed_last (hm : ρ.Move e closing ρ') (hb : ρ.Backed e) (ho : ρ.Orderly e)
    (hlast : ρ'.state.response.lastWritten = true) (hsent : ∃ s, .sent e s ∈ ρ'.history)
    (hfits : .mismatched e ∉ ρ'.history) : ∃ s, .sent e s ∈ ρ'.history ∧ s.last = true := by
  have hcons : ∀ {d : Deed κ}, (∀ s, d ≠ .sent e s) → ρ.state.response.lastWritten = true →
      (∃ s, .sent e s ∈ d :: ρ.history) → .mismatched e ∉ d :: ρ.history →
      ∃ s, .sent e s ∈ d :: ρ.history ∧ s.last = true := by
    intro d hd hlast ⟨s, hs⟩ hfits
    have hs' := List.mem_of_ne_of_mem (hd s).symm hs
    obtain ⟨s', hs', hl⟩ :=
      hb.last hlast ⟨s, hs'⟩ fun hmis => hfits (List.mem_cons_of_mem _ hmis)
    exact ⟨s', List.mem_cons_of_mem _ hs', hl⟩
  cases hm with
  | stay | contentAvailable | storeFailure | enable | demand | listenForError | complete =>
    exact hb.last hlast hsent hfits
  | create => cases hlast
  | edit hedit =>
    rw [hedit.same] at hlast
    exact hb.last hlast hsent hfits
  | send _ _ _ _ hfix =>
    rw [hfix.lastWritten_eq] at hlast
    exact ⟨_, List.mem_cons_self, hlast⟩
  | withhold | mismatch => exact absurd (by simp) hfits
  | stick _ _ hadm =>
    -- a write that fixes the head is the first
    obtain ⟨-, -, -, hcommits⟩ := Active.admission_eq_send hadm
    obtain ⟨s, hs⟩ := hsent
    exact absurd hs (ho.uncommitted (by simpa using hcommits.symm) s)
  | answer | succeed | fail | tellFailure | conclude =>
    exact hcons (fun _ => nofun) hlast hsent hfits
  | answerFinal result hs =>
    obtain ⟨s, hs, hl⟩ := hb.last hlast ⟨_, hs⟩ fun hmis =>
      hfits (List.mem_cons_of_mem _ (List.mem_cons_of_mem _ hmis))
    exact ⟨s, List.mem_cons_of_mem _ (List.mem_cons_of_mem _ hs), hl⟩
  | recycle => cases hlast
  | tellSuccess _ _ _ hfix =>
    rw [hfix.lastWritten_eq] at hlast
    refine hcons ?_ hlast hsent hfits
    exact fun _ => nofun
  | sendFinal _ _ _ _ _ hopen => cases hopen.symm.trans hlast
  | stickFinal _ _ _ hcommitted | stickError _ _ _ _ _ hcommitted =>
    obtain ⟨s, hs⟩ := hsent
    exact absurd hs (ho.uncommitted hcommitted s)
  | sendError => exact ⟨_, List.mem_cons_self, rfl⟩

/-- A last send was made of bytes that fit. -/
theorem Move.backed_fits (hm : ρ.Move e closing ρ') (hb : ρ.Backed e) (ho : ρ.Orderly e)
    (hu : Unclosed ρ'.history) (hsent : ∃ s, .sent e s ∈ ρ'.history ∧ s.last = true) :
    ρ'.state.response.lengthFault true = none := by
  obtain ⟨s, hs, hl⟩ := hsent
  -- after the last bytes no write is admitted
  have hlast : ∀ {a : Active κ} {last commits : Bool} {chunks : List Octets},
      a.admission ρ.state.response last chunks = .send commits → Unclosed ρ.history →
      .sent e s ∉ ρ.history := by
    intro a last commits chunks hadm hu hs
    have hopen := (Active.admission_eq_send hadm).2.2.1
    cases hopen.symm.trans (ho.last hu s hs hl)
  cases hm with
  | stay | contentAvailable | storeFailure | enable | demand | listenForError | complete =>
    exact hb.fits hu ⟨s, hs, hl⟩
  | create => exact absurd hs List.not_mem_nil
  | edit hedit =>
    rw [hedit.same]
    exact hb.fits hu ⟨s, hs, hl⟩
  | send _ _ _ hadm _ hfit =>
    rcases List.mem_cons.1 hs with heq | hs
    · cases heq
      cases hl
      exact hfit
    · exact absurd hs (hlast hadm hu.of_cons)
  | withhold _ hadm =>
    exact absurd (List.mem_of_ne_of_mem (by nofun) hs) (hlast hadm hu.of_cons)
  | stick _ _ hadm => exact absurd hs (hlast hadm hu)
  | answer | succeed | fail =>
    exact hb.fits hu.of_cons ⟨s, List.mem_of_ne_of_mem (by nofun) hs, hl⟩
  | recycle _ _ _ _ hcommitted => exact absurd hs (ho.uncommitted hcommitted s)
  | stickFinal _ _ _ hcommitted => exact absurd hs (ho.uncommitted hcommitted s)
  | stickError _ _ _ _ _ hcommitted => exact absurd hs (ho.uncommitted hcommitted s)
  | answerFinal =>
    exact absurd hu (not_unclosed List.mem_cons_self (finalOutcome_closes _ _ _ _))
  | mismatch | tellSuccess | sendFinal | tellFailure | sendError =>
    exact absurd hu (not_unclosed List.mem_cons_self rfl)
  | conclude _ _ _ hd hc => exact absurd hu.of_cons (not_unclosed hd hc)

/-- A call that tells the success has found it earned. -/
theorem Backed.earned {r : Response} {head : Option ResponseHead} {stream : Stream}
    (hb : ρ.Backed e) (ho : ρ.Orderly e) (hk : ρ.Coherent) (hend : ρ.Ending e (some stream) none)
    (hfix : ρ.state.response.close.HeadFixed true (!ρ.state.response.committed) r head)
    (hfits : r.lengthFault true = none) (hlast : r.lastWritten = true) :
    Earned e ρ.history := by
  have hlast' : ρ.state.response.lastWritten = true := hfix.lastWritten_eq.symm.trans hlast
  have hcommitted : ρ.state.response.committed = true := by
    by_contra hopen
    have hnot := (hk.fresh (Bool.eq_false_iff.2 hopen)).2
    cases hnot.symm.trans hlast'
  have hfit := ho.fits_of_close hend.unclosed hfix hfits
  have hsent : ∃ s, .sent e s ∈ ρ.history := (hend.used rfl hcommitted).resolve_right hfit
  refine ⟨hb.last hlast' hsent hfit, ho.settled _ hend.mem_ended hend.unclosed, ?_⟩
  intro s stream' result hs hcb _
  -- there is no final frame yet
  have hclosed := hend.unclosed _ hs
  rw [Deed.closes, hcb] at hclosed
  cases hclosed

/-- A final frame whose bytes are out earns the success. -/
theorem Orderly.earned_of_answer (ho : ρ.Orderly e) {s : Sending κ} {stream : Stream}
    (hs : .sent e s ∈ ρ.history) (hun : Unanswered e ρ.history s.ref)
    (hcb : s.callback = .finalFrame e stream) :
    Earned e (.sendEnded e s.ref (.ok ()) :: ρ.history) := by
  have hfinal : ∀ {s' : Sending κ} {stream' : Stream}, .sent e s' ∈ ρ.history →
      s'.callback = .finalFrame e stream' → s'.last = true := by
    intro s' stream' hs' hcb'
    exact ho.final s' hs' (by rw [hcb']; rfl)
  refine ⟨⟨s, List.mem_cons_of_mem _ hs, hfinal hs hcb⟩, ho.allAnswered_of_answer _ hs hun, ?_⟩
  intro s' stream' result hs' hcb' hans
  have hs'' := List.mem_of_ne_of_mem (by nofun) hs'
  obtain rfl := ho.regular.last_unique hs'' hs (hfinal hs'' hcb') (hfinal hs hcb)
  rcases List.mem_cons.1 hans with heq | hans
  · cases heq
    rfl
  · exact absurd hans (hun result)

/-- A success that is told was earned. -/
theorem Move.backed_told (hm : ρ.Move e closing ρ') (hb : ρ.Backed e) (ho : ρ.Orderly e)
    (hk : ρ.Coherent) {stream : Stream} (hmem : .succeeded e stream ∈ ρ'.history) :
    Earned e ρ'.history := by
  -- a success that was told before closes the history
  have hopen : ∀ {d : Deed κ}, Unclosed ρ.history → d ≠ .succeeded e stream →
      .succeeded e stream ∉ d :: ρ.history := by
    intro d hu hd hmem
    exact not_unclosed (List.mem_of_ne_of_mem hd.symm hmem) rfl hu
  cases hm with
  | stay | edit | contentAvailable | storeFailure | enable | demand | listenForError | stick
  | complete | recycle | stickFinal | stickError => exact hb.told stream hmem
  | create => exact absurd hmem List.not_mem_nil
  | send _ _ ha | withhold ha | succeed _ ha | fail _ _ ha =>
    exact absurd hmem (hopen (ho.unclosed_of_active ha) nofun)
  | answer result hs hun =>
    have hold := hb.told stream (List.mem_of_ne_of_mem (by nofun) hmem)
    exact absurd hun (hold.not_unanswered hs)
  | answerFinal result hs hun hcb =>
    rename_i s stream' cause
    rcases List.mem_cons.1 hmem with heq | hmem
    · -- it is told by the callback of the final frame
      cases cause <;> cases result <;> cases heq
      exact (ho.earned_of_answer hs hun hcb).cons_of_ne (fun _ => nofun) fun _ _ => nofun
    · have hold := hb.told stream (List.mem_of_ne_of_mem (by nofun) hmem)
      exact absurd hun (hold.not_unanswered hs)
  | mismatch _ _ hend =>
    have hmem' := List.mem_of_ne_of_mem (by nofun) hmem
    exact absurd hmem' (hopen hend.unclosed nofun)
  | tellSuccess _ hend _ hfix hfits hlast =>
    exact (hb.earned ho hk hend hfix hfits hlast).cons_of_ne (fun _ => nofun) fun _ _ => nofun
  | sendFinal _ hend | tellFailure _ _ hend | sendError _ _ _ hend =>
    exact absurd hmem (hopen hend.unclosed nofun)
  | conclude =>
    have hold := hb.told stream (List.mem_of_ne_of_mem (by nofun) hmem)
    exact hold.cons_of_ne (fun _ => nofun) fun _ _ => nofun

theorem finalOutcome_ne_sendEnded (stream : Stream) (cause : Option FailureRef) (result : Result)
    (ref : SendRef) (result' : Result) :
    finalOutcome (κ := κ) e stream cause result ≠ .sendEnded e ref result' := by
  cases cause <;> cases result <;> simp [finalOutcome]

/-- A last send whose end is told was answered. -/
theorem Move.backed_final (hm : ρ.Move e closing ρ') (hb : ρ.Backed e)
    (hset : Settled e ρ.history) {s : Sending κ} {stream : Stream} {cause : Option FailureRef}
    {result : Result} (hs : .sent e s ∈ ρ'.history) (hcb : s.callback = finalCallback e stream cause)
    (hans : .sendEnded e s.ref result ∈ ρ'.history) :
    finalOutcome e stream cause result ∈ ρ'.history := by
  have hcons : ∀ {d : Deed κ}, (∀ s, d ≠ .sent e s) → (∀ ref result, d ≠ .sendEnded e ref result) →
      .sent e s ∈ d :: ρ.history → .sendEnded e s.ref result ∈ d :: ρ.history →
      finalOutcome e stream cause result ∈ d :: ρ.history := by
    intro d hd hd' hs hans
    exact List.mem_cons_of_mem _ (hb.final s stream cause result
      (List.mem_of_ne_of_mem (hd s).symm hs) hcb
      (List.mem_of_ne_of_mem (hd' _ _).symm hans))
  -- a send that is new was not answered
  have hnew : ∀ {s' : Sending κ}, NewSend e ρ.history s'.ref → .sent e s ∈ .sent e s' :: ρ.history →
      .sendEnded e s.ref result ∈ .sent e s' :: ρ.history →
      finalOutcome e stream cause result ∈ .sent e s' :: ρ.history := by
    intro s' hnew hs hans
    have hans' := List.mem_of_ne_of_mem (by nofun) hans
    rcases List.mem_cons.1 hs with heq | hs
    · cases heq
      exact absurd hans' (hnew.unanswered result)
    · exact List.mem_cons_of_mem _ (hb.final s stream cause result hs hcb hans')
  cases hm with
  | stay | edit | contentAvailable | storeFailure | enable | demand | listenForError | stick
  | complete | recycle | stickFinal | stickError => exact hb.final s stream cause result hs hcb hans
  | create => exact absurd hs List.not_mem_nil
  | withhold | succeed | fail | tellSuccess | tellFailure | conclude =>
    exact hcons (fun _ => nofun) (fun _ _ => nofun) hs hans
  | mismatch =>
    have hold := hb.final s stream cause result
      (List.mem_of_ne_of_mem (by nofun) (List.mem_of_ne_of_mem (by nofun) hs)) hcb
      (List.mem_of_ne_of_mem (by nofun) (List.mem_of_ne_of_mem (by nofun) hans))
    exact List.mem_cons_of_mem _ (List.mem_cons_of_mem _ hold)
  | send _ _ _ _ _ _ hfresh => exact hnew hfresh hs hans
  | sendFinal _ _ _ _ _ _ hfresh => exact hnew hfresh hs hans
  | sendError _ _ _ _ _ _ _ hfresh => exact hnew hfresh hs hans
  | answer result' hs' _ hcb' =>
    have hs := List.mem_of_ne_of_mem (by nofun) hs
    rcases List.mem_cons.1 hans with heq | hans
    · -- sends can be told apart, and this one does not end the exchange
      obtain ⟨-, href, -⟩ := Deed.sendEnded.inj heq
      rw [hset.distinct s _ hs hs' href, hcb'] at hcb
      cases cause <;> cases hcb
    · exact List.mem_cons_of_mem _ (hb.final s stream cause result hs hcb hans)
  | answerFinal result' hs' _ hcb' =>
    have hs₁ := List.mem_of_ne_of_mem (finalOutcome_ne_sent _ _ _ _).symm hs
    have hs₂ := List.mem_of_ne_of_mem (by nofun) hs₁
    rcases List.mem_cons.1 hans with heq | hans
    · exact absurd heq.symm (finalOutcome_ne_sendEnded _ _ _ _ _)
    · rcases List.mem_cons.1 hans with heq | hans
      · obtain ⟨-, href, rfl⟩ := Deed.sendEnded.inj heq
        rw [hset.distinct s _ hs₂ hs' href, hcb'] at hcb
        obtain ⟨rfl, rfl⟩ := finalCallback_inj hcb
        exact List.mem_cons_self
      · have hold := hb.final s stream cause result hs₂ hcb hans
        exact List.mem_cons_of_mem _ (List.mem_cons_of_mem _ hold)

/-- Every move keeps what stands behind a success. -/
theorem Move.backed (hm : ρ.Move e closing ρ') (hb : ρ.Backed e) (ho : ρ.Orderly e)
    (hk : ρ.Coherent) (hset : Settled e ρ.history) : ρ'.Backed e where
  last := hm.backed_last hb ho
  fits := hm.backed_fits hb ho
  told _ := hm.backed_told hb ho hk
  final _ _ _ _ := hm.backed_final hb hset

theorem backed_new (e : ExchangeRef) : Backed e (⟨default, none, []⟩ : Record κ) where
  last h := nomatch h
  fits _ h := absurd h.choose_spec.1 List.not_mem_nil
  told _ h := absurd h List.not_mem_nil
  final _ _ _ _ h := absurd h List.not_mem_nil

/-- Others leave a response alone that is fixed, after its exchange was detached. -/
theorem Move.response_eq (hm : ρ.Move e False ρ') (ha : ρ.active = none) (hh : ρ.history ≠ [])
    (hc : ρ.state.response.committed = true) : ρ'.state.response = ρ.state.response := by
  cases hm with
  | stay | answer | answerFinal => rfl
  | create _ _ _ _ hnil => exact absurd hnil hh
  | edit hedit => exact hedit.fixed hc
  | contentAvailable h | storeFailure _ h | enable h | demand _ h | listenForError _ h
  | send _ _ h | withhold h | stick _ h | succeed _ h | fail _ _ h => cases ha.symm.trans h
  | complete hf | recycle _ _ hf | mismatch _ hf | tellSuccess hf | sendFinal hf | stickFinal hf
  | tellFailure _ hf | sendError _ _ hf | stickError _ _ hf | conclude hf => exact hf.elim

end Record

namespace World

open Record

variable {A : ExchangeRef → Prop} {w w' : World κ ε} {e : ExchangeRef}

/-- Something stands behind every success in every state of a run. -/
theorem Possible.backed (h : w.Possible) (e : ExchangeRef) : (w.record e).Backed e :=
  (h.record_induct (P := fun ρ => (ρ.Orderly e ∧ ρ.Coherent ∧ Settled e ρ.history) ∧ ρ.Backed e) e
    ⟨⟨orderly_new e _, coherent_new, settled_nil e⟩, backed_new e⟩
    fun _ _ ⟨⟨ho, hk, hs⟩, hb⟩ hm =>
      ⟨⟨hm.orderly ho, hm.coherent hk, (hm.grows ho).settled hs⟩, hm.backed hb ho hk hs⟩).2

theorem Course.response_eq {ended : Option Stream} {cause : Option FailureRef}
    (hc : Course A w w') (hs : w.Sound) (hA : ¬A e) (hend : (w.record e).Ending e ended cause)
    (hcommitted : (w.exchange e).response.committed = true) :
    (w'.exchange e).response = (w.exchange e).response := by
  induction hc with
  | refl => rfl
  | tail hc hstep ih =>
    obtain ⟨hend₁, -, hsame⟩ := Course.ending hc hs hA hend
    have hmove := hstep.move (Course.sound hc hs) e
    rw [eq_false hA] at hmove
    have hlate := hmove.response_eq hend₁.detached hend₁.history_ne_nil
      (hsame.trans hcommitted)
    exact hlate.trans ih

end World

/-! ## Ending a response that was written whole -/

namespace Engine

open World Record

variable {A : ExchangeRef → Prop} {w w' w₁ : World κ ε} {e : ExchangeRef} {stream : Stream}
  {host : Host κ ε}

/-- If the last write was made and its bytes fit, all there is to do at the end of a successful
response is to tell the stream, and then the call only adds to the deeds. -/
theorem course_tellSuccess (hh : host.Lawful) (h : Closing A w w₁ e stream none)
    (hcommitted : (w₁.exchange e).response.committed = true)
    (hlast : (w₁.exchange e).response.lastWritten = true)
    (hfits : (w₁.exchange e).response.lengthFault true = none) :
    Course (fun _ => True) ((w₁.modifyResponse e (·.close)).note (.succeeded e stream))
      (sendEnd host e stream w₁).2 := by
  let w₂ := w₁.modifyResponse e (·.close)
  have hresponse : (w₂.exchange e).response = (w₁.exchange e).response.close :=
    congrArg Exchange.response (exchange_modifyExchange_self w₁ h.index_lt _)
  have hlast₂ : (w₂.exchange e).response.lastWritten = true := by
    rw [hresponse]
    exact hlast
  have hfits₂ : (w₂.exchange e).response.lengthFault true = none := by
    rw [hresponse]
    exact hfits
  have hfix : w₂.HeadFixed e true (!(w₁.exchange e).response.committed) w₂ none := by
    rw [hcommitted]
    exact .before
  have hstep := Step.tellSuccess h.own h.ending h.completing hfix hfits₂ hlast₂
  have hmem : .succeeded e stream ∈ (w₂.note (.succeeded e stream)).history e := by
    rw [history_note_self w₂ rfl]
    exact List.mem_cons_self
  have htold := handed_of_headFixed h hfix hstep rfl rfl hmem rfl
  have hrest : Handed (fun _ => True) (w₂.note (.succeeded e stream))
      (w₂.note (.succeeded e stream)) e :=
    ⟨htold.sound₁, fun _ _ => trivial, trivial, .refl, htold.closed⟩
  refine Course.bind_done rfl (Course.bind_done rfl ?_)
  dsimp only
  rw [hcommitted]
  show Course _ _ (sendRest host e stream none w₂).2
  refine Course.bind_done rfl ?_
  dsimp only
  rw [hfits₂]
  dsimp only
  rw [hlast₂]
  exact hrest.conclude (Runs.compositional.succeeded hh.answers stream)

end Engine

namespace ExchangeRef

open World Record

variable {w : World κ ε} {e : ExchangeRef} {active : Active κ} {stream : Stream} {host : Host κ ε}

/-- The success of a response that was written whole is told, whatever became of its sends. -/
theorem tells_succeed (hh : host.Lawful) (h : w.Possible) (ha : w.activeFor? e = some active)
    (hready : active.Ready) (hstream : w.channel.stream = some stream)
    (hlast : ∃ s, .sent e s ∈ w.history e ∧ s.last = true)
    (hdrained : (stream.consumeAll host ((w.detach e none).setPhase e .completing)).1 =
      .done none) :
    .succeeded e stream ∈ (e.succeed host w).2.history e := by
  obtain ⟨s, hs, hl⟩ := hlast
  have hu := (h.orderly e).unclosed_of_active ha
  have hlast := (h.orderly e).last hu s hs hl
  have hfits := (h.backed e).fits hu ⟨s, hs, hl⟩
  have hcommitted := (h.response_consistent e).committed_of_last hlast
  have hclosing := closing_succeed h.sound ha hready hstream
  -- draining the request body leaves the response alone
  have hconsume := Runs.compositional.consumeAll hh.answers stream
  have hdetached := response_setPhase (w.detach e none) e .completing
  have hresponse := Course.response_eq (hconsume _ hclosing.sound₁) hclosing.sound₁
    hclosing.not_open hclosing.ending (by rw [hdetached]; exact hcommitted)
  rw [hdetached] at hresponse
  have hclosing := (hclosing.run hconsume).1
  rcases hrun : stream.consumeAll host ((w.detach e none).setPhase e .completing) with
    ⟨unread, w₂⟩
  rw [hrun] at hdrained hclosing hresponse
  subst hdrained
  have htold := Engine.course_tellSuccess hh hclosing (by rw [hresponse]; exact hcommitted)
    (by rw [hresponse]; exact hlast) (by rw [hresponse]; exact hfits)
  have hcourse : Course (fun _ => True) ((w₂.modifyResponse e (·.close)).note (.succeeded e stream))
      (e.succeed host w).2 := by
    rw [succeed_run ha hready hstream]
    exact Course.bind_pure (Course.bind_done hrun htold)
  exact (mem_history _).2 ⟨(Course.deeds_suffix hcourse).subset List.mem_cons_self, rfl⟩

end ExchangeRef

/-- **What a success says.** A stream is told the success only if its exchange ended with success,
the last bytes were sent, all sends were answered, and the final frame, if there is one, was answered
with success. The answer to a final frame is the outcome that the stream is told. But how the sends
of the application were answered makes no difference: once it has sent the last bytes, ending the
exchange tells the stream the success, if the unread request body can be drained. -/
theorem success_judged_by_final_frame {w : World κ ε} (hw : Reachable w) (e : ExchangeRef) :
    (∀ stream, .succeeded e stream ∈ w.history e →
      .ended e (some stream) none ∈ w.history e ∧
      (∃ s, .sent e s ∈ w.history e ∧ s.last = true) ∧
      (∀ s, .sent e s ∈ w.history e → ∃ result, .sendEnded e s.ref result ∈ w.history e) ∧
      ∀ s stream' result, .sent e s ∈ w.history e → s.callback = .finalFrame e stream' →
        .sendEnded e s.ref result ∈ w.history e → result = .ok ()) ∧
    (∀ s stream result, .sent e s ∈ w.history e → s.callback = .finalFrame e stream →
      .sendEnded e s.ref result ∈ w.history e →
      finalOutcome e stream none result ∈ w.history e) ∧
    ∀ depth host active stream, Surroundings depth host → w.activeFor? e = some active →
      active.Ready → w.channel.stream = some stream →
      (∃ s, .sent e s ∈ w.history e ∧ s.last = true) →
      (stream.consumeAll host ((w.detach e none).setPhase e .completing)).1 = .done none →
      .succeeded e stream ∈ (e.succeed host w).2.history e := by
  have h := hw.possible
  have hb := h.backed e
  refine ⟨fun stream htold => ?_, fun s stream result hs hcb hans => ?_, ?_⟩
  · obtain ⟨stream', cause, hended, htells⟩ := (h.settled e).told _ htold rfl
    cases htells with
    | succeeded =>
      have hearned := hb.told stream htold
      exact ⟨hended, hearned.last, hearned.answered, hearned.final⟩
  · exact hb.final s stream none result hs hcb hans
  · intro depth host active stream hh ha hready hstream hlast hdrained
    exact ExchangeRef.tells_succeed hh.lawful h ha hready hstream hlast hdrained

/-- The success of a response whose bytes were lost is told. -/
theorem success_judged_lostResponse :
    .sendEnded ⟨0⟩ ⟨0⟩ (.error ⟨0⟩) ∈ (World.after lostResponse).history ⟨0⟩ ∧
    .succeeded ⟨0⟩ (.transport ⟨0⟩) ∈
      (ExchangeRef.succeed (Host.idle 2) ⟨0⟩ (World.after lostResponse)).2.history ⟨0⟩ := by
  let head : ResponseHead :=
    ⟨.ok, .http11, (({} : Config).standardFields .close).insert .contentLength (.ofNat 2), some 2⟩
  let whole : Sending Unit :=
    ⟨⟨0⟩, .transport ⟨0⟩, some head, true, .pendingWrite ⟨0⟩, [[104, 105]]⟩
  have hsent : .sent ⟨0⟩ whole ∈ (World.after lostResponse).history ⟨0⟩ := by decide +kernel
  have hlost : .sendEnded ⟨0⟩ ⟨0⟩ (.error ⟨0⟩) ∈ (World.after lostResponse).history ⟨0⟩ := by
    decide +kernel
  have hactive : ((World.after lostResponse).activeFor? ⟨0⟩).isSome = true := by decide +kernel
  have hflags : ((World.after lostResponse).activeFor? ⟨0⟩).all
      (fun a => a.processing && a.demand.isNone && a.write.isNone && a.error.isNone) = true := by
    decide +kernel
  have hstream : (World.after lostResponse).channel.stream = some (.transport ⟨0⟩) := by
    decide +kernel
  obtain ⟨a, ha⟩ := Option.isSome_iff_exists.1 hactive
  have hready : a.Ready := by
    rw [ha] at hflags
    simp only [Option.all_some, Bool.and_eq_true, Option.isNone_iff_eq_none] at hflags
    obtain ⟨⟨⟨hprocessing, hdemand⟩, hwrite⟩, herror⟩ := hflags
    exact ⟨hprocessing, hdemand, hwrite, herror⟩
  have hjudged := success_judged_by_final_frame permitted_lostResponse.reachable ⟨0⟩
  exact ⟨hlost, hjudged.2.2 2 _ a _ (surroundings_idle 2) ha hready hstream ⟨whole, hsent, rfl⟩ rfl⟩

end HttpExchange
