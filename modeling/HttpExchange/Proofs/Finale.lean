import HttpExchange.Proofs.Constancy
import HttpExchange.Proofs.Success
import HttpExchange.Proofs.WriteFate

/-!
# How a success ends

Once the unread request body is out of the way, what the end of a successful response comes to
follows from the response (`Response.finale`): its bytes break the fixed length, or the last of them
were written, or a final frame is still to be sent. As far as the length is concerned this end counts
like a last write of no bytes (`Response.ended`).

From the moment the end is handed to the stream, nothing more is sent for the exchange, whatever runs
(`Course.emissions_of_closed`). So what a finale does can be told in any later state (`World.Closes`).
-/

namespace HttpExchange

variable {κ ε : Type} {host : Host κ ε} {edit : StreamRef → Fields → Fields}

open World Record

/-! ## What is to be seen of an exchange -/

/-- What a send puts on the wire. -/
structure Emission where
  stream : Stream
  head : Option ResponseHead
  last : Bool
  chunks : List Octets
  deriving DecidableEq

/-- A result with the error itself. -/
def Failures.verdict (failures : Failures) : Result → Except ExchangeError Unit
  | .ok () => .ok ()
  | .error cause => .error (failures.get cause).error

namespace Deed

def emission? : Deed κ → Option Emission
  | sent _ s => some ⟨s.stream, s.head, s.last, s.chunks⟩
  | _ => none

/-- What the stream is told about its exchange. -/
def verdict? (failures : Failures) : Deed κ → Option (Except ExchangeError Unit)
  | succeeded _ _ => some (failures.verdict (.ok ()))
  | failed _ _ cause => some (failures.verdict (.error cause))
  | _ => none

theorem emission?_of_isAnswer {d : Deed κ} (h : d.isAnswer = true) : d.emission? = none := by
  cases d with
  | sendEnded => rfl
  | offered | started | attached | listening | sent | mismatched | ended | succeeded | failed
  | concluded => cases h

theorem emission?_of_isOutcome {d : Deed κ} (h : d.isOutcome = true) : d.emission? = none := by
  cases d with
  | succeeded | failed => rfl
  | offered | started | attached | listening | sent | sendEnded | mismatched | ended | concluded =>
    cases h

theorem verdict?_of_not_isOutcome {d : Deed κ} (h : d.isOutcome = false) (failures : Failures) :
    d.verdict? failures = none := by
  cases d with
  | succeeded | failed => cases h
  | offered | started | attached | listening | sent | sendEnded | mismatched | ended | concluded =>
    rfl

theorem verdict?_finalOutcome (failures : Failures) (e : ExchangeRef) (stream : Stream)
    (result : Result) : (finalOutcome (κ := κ) e stream none result).verdict? failures =
      some (failures.verdict result) := by
  cases result <;> rfl

end Deed

namespace World

variable {w : World κ ε} {e : ExchangeRef} {d : Deed κ}

/-- What was sent for an exchange, latest first. -/
def emissions (w : World κ ε) (e : ExchangeRef) : List Emission :=
  (w.history e).filterMap Deed.emission?

/-- What the stream was told about an exchange. -/
def verdicts (w : World κ ε) (e : ExchangeRef) : List (Except ExchangeError Unit) :=
  (w.history e).filterMap (Deed.verdict? w.failures)

theorem verdicts_eq (w : World κ ε) (e : ExchangeRef) : w.verdicts e =
    ((w.history e).filter Deed.isOutcome).filterMap (Deed.verdict? w.failures) := by
  unfold verdicts
  rw [List.filterMap_filter]
  refine List.filterMap_congr fun d _ => ?_
  cases hd : d.isOutcome with
  | true => rfl
  | false => exact d.verdict?_of_not_isOutcome hd w.failures

/-- An outcome that was told is the only one. -/
theorem Possible.outcomes_eq (h : w.Possible) (hd : d ∈ w.history e) (ho : d.isOutcome = true) :
    (w.history e).filter Deed.isOutcome = [d] := by
  obtain ⟨_, _, -, htells⟩ := (h.settled e).told d hd ho
  obtain ⟨d', houtcomes, -⟩ := h.delivered hd htells
  have hmem : d ∈ (w.history e).filter Deed.isOutcome := List.mem_filter.2 ⟨hd, ho⟩
  rw [houtcomes, List.mem_singleton] at hmem
  rw [houtcomes, hmem]

theorem Possible.verdicts_eq (h : w.Possible) (hd : d ∈ w.history e)
    {verdict : Except ExchangeError Unit} (hverdict : d.verdict? w.failures = some verdict) :
    w.verdicts e = [verdict] := by
  have ho : d.isOutcome = true := by
    by_contra hno
    cases hverdict.symm.trans
      (d.verdict?_of_not_isOutcome (Bool.eq_false_of_not_eq_true hno) w.failures)
  rw [World.verdicts_eq, h.outcomes_eq hd ho, List.filterMap_cons_some hverdict]
  rfl

end World

/-! ## When nothing more is sent -/

/-- Once the end was handed to the stream, no move sends anything. -/
theorem Record.Move.emissions_of_closed {e : ExchangeRef} {closing : Prop} {ρ ρ' : Record κ}
    {d : Deed κ} (hm : ρ.Move e closing ρ') (ha : ρ.active = none) (hd : d ∈ ρ.history)
    (hc : d.closes = true) :
    ρ'.active = none ∧ d ∈ ρ'.history ∧
      ρ'.history.filterMap Deed.emission? = ρ.history.filterMap Deed.emission? := by
  have hunclosed : ¬∀ d ∈ ρ.history, d.closes = false := by
    intro h
    cases hc.symm.trans (h d hd)
  cases hm with
  | stay | edit => exact ⟨ha, hd, rfl⟩
  | create _ _ _ _ hnil =>
    rw [hnil] at hd
    cases hd
  | contentAvailable h | storeFailure _ h | enable h | demand _ h | listenForError _ h
  | send _ _ h | withhold h | stick _ h | succeed _ h | fail _ _ h => cases ha.symm.trans h
  | complete _ hend | recycle _ _ _ hend | mismatch _ _ hend | tellSuccess _ hend
  | sendFinal _ hend | stickFinal _ hend | tellFailure _ _ hend | sendError _ _ _ hend
  | stickError _ _ _ hend => exact absurd hend.unclosed hunclosed
  | answer => exact ⟨by simp [ha], List.mem_cons_of_mem _ hd, rfl⟩
  | answerFinal result hmem hun hcb =>
    rename_i s stream cause
    refine ⟨ha, List.mem_cons_of_mem _ (List.mem_cons_of_mem _ hd), ?_⟩
    have htells := tells_finalOutcome (κ := κ) e stream cause result
    exact (List.filterMap_cons_none (Deed.emission?_of_isOutcome htells.isOutcome)).trans rfl
  | conclude => exact ⟨ha, List.mem_cons_of_mem _ hd, rfl⟩

namespace World

variable {A : ExchangeRef → Prop} {w w' : World κ ε} {e : ExchangeRef}

theorem Course.emissions_of_closed {d : Deed κ} (hcourse : Course A w w') (hs : w.Sound)
    (ha : w.activeFor? e = none) (hd : d ∈ w.history e) (hc : d.closes = true) :
    w'.emissions e = w.emissions e := by
  have hkept : w'.activeFor? e = none ∧ d ∈ w'.history e ∧ w'.emissions e = w.emissions e := by
    induction hcourse with
    | refl => exact ⟨ha, hd, rfl⟩
    | tail hbefore hstep ih =>
      obtain ⟨ha₁, hd₁, hsame⟩ := ih
      have hmove := hstep.move (Course.sound hbefore hs) e
      obtain ⟨ha₂, hd₂, hemissions⟩ := hmove.emissions_of_closed ha₁ hd₁ hc
      exact ⟨ha₂, hd₂, hemissions.trans hsame⟩
  exact hkept.2.2

/-- Nobody but the call that detached an exchange sends anything for it. -/
theorem Course.emissions_of_ending {stream : Option Stream} {cause : Option FailureRef}
    (hcourse : Course A w w') (hs : w.Sound) (hA : ¬A e)
    (hend : (w.record e).Ending e stream cause) : w'.emissions e = w.emissions e := by
  induction hcourse with
  | refl => rfl
  | tail hbefore hstep ih =>
    have hend₁ := (Course.ending hbefore hs hA hend).1
    have hrest := hstep.rest (Course.sound hbefore hs) hA hend₁.detached hend₁.history_ne_nil
    obtain ⟨late, hlate, hanswers⟩ := hrest.history
    have hnone : late.filterMap Deed.emission? = [] := by
      refine List.filterMap_eq_nil_iff.2 fun d hd => ?_
      exact Deed.emission?_of_isAnswer (hanswers hend₁.unclosed d hd)
    refine Eq.trans ?_ ih
    have hemissions := congrArg (List.filterMap Deed.emission?) hlate
    rwa [List.filterMap_append, hnone, List.nil_append] at hemissions

/-- Whatever follows after the end of an exchange was handed to its stream, nothing more is sent. -/
theorem Handed.emissions_eq {w₁ x : World κ ε} {m : Engine κ ε Unit} (h : Handed A w w₁ e)
    (hm : Runs m)
    (hx : Course (fun _ => True) ((m >>= fun _ => Engine.conclude e) w₁).2 x) :
    Course (fun _ => True) w₁ x ∧ x.emissions e = w₁.emissions e := by
  have hself : Handed (fun _ => True) w₁ w₁ e :=
    ⟨h.sound₁, fun _ _ => trivial, trivial, .refl, h.closed⟩
  have hlater := Relation.ReflTransGen.trans (hself.conclude hm) hx
  obtain ⟨d, hd⟩ := h.closed
  exact ⟨hlater, Course.emissions_of_closed hlater h.sound₁ hd.detached hd.closed.1 hd.closed.2⟩

end World

/-! ## The finale -/

/-- What is left to do for a successful response. -/
inductive Finale
  /-- The stream is told a failure, because the bytes break the fixed length. -/
  | misfit (length written : Nat)
  /-- The stream is told the success, because the last bytes were sent. -/
  | told
  /-- The final frame is sent, and its answer is the outcome. -/
  | framed (head : Option ResponseHead)
  deriving DecidableEq

namespace Response

variable {r : Response}

/-- A response at its successful end: it counts no more bytes, and its head and its length are
fixed. -/
def ended (r : Response) : Response := { r.after true [] with lastWritten := r.lastWritten }

/-- The head that goes with the end of a response, if none was fixed before. -/
def endHead (r : Response) (version : Version) (edit : Fields → Fields) : Option ResponseHead :=
  if r.committed = true then none
  else some ⟨r.ended.status.getD .ok, version, edit r.ended.fields, r.ended.committedLength⟩

def finale (r : Response) (version : Version) (edit : Fields → Fields) : Finale :=
  match r.ended.fate true with
  | .misfit length written => .misfit length written
  | _ => if r.lastWritten = true then .told else .framed (r.endHead version edit)

theorem ended_of_fixed (hfixed : r.committed = true) : r.close = r.ended := by
  have hafter : r.accept true [] = r.after true [] := accept_of_fixed hfixed
  unfold ended
  rw [← hafter]
  rfl

theorem freeze_lastWritten (r : Response) (flag last : Bool) :
    { r with lastWritten := flag }.freeze last =
      { r.freeze last with lastWritten := flag } := by
  unfold freeze
  dsimp only
  cases ContentLength.ofFields? r.fields <;> cases last <;> rfl

theorem ended_of_open (hopen : r.committed = false) : r.close.freeze true = r.ended := by
  have hafter : (r.accept true []).freeze true = r.after true [] := freeze_of_open hopen
  unfold ended
  rw [← hafter, ← freeze_lastWritten]
  rfl

end Response

/-- While the surroundings are as `P` says, the stream prepares every head by this function, and leaves
them as `Q` says. -/
def Stream.Prepares (stream : Stream) (host : Host κ ε) (edit : Fields → Fields)
    (P Q : ε → Prop) : Prop :=
  ∀ fields (w : World κ ε), P w.outside → ∃ outside, Q outside ∧
    stream.prepare host fields w = (.done (edit fields, none), { w with outside })

theorem Host.Prepares.stream {edit : StreamRef → Fields → Fields} (h : host.Prepares edit)
    (stream : Stream) (P : ε → Prop) :
    stream.Prepares host (edit stream.base) P fun _ => True := by
  intro fields w _
  obtain ⟨outside, hprepared⟩ := stream.prepare_run h fields w
  exact ⟨outside, trivial, hprepared⟩

/-- What a call does about a finale. -/
def Finale.perform (host : Host κ ε) (e : ExchangeRef) (stream : Stream) :
    Finale → Engine κ ε Unit
  | misfit length written => do
    Engine.note (.mismatched e)
    Engine.terminate host e stream (← Engine.newFailure (.lengthMismatch length written))
  | told => do
    Engine.tellSucceeded host e stream
    Engine.conclude e
  | framed head => do
    Engine.sendTo host e stream head true (.finalFrame e stream) []
    Engine.conclude e

/-- The state in which a call hands a finale to the stream. -/
def Finale.handed (e : ExchangeRef) (stream : Stream) (w : World κ ε) : Finale → World κ ε
  | misfit length written =>
    ((w.note (.mismatched e)).addFailure (.lengthMismatch length written)).note
      (.failed e stream w.failures.next)
  | told => w.note (.succeeded e stream)
  | framed head => w.handOver e ⟨⟨w.sends.size⟩, stream, head, true, .finalFrame e stream, []⟩

namespace Engine

variable {w w₁ : World κ ε} {e : ExchangeRef} {stream : Stream} {P Q : ε → Prop}
  {edit : Fields → Fields}

/-- What is left of a successful response follows from the response. -/
theorem sendRest_eq {r : Response} {version : Version}
    (hresponse : ∃ fields, (w₁.exchange e).response = { r.ended with fields }) :
    sendRest host e stream (r.endHead version edit) w₁ =
      (r.finale version edit).perform host e stream w₁ := by
  obtain ⟨fields, hresponse⟩ := hresponse
  have hfault := r.ended.lengthFault_of_fate true fields
  rw [← hresponse] at hfault
  have hlast : (w₁.exchange e).response.lastWritten = r.lastWritten := by
    rw [hresponse]
    rfl
  refine (Effect.bind_of_done rfl).trans ?_
  dsimp only
  rw [hfault]
  unfold Response.finale
  rcases r.ended.fate_cases true with hsent | ⟨length, written, hmisfit⟩
  · rw [hsent]
    dsimp only
    rw [hlast]
    cases r.lastWritten <;> rfl
  · rw [hmisfit]
    rfl

/-- The end of a successful response fixes the head, if it is open, and then comes to the finale. -/
theorem sendEnd_run (hprepares : stream.Prepares host edit P Q) (hP : P w.outside)
    (hlt : e.index < w.exchanges.size) :
    let r := (w.exchange e).response
    let head := r.endHead w.channel.version edit
    ∃ w₁, (r.committed = true → w₁.outside = w.outside) ∧ (r.committed = false → Q w₁.outside) ∧
      (w.modifyResponse e (·.close)).HeadFixed e true (!r.committed) w₁ head ∧
      (∃ fields, (w₁.exchange e).response = { r.ended with fields }) ∧
      sendEnd host e stream w =
        (r.finale w.channel.version edit).perform host e stream w₁ := by
  intro r head
  have hclosed : ((w.modifyResponse e (·.close)).exchange e).response = r.close :=
    congrArg (·.response) (exchange_modifyExchange_self w hlt _)
  cases hcommitted : r.committed with
  | true =>
    have hhead : head = none := if_pos hcommitted
    have hresponse : ∃ fields, ((w.modifyResponse e (·.close)).exchange e).response =
        { r.ended with fields } := by
      rw [hclosed, Response.ended_of_fixed hcommitted]
      exact ⟨_, rfl⟩
    refine ⟨w.modifyResponse e (·.close), fun _ => rfl, nofun, hhead ▸ .before, hresponse, ?_⟩
    rw [← sendRest_eq hresponse]
    refine (Effect.bind_of_done rfl).trans ((Effect.bind_of_done rfl).trans ?_)
    show (if r.committed then _ else _ : Engine κ ε Unit) _ = _
    rw [hcommitted]
    show sendRest host e stream none _ = sendRest host e stream head _
    rw [hhead]
    rfl
  | false =>
    have hlt₁ : e.index < (w.modifyResponse e (·.close)).exchanges.size := by
      rw [size_modifyResponse]
      exact hlt
    let closed := w.modifyResponse e (·.close)
    obtain ⟨outside, hQ, hprepared⟩ := hprepares ((closed.exchange e).response.freeze true).fields
      (closed.modifyResponse e (·.freeze true)) hP
    let w₁ := closed.fixHead e true outside (edit ((closed.exchange e).response.freeze true).fields)
    have hended : (closed.exchange e).response.freeze true = r.ended := by
      rw [hclosed, Response.ended_of_open hcommitted]
    have hresponse : (w₁.exchange e).response = { r.ended with fields := edit r.ended.fields } := by
      rw [← hended]
      exact congrArg (·.response) (exchange_modifyExchange_self closed hlt₁ _)
    have hhead : some (w₁.headOf e) = head := by
      show some _ = if r.committed = true then none else some _
      unfold headOf
      rw [hresponse, if_neg (by rw [hcommitted]; exact Bool.false_ne_true)]
      rfl
    refine ⟨w₁, nofun, fun _ => hQ, hhead ▸ .now outside _, ⟨_, hresponse⟩, ?_⟩
    rw [← sendRest_eq ⟨_, hresponse⟩]
    refine (Effect.bind_of_done rfl).trans ((Effect.bind_of_done rfl).trans ?_)
    show (if r.committed then _ else _ : Engine κ ε Unit) _ = _
    rw [hcommitted, if_neg Bool.false_ne_true, bind_map_left]
    refine (Effect.bind_of_done (freezeHead_of_prepared hlt₁ hprepared)).trans ?_
    show sendRest host e stream (some (w₁.headOf e)) w₁ = sendRest host e stream head w₁
    rw [hhead]

end Engine

/-! ## What a finale comes to -/

namespace World

variable {A : ExchangeRef → Prop} {w w₁ w₂ x : World κ ε} {e : ExchangeRef} {stream : Stream}
  {head : Option ResponseHead} {P Q : ε → Prop} {edit : Fields → Fields}

/-- What is to be seen in the state `x` of an exchange that was ended with this finale after the state
`w`: what is sent, and what the stream is told, or will be once the final frame is answered. -/
def Closes (x w : World κ ε) (e : ExchangeRef) (stream : Stream) : Finale → Prop
  | .misfit length written => x.emissions e = w.emissions e ∧
      x.verdicts e = [.error (.lengthMismatch length written)]
  | .told => x.emissions e = w.emissions e ∧ x.verdicts e = [.ok ()]
  | .framed head => x.emissions e = ⟨stream, head, true, []⟩ :: w.emissions e ∧
      ∃ ref, .sent e ⟨ref, stream, head, true, .finalFrame e stream, []⟩ ∈ x.history e ∧
        (Unanswered e (x.history e) ref → x.verdicts e = []) ∧
        ∀ result, .sendEnded e ref result ∈ x.history e →
          x.verdicts e = [x.failures.verdict result]

theorem Course.mem_history {d : Deed κ} (h : Course A w x) (hd : d ∈ w.history e) :
    d ∈ x.history e := by
  obtain ⟨hmem, hexchange⟩ := (World.mem_history w).1 hd
  exact (World.mem_history x).2 ⟨(Course.deeds_suffix h).subset hmem, hexchange⟩

theorem Closes.of_emissions {u : World κ ε} {finale : Finale} (h : x.Closes w e stream finale)
    (hsame : w.emissions e = u.emissions e) : x.Closes u e stream finale := by
  cases finale with
  | misfit | told => exact ⟨h.1.trans hsame, h.2⟩
  | framed head => exact ⟨h.1.trans (congrArg _ hsame), h.2⟩

/-- Fixing a head is not to be seen. -/
theorem HeadFixed.history_eq {u : World κ ε} {last commits : Bool}
    (h : u.HeadFixed e last commits w₁ head) (hsame : u.deeds = w.deeds) :
    w₁.history e = w.history e :=
  congrArg (List.filter _) (h.deeds_eq.trans hsame)

/-- A failure that ended a detached exchange is all that is told about it. -/
theorem closes_terminate (hh : host.Lawful) (h : Closing A w w₁ e stream none)
    (hp : w.Possible) (cause : FailureRef)
    (hx : Course (fun _ => True) (Engine.terminate host e stream cause w₁).2 x) :
    x.emissions e = w₁.emissions e ∧
      (x.history e).filter Deed.isOutcome = [.failed e stream cause] := by
  let w₂ := w₁.note (.failed e stream cause)
  have hstep : Step A w₁ w₂ := .tellFailure cause h.own h.ending h.completing nofun
  have hhistory : w₂.history e = .failed e stream cause :: w₁.history e := history_note_self w₁ rfl
  have hmem : .failed e stream cause ∈ w₂.history e := by
    rw [hhistory]
    exact List.mem_cons_self
  have hhanded : Handed A w w₂ e :=
    h.handed hstep ⟨h.ending.detached, h.completing, hmem, rfl⟩
  obtain ⟨hlater, hemissions⟩ :=
    hhanded.emissions_eq (Runs.compositional.failed hh.answers cause stream) hx
  have hpossible := (hp.course hhanded.course).course hlater
  refine ⟨hemissions.trans ?_, hpossible.outcomes_eq (Course.mem_history hlater hmem) rfl⟩
  unfold emissions
  rw [hhistory]
  rfl

/-- Handing the finale of a response to the stream is one step. -/
theorem Closing.step_handed (h : Closing A w w₁ e stream none) {version : Version}
    (hfix : (w₁.modifyResponse e (·.close)).HeadFixed e true
      (!(w₁.exchange e).response.committed) w₂ ((w₁.exchange e).response.endHead version edit))
    (hresponse : ∃ fields, (w₂.exchange e).response =
      { (w₁.exchange e).response.ended with fields }) :
    Step A w₁ (((w₁.exchange e).response.finale version edit).handed e stream w₂) := by
  obtain ⟨fields, hresponse⟩ := hresponse
  have hfault := (w₁.exchange e).response.ended.lengthFault_of_fate true fields
  rw [← hresponse] at hfault
  have hlast : (w₂.exchange e).response.lastWritten = (w₁.exchange e).response.lastWritten := by
    rw [hresponse]
    rfl
  have hnext : w₂.failures.next = w₁.failures.next := congrArg Failures.next hfix.failures_eq
  have hsends : w₂.sends = w₁.sends := hfix.sends_eq
  unfold Response.finale Finale.handed
  rcases (w₁.exchange e).response.ended.fate_cases true with hsent | ⟨length, written, hmisfit⟩
  · rw [hsent] at hfault ⊢
    dsimp only at hfault ⊢
    cases hend : (w₁.exchange e).response.lastWritten with
    | true => exact .tellSuccess h.own h.ending h.completing hfix hfault (hlast.trans hend)
    | false =>
      rw [if_neg Bool.false_ne_true, hsends]
      exact .sendFinal h.own h.ending h.completing hfix hfault (hlast.trans hend)
  · rw [hmisfit] at hfault ⊢
    dsimp only
    rw [hnext]
    exact .mismatch h.own h.ending h.completing hfix hfault

/-- Bytes that break the fixed length fail the exchange. -/
theorem closes_misfit (hh : host.Lawful) (h : Closing A w w₁ e stream none) (hp : w.Possible)
    {length written : Nat}
    (hfix : (w₁.modifyResponse e (·.close)).HeadFixed e true
      (!(w₁.exchange e).response.committed) w₂ head)
    (hstep : Step A w₁ ((Finale.misfit length written).handed e stream w₂))
    (hx : Course (fun _ => True) ((Finale.misfit length written).perform host e stream w₂).2 x) :
    x.Closes w₁ e stream (.misfit length written) := by
  let cause := w₂.failures.next
  let w₃ := (Finale.misfit length written).handed e stream w₂
  have hhistory : w₃.history e = .failed e stream cause :: .mismatched e :: w₁.history e := by
    have hbefore : (w₂.note (.mismatched e)).history e = .mismatched e :: w₁.history e := by
      rw [history_note_self w₂ rfl, hfix.history_eq (w := w₁) rfl]
    exact (history_note_self _ rfl).trans (congrArg _ hbefore)
  have hmem : .failed e stream cause ∈ w₃.history e := by
    rw [hhistory]
    exact List.mem_cons_self
  have hhanded : Handed A w w₃ e := Engine.handed_of_headFixed h hfix hstep rfl rfl hmem rfl
  obtain ⟨hlater, hemissions⟩ :=
    hhanded.emissions_eq (Runs.compositional.failed hh.answers cause stream) hx
  have hpossible := (hp.course hhanded.course).course hlater
  refine ⟨hemissions.trans ?_, hpossible.verdicts_eq (Course.mem_history hlater hmem) ?_⟩
  · unfold emissions
    rw [hhistory]
    rfl
  · -- the failure is new, and keeps its error from here on
    have hlt : cause.index < w₃.failures.entries.size := by
      show w₂.failures.entries.size < (w₂.failures.add _).entries.size
      simp [Failures.add]
    have hkept := (Course.keep_failures hlater cause hlt).2
    have hnew := Failures.get_add_next w₂.failures (.lengthMismatch length written)
    have herror := hkept.trans (congrArg Failure.error hnew)
    exact congrArg (fun error => some (Except.error error)) herror

/-- The success of a response whose last bytes were sent is told at once. -/
theorem closes_told (hh : host.Lawful) (h : Closing A w w₁ e stream none) (hp : w.Possible)
    (hfix : (w₁.modifyResponse e (·.close)).HeadFixed e true
      (!(w₁.exchange e).response.committed) w₂ head)
    (hstep : Step A w₁ (Finale.told.handed e stream w₂))
    (hx : Course (fun _ => True) (Finale.told.perform host e stream w₂).2 x) :
    x.Closes w₁ e stream .told := by
  let w₃ := w₂.note (.succeeded e stream)
  have hhistory : w₃.history e = .succeeded e stream :: w₁.history e := by
    rw [history_note_self w₂ rfl, hfix.history_eq (w := w₁) rfl]
  have hmem : .succeeded e stream ∈ w₃.history e := by
    rw [hhistory]
    exact List.mem_cons_self
  have hhanded : Handed A w w₃ e := Engine.handed_of_headFixed h hfix hstep rfl rfl hmem rfl
  obtain ⟨hlater, hemissions⟩ :=
    hhanded.emissions_eq (Runs.compositional.succeeded hh.answers stream) hx
  have hpossible := (hp.course hhanded.course).course hlater
  refine ⟨hemissions.trans ?_, hpossible.verdicts_eq (Course.mem_history hlater hmem) rfl⟩
  unfold emissions
  rw [hhistory]
  rfl

/-- The final frame is all that is sent, and its answer is what the stream is told. -/
theorem closes_framed (hh : host.Lawful) (h : Closing A w w₁ e stream none) (hp : w.Possible)
    {fresh : Option ResponseHead}
    (hfix : (w₁.modifyResponse e (·.close)).HeadFixed e true
      (!(w₁.exchange e).response.committed) w₂ fresh)
    (hstep : Step A w₁ ((Finale.framed head).handed e stream w₂))
    (hx : Course (fun _ => True) ((Finale.framed head).perform host e stream w₂).2 x) :
    x.Closes w₁ e stream (.framed head) := by
  let s : Sending κ := ⟨⟨w₂.sends.size⟩, stream, head, true, .finalFrame e stream, []⟩
  let w₃ := w₂.handOver e s
  have hmem : .sent e s ∈ w₃.history e := Engine.mem_history_handOver w₂ e s
  have hhanded : Handed A w w₃ e := Engine.handed_of_headFixed h hfix hstep rfl rfl hmem rfl
  obtain ⟨hlater, hemissions⟩ := hhanded.emissions_eq
    (Runs.compositional.send hh.answers (head.map (·, e)) true s.ref [] stream) hx
  have hpossible := (hp.course hhanded.course).course hlater
  have hsent := Course.mem_history hlater hmem
  refine ⟨hemissions.trans ?_, s.ref, hsent, fun hun => ?_, fun result hended => ?_⟩
  · have hhistory : w₃.history e = .sent e s :: w₂.history e :=
      congrArg Record.history (record_handOver_self w₂ e s)
    unfold emissions
    rw [hhistory, hfix.history_eq (w := w₁) rfl]
    rfl
  · have hnone := (hpossible.settled e).pending s hsent rfl hun
    rw [verdicts_eq, List.filter_eq_nil_iff.2 fun d hd => by simp [hnone d hd]]
    rfl
  · have houtcome := (hpossible.backed e).final s stream none result hsent rfl hended
    exact hpossible.verdicts_eq houtcome (Deed.verdict?_finalOutcome _ e stream result)

theorem Closing.version_eq {cause : Option FailureRef} (h : Closing A w w₁ e stream cause) :
    w₁.channel.version = w.channel.version :=
  congrArg Prod.fst (Course.settings_eq h.course)

/-- What is to be seen of a response that came to its successful end follows from the response. -/
theorem closes_sendEnd (hh : host.Lawful) (h : Closing A w w₁ e stream none) (hp : w.Possible)
    (hprepares : stream.Prepares host edit P Q) (hP : P w₁.outside)
    (hx : Course (fun _ => True) (Engine.sendEnd host e stream w₁).2 x) :
    x.Closes w₁ e stream ((w₁.exchange e).response.finale w.channel.version edit) := by
  rw [← h.version_eq]
  obtain ⟨w₂, -, -, hfix, hresponse, hrun⟩ := Engine.sendEnd_run hprepares hP h.index_lt
  have hstep := h.step_handed hfix hresponse
  rw [hrun] at hx
  cases hfinale : (w₁.exchange e).response.finale w₁.channel.version edit with
  | misfit length written =>
    rw [hfinale] at hstep hx
    exact closes_misfit hh h hp hfix hstep hx
  | told =>
    rw [hfinale] at hstep hx
    exact closes_told hh h hp hfix hstep hx
  | framed head =>
    rw [hfinale] at hstep hx
    exact closes_framed hh h hp hfix hstep hx

end World

end HttpExchange
