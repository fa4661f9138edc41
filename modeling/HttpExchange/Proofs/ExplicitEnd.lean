import HttpExchange.Proofs.Lifecycle
import HttpExchange.Proofs.Passing
import HttpExchange.Proofs.UnreadBody

/-!
# Implicit and explicit ends

An application may end its response with a last write of no bytes and then the exchange, or it may
leave the first to the end of the exchange. In one case the write fixes the head, checks the length
and sends, and the end tells the stream the outcome; in the other the end does all of it, and the
answer to the final frame is the outcome. With a stream that is prompt, both come to the same
(`explicit_end_agrees`): a last write of no bytes leaves the response as its own end would
(`Response.ended`), so the length is broken in both cases or in none, and what the write has sent is
what the end would have sent.
-/

namespace HttpExchange

variable {κ ε : Type} {host inner : Host κ ε}

open World Record

/-! ## Tasks that do nothing -/

/-- Surroundings in which a deferred task can be done. -/
structure Host.Roomy (host : Host κ ε) : Prop where
  surroundings : ∃ depth, Surroundings (depth + 1) host
  patience : 1 < host.patience

theorem Host.Roomy.lawful (h : host.Roomy) : host.Lawful := by
  obtain ⟨depth, hh⟩ := h.surroundings
  exact hh.lawful

namespace World

variable {w w₁ w' : World κ ε} {e : ExchangeRef}

/-- The channel and the exchanges are as they were, and so are the surroundings. -/
structure Undisturbed (w w' : World κ ε) : Prop where
  channel : w'.channel = w.channel
  record : ∀ e, w'.record e = w.record e
  outside : w'.outside = w.outside

theorem Undisturbed.trans (h : w.Undisturbed w₁) (h' : w₁.Undisturbed w') : w.Undisturbed w' :=
  ⟨h'.channel.trans h.channel, fun e => (h'.record e).trans (h.record e),
    h'.outside.trans h.outside⟩

theorem undisturbed_offer (w : World κ ε) (name : QueueName) (tasks : List (Task κ)) :
    w.Undisturbed (w.offer name tasks) := by
  refine ⟨channel_offer w name tasks, record_offer w name tasks, ?_⟩
  cases name <;> rfl

end World

namespace Engine

variable {w : World κ ε}

/-- Telling nobody something is left to whoever works the queue off, or done at once. -/
theorem runQueued_ignore (hh : host.Roomy) (hsettled : w.channelQueue.Settled) (name : String)
    (result : Result) :
    ∃ w', runQueued host name (.complete .ignore result) w = (.done (), w') ∧
      w.Undisturbed w' := by
  let task : Task κ := ⟨name, .complete .ignore result⟩
  let offered := w.offer .channel [task]
  have hoffered := undisturbed_offer w .channel [task]
  cases hdraining : (w.queue .channel).draining with
  | true => exact ⟨_, Queue.run_of_draining hdraining task, hoffered⟩
  | false =>
    obtain ⟨depth, -, inner, -, hperform⟩ := hh.surroundings
    obtain ⟨rounds, hrounds⟩ := Nat.exists_eq_add_of_lt hh.patience
    have hpatience : host.patience = rounds + 2 := by omega
    have htasks : (offered.queue .channel).tasks = [task] := by
      show ((w.channelQueue.offer [task]).2).tasks = [task]
      rw [Queue.tasks_offer, hsettled hdraining, List.nil_append]
    have hnext := nextTask_of_cons htasks
    let taken := (offered.setQueue .channel ⟨[], (offered.queue .channel).draining⟩).note
      (.started .channel task)
    have hdone : Effect.attempt (host.perform task.job) taken = (.done (.ok ()), taken) := by
      rw [hperform]
      rfl
    have hrest : nextTask .channel taken = (.done none, taken.setQueue .channel .idle) :=
      nextTask_of_nil rfl
    have hrun : Queue.drain host .channel offered = (.done (), taken.setQueue .channel .idle) := by
      rw [Queue.drain, hpatience]
      refine (Effect.bind_of_done hnext).trans ((Effect.bind_of_done hdone).trans ?_)
      exact Effect.bind_of_done hrest
    refine ⟨_, (Queue.run_of_idle hdraining task).trans hrun, ?_⟩
    have htaken := fun e => record_nextTask offered .channel e
    rw [hnext] at htaken
    exact hoffered.trans ⟨rfl, fun e => (record_setQueue taken _ _ e).trans (htaken e), rfl⟩

/-- Nobody is told that a write is refused. -/
theorem refuseWrite_ignore (hh : host.Roomy) (hsettled : w.channelQueue.Settled)
    (why : ExchangeError) :
    ∃ w', refuseWrite host .ignore why w = (.done (), w') ∧ w.Undisturbed w' := by
  let refused := (w.addFailure why).enter (.refused .ignore w.failures.next)
  have hrefused : w.Undisturbed refused := ⟨rfl, fun _ => rfl, rfl⟩
  obtain ⟨w', hrun, hsame⟩ :=
    runQueued_ignore (w := refused) hh hsettled "write-failure" (.error w.failures.next)
  refine ⟨w', (Effect.bind_of_done rfl).trans ((Effect.bind_of_done rfl).trans hrun), ?_⟩
  exact hrefused.trans hsame

end Engine

/-! ## Prompt streams -/

/-- A computation comes to its end, and it makes no difference to whether the connection can be used
again. -/
def Engine.Passes (m : Engine κ ε Unit) (w : World κ ε) : Prop :=
  ∃ w', m w = (.done (), w') ∧ w'.channel.persistent = w.channel.persistent

namespace Engine.Passes

variable {α : Type} {w w₁ : World κ ε}

theorem after {m : Engine κ ε α} {f : α → Engine κ ε Unit} {a : α} (hm : m w = (.done a, w₁))
    (hsame : w₁.channel.persistent = w.channel.persistent) (h : Passes (f a) w₁) :
    Passes (m >>= f) w := by
  obtain ⟨w₂, hrun, hpersistent⟩ := h
  exact ⟨w₂, (Effect.bind_of_done hm).trans hrun, hpersistent.trans hsame⟩

theorem conclude {m : Engine κ ε Unit} (h : Passes m w) (e : ExchangeRef) :
    Passes (m >>= fun _ => Engine.conclude e) w := by
  obtain ⟨w₁, hrun, hpersistent⟩ := h
  exact .after hrun hpersistent ⟨_, rfl, rfl⟩

end Engine.Passes

/-- While the surroundings are as `P` says, the request body is read, which leaves the responses alone;
heads are prepared by this function; and every send ends with success at once: the engine is called
back then, with the surroundings `inner`. Whatever the stream does when it is told an outcome comes to
its end. -/
structure Stream.Prompt (stream : Stream) (host inner : Host κ ε) (edit : Fields → Fields)
    (P : ε → Prop) : Prop where
  discards : ∀ w : World κ ε, P w.outside → ∃ v, stream.consumeAll host w = (.done none, v) ∧
    P v.outside ∧ v.channel.persistent = w.channel.persistent ∧
    ∀ e, (v.exchange e).response = (w.exchange e).response
  prepares : stream.Prepares host edit P P
  completes : ∀ head last ref chunks (w : World κ ε), P w.outside →
    ∃ outside, ∃ later : ε → ε, P outside ∧ (∀ x, P x → P (later x)) ∧
      stream.send host head last ref chunks w =
        (ref.complete inner (.ok ()) >>= fun _ =>
          Effect.modify fun w => { w with outside := later w.outside }) { w with outside }
  succeeds : ∀ w : World κ ε, w.Possible → P w.outside →
    Engine.Passes (stream.succeeded host) w ∧ Engine.Passes (stream.succeeded inner) w
  fails : ∀ cause (w : World κ ε), w.Possible → P w.outside →
    Engine.Passes (stream.failed host cause) w

/-! ## The explicit end -/

namespace World

variable {w w₁ u : World κ ε} {e : ExchangeRef} {a : Active κ} {stream : Stream}
  {edit : Fields → Fields} {P : ε → Prop}

/-- What has been sent for an exchange once its last write was made, without bytes: the write sends
a frame, with the head if none was fixed before, unless the length is broken. -/
def endEmissions (w : World κ ε) (e : ExchangeRef) (stream : Stream) (edit : Fields → Fields) :
    List Emission :=
  match ((w.exchange e).response.after true []).fate true with
  | .sent =>
    ⟨stream, (w.exchange e).response.endHead w.channel.version edit, true, []⟩ :: w.emissions e
  | _ => w.emissions e

/-- The last write of an exchange was made, without bytes, and it is over. -/
structure EndWritten (w : World κ ε) (e : ExchangeRef) (stream : Stream) (edit : Fields → Fields)
    (P : ε → Prop) (u : World κ ε) : Prop where
  channel : u.channel = w.channel
  holds : P u.outside
  response : ∃ fields, (u.exchange e).response =
    { (w.exchange e).response.after true [] with fields }
  emissions : u.emissions e = w.endEmissions e stream edit

/-- After a write that was admitted is over the channel is as it was before. -/
theorem channel_dropWrite_of_accept (ha : w.activeFor? e = some a) (hidle : a.write = none)
    {last : Bool} {callback : Callback κ} {chunks : List Octets}
    (hu : u.channel = (w.accept e last callback chunks).channel) :
    (u.dropWrite e).channel = w.channel := by
  have hactive : u.activeFor? e = some { a with write := some callback } := by
    unfold activeFor?
    rw [hu]
    exact activeFor?_accept ha last callback chunks
  let store : Active κ → Active κ := fun a => { a with write := some callback }
  let clear : Active κ → Active κ := fun a => { a with write := none }
  have hrestored : clear (store a) = a := by
    show ({ a with write := none } : Active κ) = a
    rw [← hidle]
  unfold dropWrite
  rw [if_pos (by rw [hactive]; rfl)]
  show ({ u.channel with active := u.channel.active.map clear } : Channel κ) = _
  rw [hu]
  show ({ w.channel with active := (w.channel.active.map store).map clear } : Channel κ) = _
  obtain ⟨hchannel, -⟩ := (activeFor?_eq_some w).1 ha
  rw [hchannel, Option.map_some, Option.map_some, hrestored, ← hchannel]

/-- The head that goes with a last write of no bytes is the one that goes with the end. -/
theorem Counts.endHead_eq {callback : Callback κ}
    (h : w.Counts host e stream true callback [] u)
    (hversion : u.channel.version = w.channel.version)
    (hprepares : stream.Prepares host edit P P) (hP : P w.outside) :
    P u.outside ∧
      (if (w.exchange e).response.committed = true then none else some (u.headOf e)) =
        (w.exchange e).response.endHead w.channel.version edit := by
  unfold Response.endHead
  cases hcommitted : (w.exchange e).response.committed with
  | true =>
    obtain ⟨-, houtside⟩ := h.fixed hcommitted
    rw [houtside]
    exact ⟨hP, rfl⟩
  | false =>
    let counted := (w.accept e true callback []).modifyResponse e fun _ =>
      (w.exchange e).response.after true []
    obtain ⟨outside, hkept, hfixed⟩ :=
      hprepares ((w.exchange e).response.after true []).fields counted hP
    have hsame := (h.prepared hcommitted).symm.trans hfixed
    have houtside : u.outside = outside := congrArg (fun run => run.2.outside) hsame
    have hfields : (u.exchange e).response.fields =
        edit ((w.exchange e).response.after true []).fields := by
      injection hsame with hdone
      injection hdone with hpair
      exact congrArg Prod.fst hpair
    have hresponse : (u.exchange e).response =
        { (w.exchange e).response.after true [] with
          fields := (u.exchange e).response.fields } := by
      obtain ⟨fields, hexchange⟩ := h.exchange
      rw [hexchange]
    rw [hfields] at hresponse
    refine ⟨houtside ▸ hkept, ?_⟩
    rw [if_neg Bool.false_ne_true, if_neg Bool.false_ne_true]
    unfold headOf
    rw [hresponse, hversion]
    rfl

theorem EndWritten.of_undisturbed {v : World κ ε} (h : w.EndWritten e stream edit P v)
    (hsame : v.Undisturbed u) : w.EndWritten e stream edit P u := by
  have hexchange : u.exchange e = v.exchange e := congrArg Record.state (hsame.record e)
  have hemissions : u.emissions e = v.emissions e :=
    congrArg (fun ρ : Record κ => ρ.history.filterMap Deed.emission?) (hsame.record e)
  refine ⟨hsame.channel.trans h.channel, hsame.outside ▸ h.holds, ?_,
    hemissions.trans h.emissions⟩
  rw [hexchange]
  exact h.response

theorem EndWritten.keep {outside : ε} (h : w.EndWritten e stream edit P u) (hholds : P outside) :
    w.EndWritten e stream edit P { u with outside } :=
  ⟨h.channel, hholds, h.response, h.emissions⟩

/-- What is still to be done about a write is to take it out. -/
theorem EndWritten.of_dropWrite {z : World κ ε} (ha : w.activeFor? e = some a)
    (hidle : a.write = none) {callback : Callback κ}
    (hchannel : z.channel = (w.accept e true callback []).channel) (hholds : P z.outside)
    (hresponse : ∃ fields, (z.exchange e).response =
      { (w.exchange e).response.after true [] with fields })
    (hemissions : z.emissions e = w.endEmissions e stream edit) :
    w.EndWritten e stream edit P (z.dropWrite e) := by
  have hrecord := record_dropWrite_self z e
  have hexchange : (z.dropWrite e).exchange e = z.exchange e := congrArg Record.state hrecord
  have hsame : (z.dropWrite e).emissions e = z.emissions e :=
    congrArg (fun ρ : Record κ => ρ.history.filterMap Deed.emission?) hrecord
  have houtside : (z.dropWrite e).outside = z.outside := by
    unfold dropWrite
    split <;> rfl
  refine ⟨channel_dropWrite_of_accept ha hidle hchannel, houtside ▸ hholds, ?_,
    hsame.trans hemissions⟩
  rw [hexchange]
  exact hresponse

end World

namespace ExchangeRef

variable {w w₁ : World κ ε} {e : ExchangeRef} {a : Active κ} {stream : Stream} {commits : Bool}
  {head : Option ResponseHead} {edit : Fields → Fields} {P : ε → Prop}

/-- An end that fits is sent, and the stream completes it at once. -/
theorem endWritten_of_fits (h : w.Possible) (hinner : inner.Roomy)
    (hprompt : stream.Prompt host inner edit P) (ha : w.activeFor? e = some a)
    (hidle : a.write = none)
    (hfix : (w.accept e true .ignore []).HeadFixed e true commits w₁ head)
    (hhead : head = (w.exchange e).response.endHead w.channel.version edit) (hP : P w₁.outside)
    (hcounts : w.Counts host e stream true .ignore [] w₁)
    (hsent : ((w.exchange e).response.after true []).fate true = .sent) :
    ∃ u, Engine.sendIfFits host e stream head true .ignore [] w₁ = (.done (), u) ∧
      w.EndWritten e stream edit P u := by
  have hfits : (w₁.exchange e).response.lengthFault true = none := by
    rw [hcounts.lengthFault_eq, hsent]
  let s : Sending κ := ⟨⟨w₁.sends.size⟩, stream, head, true, .pendingWrite e, []⟩
  let handed := (w₁.enterSending .ignore).handOver e s
  obtain ⟨outside, later, hkept, hlater, hcompleted⟩ :=
    hprompt.completes (head.map (·, e)) true s.ref [] handed hP
  let sent : World κ ε := { handed with outside }
  have hcb : sent.sendCallback? s.ref = some (.pendingWrite e) :=
    (sendCallback?_handOver (w := w₁) rfl s.ref).trans (if_pos rfl)
  have hactive : sent.activeFor? e = some { a with write := some .ignore } :=
    (hfix.activeFor?_eq e).trans (activeFor?_accept ha true .ignore [])
  let answered := sent.answer e s.ref (.ok ())
  have hhistory : answered.history e = .sendEnded e s.ref (.ok ()) :: .sent e s :: w.history e := by
    have hhanded : handed.history e = .sent e s :: w₁.history e :=
      congrArg Record.history (record_handOver_self w₁ e s)
    rw [hfix.history_eq (w := w) rfl] at hhanded
    exact (history_note_self _ rfl).trans (congrArg _ hhanded)
  have hwritten : w.EndWritten e stream edit P (answered.dropWrite e) := by
    obtain ⟨fields, hexchange⟩ := hcounts.exchange
    refine .of_dropWrite ha hidle hfix.channel_eq hkept ⟨fields, ?_⟩ ?_
    · exact congrArg (·.response) hexchange
    · unfold endEmissions
      rw [hsent, ← hhead]
      unfold emissions
      rw [hhistory]
      rfl
  have hsettled : (answered.dropWrite e).channelQueue.Settled := by
    rw [channelQueue_dropWrite]
    exact hfix.settled h.queue_settled
  obtain ⟨u, hrun, hsame⟩ := Engine.runQueued_ignore hinner hsettled "write-complete" (.ok ())
  have hover := hwritten.of_undisturbed hsame
  have hanswer : s.ref.complete inner (.ok ()) sent = (.done (), u) := by
    rw [complete_of_pending hcb (congrArg (·.bind (·.write)) hactive), hrun]
  refine ⟨{ u with outside := later u.outside }, ?_, hover.keep (hlater _ hover.holds)⟩
  rw [Engine.sendIfFits_of_fits hfits, hcompleted]
  exact Effect.bind_of_done hanswer

/-- An end that breaks the fixed length is withheld, and nobody is told so. -/
theorem endWritten_of_misfit (h : w.Possible) (hhost : host.Roomy)
    (ha : w.activeFor? e = some a) (hidle : a.write = none)
    (hfix : (w.accept e true .ignore []).HeadFixed e true commits w₁ head) (hP : P w₁.outside)
    (hcounts : w.Counts host e stream true .ignore [] w₁) {length written : Nat}
    (hmisfit : ((w.exchange e).response.after true []).fate true = .misfit length written) :
    ∃ u, Engine.sendIfFits host e stream head true .ignore [] w₁ = (.done (), u) ∧
      w.EndWritten e stream edit P u := by
  have hfault : (w₁.exchange e).response.lengthFault true =
      some (.lengthMismatch length written) := by
    rw [hcounts.lengthFault_eq, hmisfit]
  have hactive : w₁.activeFor? e = some { a with write := some .ignore } :=
    (hfix.activeFor?_eq e).trans (activeFor?_accept ha true .ignore [])
  let withheld := w₁.note (.mismatched e)
  have hhistory : withheld.history e = .mismatched e :: w.history e :=
    (history_note_self w₁ rfl).trans (congrArg _ (hfix.history_eq rfl))
  have hwritten : w.EndWritten e stream edit P (withheld.dropWrite e) := by
    obtain ⟨fields, hexchange⟩ := hcounts.exchange
    refine .of_dropWrite ha hidle hfix.channel_eq hP ⟨fields, ?_⟩ ?_
    · exact congrArg (·.response) hexchange
    · unfold endEmissions
      rw [hmisfit]
      unfold emissions
      rw [hhistory]
      rfl
  have hsettled : (withheld.dropWrite e).channelQueue.Settled := by
    rw [channelQueue_dropWrite]
    exact hfix.settled h.queue_settled
  obtain ⟨u, hrun, hsame⟩ :=
    Engine.refuseWrite_ignore hhost hsettled (.lengthMismatch length written)
  refine ⟨u, ?_, hwritten.of_undisturbed hsame⟩
  rw [Engine.sendIfFits_of_misfit hfault (congrArg (·.bind (·.write)) hactive), hrun]

/-- A last write of no bytes is over at once. -/
theorem write_end (h : w.Possible) (hhost : host.Roomy) (hinner : inner.Roomy)
    (hprompt : stream.Prompt host inner edit P) (hP : P w.outside)
    (hstream : w.channel.stream = some stream) (ha : w.activeFor? e = some a) (hready : a.Ready)
    (hopen : (w.exchange e).response.lastWritten = false) :
    ∃ u, e.write host true .ignore [] w = (.done (), u) ∧ w.EndWritten e stream edit P u := by
  have hadm : a.admission (w.exchange e).response true [] =
      .send !(w.exchange e).response.committed := by
    unfold Active.admission
    rw [hready.write, hready.processing, hready.error, hopen]
    rfl
  have hgives : stream.GivesFields host ((w.exchange e).response.after true []).fields
      w.outside := by
    intro v hv
    obtain ⟨outside, -, hprepared⟩ := hprompt.prepares _ v (hv ▸ hP)
    exact ⟨_, outside, hprepared⟩
  obtain ⟨w₁, head, hfix, hhead, hcounts, hrun⟩ :=
    e.write_counts h.sound hstream ha hadm hgives .ignore
  have hversion : w₁.channel.version = w.channel.version := by
    rw [hfix.channel_eq]
    rfl
  obtain ⟨hP₁, hsame⟩ := hcounts.endHead_eq hversion hprompt.prepares hP
  rw [hrun]
  rcases ((w.exchange e).response.after true []).fate_cases true with
    hsent | ⟨length, written, hmisfit⟩
  · exact endWritten_of_fits h hinner hprompt ha hready.write hfix (hhead.trans hsame) hP₁ hcounts
      hsent
  · exact endWritten_of_misfit h hhost ha hready.write hfix hP₁ hcounts hmisfit

end ExchangeRef

/-! ## The end of the exchange -/

namespace Finale

/-- What the stream is told in the end if every send succeeds. -/
def verdict : Finale → Except ExchangeError Unit
  | misfit length written => .error (.lengthMismatch length written)
  | told | framed _ => .ok ()

/-- What is sent. -/
def frames (stream : Stream) : Finale → List Emission
  | misfit _ _ | told => []
  | framed head => [⟨stream, head, true, []⟩]

end Finale

namespace Stream.Prompt

variable {w : World κ ε} {e : ExchangeRef} {stream : Stream} {edit : Fields → Fields}
  {P : ε → Prop}

/-- The final frame is answered at once, and the stream is told the success then. -/
theorem framed_run (h : stream.Prompt host inner edit P) (hinner : inner.Lawful)
    (hP : P w.outside) {head : Option ResponseHead}
    (hp : ((Finale.framed head).handed e stream w).Possible) :
    ∃ x, (Finale.framed head).perform host e stream w = (.done (), x) ∧
      .succeeded e stream ∈ x.deeds ∧ x.channel.persistent = w.channel.persistent := by
  let s : Sending κ := ⟨⟨w.sends.size⟩, stream, head, true, .finalFrame e stream, []⟩
  obtain ⟨outside, later, hkept, -, hcompleted⟩ :=
    h.completes (head.map (·, e)) true s.ref [] (w.handOver e s) hP
  let called : World κ ε := { w.handOver e s with outside }
  let told := (called.answer e s.ref (.ok ())).note (.succeeded e stream)
  have hcb : called.sendCallback? s.ref = some (.finalFrame e stream) :=
    (sendCallback?_handOver (w := w) rfl s.ref).trans (if_pos rfl)
  have hcalled : called.Possible :=
    hp.course (.single (.aside (A := fun _ => True) _ _ _ _ outside (fun _ => rfl) le_rfl))
  have htold : told.Possible :=
    hcalled.course (.single (.answerFinal (A := fun _ => True) (.ok ()) hcb))
  obtain ⟨u, hrun, hsame⟩ := (h.succeeds told htold hkept).2
  have hlater := Runs.compositional.succeeded hinner.answers stream told htold.sound
  rw [hrun] at hlater
  have hmem : .succeeded e stream ∈ u.deeds :=
    (Course.deeds_suffix hlater).subset List.mem_cons_self
  have hanswer : s.ref.complete inner (.ok ()) called = (.done (), u) :=
    (SendRef.complete_finalFrame hcb inner (.ok ())).trans ((Effect.bind_of_done rfl).trans hrun)
  have hsend : stream.send host (head.map (·, e)) true s.ref [] (w.handOver e s) =
      (.done (), { u with outside := later u.outside }) := by
    rw [hcompleted]
    exact Effect.bind_of_done hanswer
  have hsent : Engine.sendTo host e stream head true (.finalFrame e stream) [] w =
      (.done (), { u with outside := later u.outside }) :=
    (Effect.bind_of_done rfl).trans ((Effect.bind_of_done rfl).trans hsend)
  exact ⟨_, (Effect.bind_of_done hsent).trans rfl, List.mem_cons_of_mem _ hmem, hsame⟩

/-- A finale comes to its end. -/
theorem passes (h : stream.Prompt host inner edit P) (hinner : inner.Lawful) (hP : P w.outside)
    {finale : Finale} (hp : (finale.handed e stream w).Possible) :
    Engine.Passes (finale.perform host e stream) w := by
  cases finale with
  | misfit length written =>
    have hfails := h.fails w.failures.next _ hp hP
    exact .after rfl rfl (.after rfl rfl (.conclude (.after rfl rfl hfails) e))
  | told => exact .conclude (.after rfl rfl (h.succeeds _ hp hP).1) e
  | framed head =>
    obtain ⟨x, hrun, -, hsame⟩ := h.framed_run hinner hP hp
    exact ⟨x, hrun, hsame⟩

end Stream.Prompt

namespace World

variable {w w₁ w₂ x : World κ ε} {e : ExchangeRef} {stream : Stream} {edit : Fields → Fields}
  {P : ε → Prop} {A : ExchangeRef → Prop}

/-- In the state `x` an exchange is over that was ended with this finale after the state `w`. Every
send has succeeded. -/
structure EndsIn (w : World κ ε) (e : ExchangeRef) (stream : Stream) (finale : Finale)
    (x : World κ ε) : Prop where
  emissions : x.emissions e = finale.frames stream ++ w.emissions e
  verdicts : x.verdicts e = [finale.verdict]
  persistent : x.channel.persistent = w.channel.persistent
  terminal : (x.exchange e).phase = .terminal

/-- The end of a response comes to its finale at once. -/
theorem Closing.ends_promptly (h : Closing A w w₁ e stream none) (hp : w.Possible)
    (hh : host.Lawful) (hinner : inner.Lawful) (hprompt : stream.Prompt host inner edit P)
    (hP : P w₁.outside) :
    let finale := (w₁.exchange e).response.finale w.channel.version edit
    ∃ x, Engine.sendEnd host e stream w₁ = (.done (), x) ∧
      x.emissions e = finale.frames stream ++ w₁.emissions e ∧ x.verdicts e = [finale.verdict] ∧
      x.channel.persistent = w₁.channel.persistent := by
  intro finale
  obtain ⟨w₂, hfixed, hopen, hfix, hresponse, hrun⟩ :=
    Engine.sendEnd_run hprompt.prepares hP h.index_lt
  have hstep := h.step_handed hfix hresponse
  rw [h.version_eq] at hstep hrun
  have hP₂ : P w₂.outside := by
    cases hcommitted : (w₁.exchange e).response.committed with
    | true => exact hfixed hcommitted ▸ hP
    | false => exact hopen hcommitted
  have hhanded := (hp.course h.course).course (.single hstep)
  obtain ⟨x, hperform, hsame⟩ := hprompt.passes hinner hP₂ hhanded
  have hend : Engine.sendEnd host e stream w₁ = (.done (), x) := hrun.trans hperform
  have hpersistent := hsame.trans (congrArg (·.persistent) hfix.channel_eq)
  have hcourse := Engine.course_sendEnd hh h
  rw [hend] at hcourse
  have hcloses : x.Closes w₁ e stream finale := by
    refine closes_sendEnd hh h hp hprompt.prepares hP ?_
    rw [hend]
  refine ⟨x, hend, ?_⟩
  cases hfinale : finale with
  | misfit | told =>
    rw [hfinale] at hcloses
    exact ⟨hcloses.1, hcloses.2, hpersistent⟩
  | framed head =>
    rw [hfinale] at hcloses
    change ((w₁.exchange e).response.finale w.channel.version edit) = _ at hfinale
    rw [hfinale] at hhanded hperform
    obtain ⟨x', hperform', htold, -⟩ := hprompt.framed_run hinner hP₂ hhanded
    cases hperform'.symm.trans hperform
    have hverdicts := (hp.course hcourse).verdicts_eq ((mem_history x).2 ⟨htold, rfl⟩) rfl
    exact ⟨hcloses.1, hverdicts, hpersistent⟩

/-- A call that ends an exchange with success comes to the finale of the response at once. -/
theorem Possible.succeeds_promptly (h : w.Possible) (hhost : host.Lawful) (hinner : inner.Lawful)
    (hprompt : stream.Prompt host inner edit P) (hP : P w.outside)
    (hdepth : ∃ depth, Surroundings depth host)
    (hstream : w.channel.stream = some stream) {a : Active κ} (ha : w.activeFor? e = some a)
    (hready : a.Ready) :
    ∃ x, e.succeed host w = (.done (.ok ()), x) ∧
      w.EndsIn e stream ((w.exchange e).response.finale w.channel.version edit) x := by
  obtain ⟨v, hconsume, hkept, hpersistent, hresponse⟩ :=
    hprompt.discards ((w.detach e none).setPhase e .completing) hP
  have hdiscards : w.Discards e stream host none v := ⟨⟨a, ha, hready⟩, hstream, hdepth, hconsume⟩
  obtain ⟨hclosing, hsame⟩ := hdiscards.closing h
  obtain ⟨x, hend, hemissions, hverdicts, hreuse⟩ :=
    hclosing.ends_promptly h hhost hinner hprompt hkept
  have hrun : e.succeed host w = (.done (.ok ()), x) := by
    rw [hdiscards.succeed_eq]
    exact (Effect.bind_of_done hend).trans rfl
  have hbefore : (v.exchange e).response = (w.exchange e).response := by
    have hlt : e.index < (w.detach e none).exchanges.size := h.sound.index_lt_of_active ha
    refine (hresponse e).trans ?_
    exact congrArg (·.response) (exchange_modifyExchange_self (w.detach e none) hlt _)
  have hactive : (w.activeFor? e).isSome = true := by
    rw [ha]
    rfl
  have hcourse := ExchangeRef.runs_succeed hhost e w h.sound
  have hconcluded := ExchangeRef.concluded_of_succeed h.sound hactive hrun
  rw [hrun] at hcourse
  rw [hbefore] at hemissions hverdicts
  rw [hsame] at hemissions
  exact ⟨x, hrun, hemissions, hverdicts, hreuse.trans hpersistent,
    (h.course hcourse).terminal_of_concluded hconcluded⟩

/-- After a last write of no bytes, the end of the exchange sends what the write has left out, and
comes to the same. -/
theorem EndWritten.finale_eq {u : World κ ε} (h : w.EndWritten e stream edit P u)
    (hopen : (w.exchange e).response.lastWritten = false) :
    let finale := (w.exchange e).response.finale w.channel.version edit
    let finale' := (u.exchange e).response.finale u.channel.version edit
    finale'.frames stream ++ u.emissions e = finale.frames stream ++ w.emissions e ∧
      finale'.verdict = finale.verdict := by
  intro finale finale'
  obtain ⟨fields, hresponse⟩ := h.response
  have hemissions := h.emissions
  unfold endEmissions at hemissions
  have hfate' : (u.exchange e).response.ended.fate true =
      ((w.exchange e).response.after true []).fate true := by
    rw [hresponse]
    rfl
  have hfate : (w.exchange e).response.ended.fate true =
      ((w.exchange e).response.after true []).fate true := rfl
  have hlast : (u.exchange e).response.lastWritten = true := by rw [hresponse]; rfl
  unfold finale finale' Response.finale
  rw [hfate, hfate']
  rcases ((w.exchange e).response.after true []).fate_cases true with
    hsent | ⟨length, written, hmisfit⟩
  · rw [hsent] at hemissions ⊢
    dsimp only
    rw [hopen, hlast]
    exact ⟨hemissions, rfl⟩
  · rw [hmisfit] at hemissions ⊢
    exact ⟨hemissions, rfl⟩

end World

/-- **An explicit end is an implicit one.** In every reachable state, if nothing keeps the active
exchange from ending with success, its last write was not made, and its stream is prompt, then ending
it directly and ending it after a last write of no bytes both succeed and come to the same: what is
sent for the exchange from then on, what the stream is told, and whether the connection can be used
again follow in the same way from the response as it was (`Response.finale`), and the exchange is
over. -/
theorem explicit_end_agrees {w : World κ ε} (hw : Reachable w) (hhost : host.Roomy)
    (hinner : inner.Roomy) {e : ExchangeRef} {a : Active κ} (ha : w.activeFor? e = some a)
    (hready : a.Ready) (hopen : (w.exchange e).response.lastWritten = false) {stream : Stream}
    (hstream : w.channel.stream = some stream) {edit : Fields → Fields} {P : ε → Prop}
    (hprompt : stream.Prompt host inner edit P) (hP : P w.outside) :
    let finale := (w.exchange e).response.finale w.channel.version edit
    ∃ x y, e.succeed host w = (.done (.ok ()), x) ∧
      (e.write host true .ignore [] >>= fun _ => e.succeed host) w = (.done (.ok ()), y) ∧
      w.EndsIn e stream finale x ∧ w.EndsIn e stream finale y := by
  intro finale
  have h := hw.possible
  have hdepth : ∃ depth, Surroundings depth host := by
    obtain ⟨depth, hh⟩ := hhost.surroundings
    exact ⟨_, hh⟩
  obtain ⟨x, hdirect, hends⟩ :=
    h.succeeds_promptly hhost.lawful hinner.lawful hprompt hP hdepth hstream ha hready
  obtain ⟨u, hwrite, hwritten⟩ := e.write_end h hhost hinner hprompt hP hstream ha hready hopen
  have hcourse := ExchangeRef.runs_write hhost.lawful e true .ignore [] w h.sound
  rw [hwrite] at hcourse
  have hstream' : u.channel.stream = some stream := hwritten.channel ▸ hstream
  have ha' : u.activeFor? e = some a := by
    unfold activeFor?
    rw [hwritten.channel]
    exact ha
  obtain ⟨y, hafter, hends'⟩ := (h.course hcourse).succeeds_promptly hhost.lawful hinner.lawful
    hprompt hwritten.holds hdepth hstream' ha' hready
  obtain ⟨hemissions, hverdict⟩ := hwritten.finale_eq hopen
  refine ⟨x, y, hdirect, (Effect.bind_of_done hwrite).trans hafter, hends, ?_⟩
  exact ⟨hends'.emissions.trans hemissions,
    hends'.verdicts.trans (congrArg (fun verdict => [verdict]) hverdict),
    hends'.persistent.trans (congrArg (·.persistent) hwritten.channel), hends'.terminal⟩

/-- The same surroundings with streams that end every send at once, well. -/
def Host.prompting (host inner : Host κ ε) : Host κ ε :=
  { host with
    transport := { host.transport with send := fun _ _ _ ref _ => ref.complete inner (.ok ()) } }

theorem Surroundings.prompting {depth : Nat} (h : Surroundings (depth + 1) host)
    (hinner : Surroundings depth inner) : Surroundings (depth + 1) (host.prompting inner) := by
  obtain ⟨⟨hrun, hread, hdemand, hprepare, -, hpush, hconsume, hsucceeded, hfailed, hobserve,
    hquiet, hhandle, hrender, htask⟩, hperform⟩ := h
  exact ⟨⟨hrun, hread, hdemand, hprepare, fun _ _ _ ref _ => .endSend ref _ hinner, hpush, hconsume,
    hsucceeded, hfailed, hobserve, hquiet, hhandle, hrender, htask⟩, hperform⟩

theorem prompt_prompting (depth : Nat) (ref : StreamRef) :
    (Stream.transport ref).Prompt ((Host.idle (depth + 1) : Host κ ε).prompting (Host.idle depth))
      (Host.idle depth) (fun fields => fields) fun _ => True where
  discards w _ := ⟨w, rfl, trivial, rfl, fun _ => rfl⟩
  prepares _ w _ := ⟨w.outside, trivial, rfl⟩
  completes _ _ ref _ w _ := by
    refine ⟨w.outside, id, trivial, fun _ h => h, ?_⟩
    show _ = (ref.complete (Host.idle depth) (.ok ()) >>= fun _ => pure ()) w
    rw [bind_pure_unit]
    rfl
  succeeds w _ _ := by
    refine ⟨⟨w, rfl, rfl⟩, w, ?_, rfl⟩
    cases depth <;> rfl
  fails _ w _ _ := ⟨w, rfl, rfl⟩

/-- A response that was to have two bytes, and has none. -/
def overdue : Engine Unit Unit Unit := do
  keptAlive
  let _ ← ExchangeRef.setContentLength ⟨0⟩ 2

theorem permitted_overdue : Permitted overdue :=
  .bind permitted_keptAlive fun _ => .bind (.setContentLength _ _) fun _ => .pure ()

/-- A response whose two bytes were written is ended by one final frame, and one that has none of its
two bytes fails, with the last write as without. -/
theorem explicit_end_agrees_overdue :
    let host : Host Unit Unit := (Host.idle 3).prompting (Host.idle 2)
    let w := World.after wholeBody
    let v := World.after overdue
    (∃ x y, ExchangeRef.succeed host ⟨0⟩ w = (.done (.ok ()), x) ∧
      (ExchangeRef.write host ⟨0⟩ true .ignore [] >>= fun _ => ExchangeRef.succeed host ⟨0⟩) w =
        (.done (.ok ()), y) ∧
      w.EndsIn ⟨0⟩ (.transport ⟨0⟩) (.framed none) x ∧
      w.EndsIn ⟨0⟩ (.transport ⟨0⟩) (.framed none) y) ∧
    ∃ x y, ExchangeRef.succeed host ⟨0⟩ v = (.done (.ok ()), x) ∧
      (ExchangeRef.write host ⟨0⟩ true .ignore [] >>= fun _ => ExchangeRef.succeed host ⟨0⟩) v =
        (.done (.ok ()), y) ∧
      v.EndsIn ⟨0⟩ (.transport ⟨0⟩) (.misfit 2 0) x ∧
      v.EndsIn ⟨0⟩ (.transport ⟨0⟩) (.misfit 2 0) y := by
  intro host w v
  have hidle : (Host.idle 2 : Host Unit Unit).Roomy := ⟨⟨1, surroundings_idle 2⟩, by decide⟩
  have hhost : host.Roomy :=
    ⟨⟨2, (surroundings_idle 3).prompting (surroundings_idle 2)⟩, by decide⟩
  have hprompt := prompt_prompting (κ := Unit) (ε := Unit) 2 ⟨0⟩
  obtain ⟨a, ha, haready⟩ : ∃ a, w.activeFor? ⟨0⟩ = some a ∧ a.Ready :=
    World.exists_ready (by decide +kernel)
  obtain ⟨b, hb, hbready⟩ : ∃ a, v.activeFor? ⟨0⟩ = some a ∧ a.Ready :=
    World.exists_ready (by decide +kernel)
  have hw := explicit_end_agrees permitted_wholeBody.reachable hhost hidle ha haready
    (by decide +kernel) (by decide +kernel) hprompt trivial
  have hv := explicit_end_agrees permitted_overdue.reachable hhost hidle hb hbready
    (by decide +kernel) (by decide +kernel) hprompt trivial
  have hfits : (w.exchange ⟨0⟩).response.finale w.channel.version (fun fields => fields) =
      .framed none := by decide +kernel
  have hmisfit : (v.exchange ⟨0⟩).response.finale v.channel.version (fun fields => fields) =
      .misfit 2 0 := by decide +kernel
  dsimp only [w, v] at hw hv hfits hmisfit
  rw [hfits] at hw
  rw [hmisfit] at hv
  exact ⟨hw, hv⟩

end HttpExchange
