import HttpExchange.Proofs.Writing

/-!
# The end of an exchange as a sequence of steps

The call that ends an exchange detaches it first. Whatever the surroundings do after that, up to the
end of the call, leaves the exchange alone, so the call finds it as it was (`Closing.run`), hands
its end to the stream once, and concludes (`Closed.conclude`).

The calls are long, and run code of the surroundings in several places: wakers, the renderer, the
stream that prepares the head, and the stream that is handed the last bytes. `Closing` is what holds
once the exchange is detached and completing, up to the handing over, and `Handed` what holds after
that. A part of the engine that stands between two calls goes from `Closing` to `Closing`, or from
there to `Handed`, so the lemmas about a success and about a failure are put together of the same
parts.

With this every operation goes by steps (`ClientOf.runs`), and every reachable state is at the end of
a course of steps (`ReachableOf.possible`). `World.Possible` is what all invariants are shown for, by
induction along the course (`Possible.induct`), or along the record of one exchange
(`Possible.record_induct`).
-/

namespace HttpExchange

variable {κ ε α : Type} {host : Host κ ε}

open World Record

namespace World

variable {A : ExchangeRef → Prop} {w w₁ w₂ : World κ ε} {e : ExchangeRef} {stream : Stream}
  {cause : Option FailureRef}

/-- A detached exchange is not open. -/
theorem not_open_of_detached (hlt : e.index < w.exchanges.size) (h : w.activeFor? e = none) :
    ¬w.Open e := by
  intro ho
  have hsome := ho hlt
  rw [h] at hsome
  cases hsome

/-- No detached exchange becomes active again. -/
theorem Course.activeFor?_eq_none (hc : Course A w w₁) (hs : w.Sound)
    (hlt : e.index < w.exchanges.size) (h : w.activeFor? e = none) : w₁.activeFor? e = none := by
  refine Option.eq_none_iff_forall_ne_some.2 fun a ha => ?_
  exact not_open_of_detached hlt h (Course.open_anti hc hs (open_of_active ha))

theorem not_open_of_ending {ended : Option Stream} (hs : w.Sound)
    (h : (w.record e).Ending e ended cause) : ¬w.Open e :=
  not_open_of_detached (hs.index_lt_of_ending h) h.detached

/-- A call that may end the exchanges in `A` has ended this one, and got from the state `w` to the
state `w₁`. Nothing about the end was handed to the stream yet. -/
structure Closing (A : ExchangeRef → Prop) (w w₁ : World κ ε) (e : ExchangeRef) (stream : Stream)
    (cause : Option FailureRef) : Prop where
  sound : w.Sound
  open_imp : ∀ g, w.Open g → A g
  own : A e
  course : Course A w w₁
  ending : (w₁.record e).Ending e (some stream) cause
  completing : (w₁.exchange e).phase = .completing

/-- As `Closing`, with the end handed to the stream. -/
structure Handed (A : ExchangeRef → Prop) (w w₁ : World κ ε) (e : ExchangeRef) : Prop where
  sound : w.Sound
  open_imp : ∀ g, w.Open g → A g
  own : A e
  course : Course A w w₁
  closed : ∃ d, (w₁.record e).Closed d

namespace Closing

theorem sound₁ (h : Closing A w w₁ e stream cause) : w₁.Sound := Course.sound h.course h.sound

theorem index_lt (h : Closing A w w₁ e stream cause) : e.index < w₁.exchanges.size :=
  h.sound₁.index_lt_of_ending h.ending

theorem not_open (h : Closing A w w₁ e stream cause) : ¬w₁.Open e :=
  not_open_of_ending h.sound₁ h.ending

/-- Whatever is called meanwhile leaves the exchange alone. -/
theorem run {m : Engine κ ε α} (h : Closing A w w₁ e stream cause) (hm : Runs m) :
    Closing A w (m w₁).2 e stream cause ∧
      ((m w₁).2.exchange e).response.committed = (w₁.exchange e).response.committed := by
  obtain ⟨hend, hphase, hcommitted⟩ :=
    Course.ending (hm w₁ h.sound₁) h.sound₁ h.not_open h.ending
  exact ⟨⟨h.sound, h.open_imp, h.own, Course.run h.course h.sound h.open_imp hm, hend,
    hphase.trans h.completing⟩, hcommitted⟩

end Closing

namespace Handed

theorem sound₁ (h : Handed A w w₁ e) : w₁.Sound := Course.sound h.course h.sound

theorem not_open (h : Handed A w w₁ e) : ¬w₁.Open e := by
  obtain ⟨d, hd⟩ := h.closed
  exact not_open_of_detached (h.sound₁.index_lt_of_mem hd.closed.1) hd.detached

/-- After its end was handed to the stream, a call has nothing more to do for an exchange. -/
theorem conclude {m : Engine κ ε Unit} (h : Handed A w w₁ e) (hm : Runs m) :
    Course A w ((m >>= fun _ => Engine.conclude e) w₁).2 := by
  obtain ⟨d, hd⟩ := h.closed
  have hd₂ := Course.closed (hm w₁ h.sound₁) h.sound₁ h.not_open hd
  have hcourse := Course.run h.course h.sound h.open_imp hm
  rw [Effect.bind_run]
  -- if the call panics or is cut off, the exchange stays closed without being concluded
  rcases hmw : m w₁ with ⟨_ | _ | _, w₂⟩
  · rw [hmw] at hcourse hd₂
    exact .tail hcourse
      (.conclude h.own hd₂.detached hd₂.completing hd₂.closed.1 hd₂.closed.2)
  · rw [hmw] at hcourse
    exact hcourse
  · rw [hmw] at hcourse
    exact hcourse

end Handed

/-- Handing the end to the stream is the step after which a call is done. -/
theorem Closing.handed {d : Deed κ} (h : Closing A w w₁ e stream cause)
    (hstep : Step A w₁ w₂) (hd : (w₂.record e).Closed d) : Handed A w w₂ e :=
  ⟨h.sound, h.open_imp, h.own, .tail h.course hstep, d, hd⟩

end World

namespace Engine

variable {A : ExchangeRef → Prop} {w w₁ w₂ : World κ ε} {e : ExchangeRef} {stream : Stream}
  {cause : FailureRef}

theorem course_terminate (hh : host.Lawful) {ended : Option FailureRef}
    (h : Closing A w w₁ e stream ended) (hcause : ∀ c, ended = some c → cause = c) :
    Course A w (terminate host e stream cause w₁).2 := by
  have hstep : Step A w₁ (w₁.note (.failed e stream cause)) :=
    .tellFailure cause h.own h.ending h.completing hcause
  have hmem : .failed e stream cause ∈ (w₁.note (.failed e stream cause)).history e := by
    rw [history_note_self w₁ rfl]
    exact List.mem_cons_self
  have hhanded : Handed A w (w₁.note (.failed e stream cause)) e :=
    h.handed hstep ⟨h.ending.detached, h.completing, hmem, rfl⟩
  have hrun := hhanded.conclude (Runs.compositional.failed hh.answers cause stream)
  exact hrun

theorem mem_history_handOver (w : World κ ε) (e : ExchangeRef) (s : Sending κ) :
    .sent e s ∈ (w.handOver e s).history e := by
  have h : (w.handOver e s).history e = .sent e s :: w.history e :=
    congrArg Record.history (record_handOver_self w e s)
  rw [h]
  exact List.mem_cons_self

/-- The end is handed to the stream in a step that fixes the head on the way. -/
theorem handed_of_headFixed {w₃ : World κ ε} {f : Response → Response} {last commits : Bool}
    {head : Option ResponseHead} {ended : Option FailureRef} {d : Deed κ}
    (h : Closing A w w₁ e stream ended)
    (hfix : (w₁.modifyResponse e f).HeadFixed e last commits w₂ head)
    (hstep : Step A w₁ w₃) (hexchange : w₃.exchange e = w₂.exchange e)
    (hactive : w₃.activeFor? e = w₂.activeFor? e) (hmem : d ∈ w₃.history e)
    (hc : d.closes = true) : Handed A w w₃ e := by
  obtain ⟨r, -, -, hw₂⟩ := hfix.record_modifyResponse h.index_lt
  refine h.handed hstep ⟨?_, ?_, hmem, hc⟩
  · have hnone : w₂.activeFor? e = none := (congrArg Record.active hw₂).trans h.ending.detached
    exact hactive.trans hnone
  · have hphase : (w₂.exchange e).phase = (w₁.exchange e).phase :=
      congrArg (fun ρ : Record κ => ρ.state.phase) hw₂
    exact (congrArg (·.phase) hexchange).trans (hphase.trans h.completing)

/-- What a call sends at the end of a successful response, once the head is fixed. -/
theorem course_sendRest (hh : host.Lawful) {head : Option ResponseHead}
    (h : Closing A w w₁ e stream none)
    (hfix : (w₁.modifyResponse e (·.close)).HeadFixed e true
      (!(w₁.exchange e).response.committed) w₂ head) :
    Course A w (sendRest host e stream head w₂).2 := by
  have hsends : w₂.sends = w₁.sends := hfix.sends_eq
  have hfailures : w₂.failures = w₁.failures := hfix.failures_eq
  refine Course.bind_done rfl ?_
  dsimp only
  cases hfault : (w₂.exchange e).response.lengthFault true with
  | some fault =>
    refine Course.bind_done rfl (Course.bind_done rfl ?_)
    have hstep := Step.mismatch h.own h.ending h.completing hfix hfault
    -- fixing the head makes no failure, so the one of the step is the one that is made here
    have hnext : w₂.failures.next = w₁.failures.next := congrArg Failures.next hfailures
    rw [← hnext] at hstep
    have hmem : .failed e stream w₂.failures.next ∈
        (((w₂.note (.mismatched e)).addFailure fault).note
          (.failed e stream w₂.failures.next)).history e := by
      rw [history_note_self _ rfl]
      exact List.mem_cons_self
    have hhanded := handed_of_headFixed h hfix hstep rfl rfl hmem rfl
    exact hhanded.conclude (Runs.compositional.failed hh.answers _ stream)
  | none =>
    dsimp only
    cases hlast : (w₂.exchange e).response.lastWritten with
    | true =>
      have hstep := Step.tellSuccess h.own h.ending h.completing hfix hfault hlast
      have hmem : .succeeded e stream ∈ (w₂.note (.succeeded e stream)).history e := by
        rw [history_note_self w₂ rfl]
        exact List.mem_cons_self
      have hhanded := handed_of_headFixed h hfix hstep rfl rfl hmem rfl
      exact hhanded.conclude (Runs.compositional.succeeded hh.answers stream)
    | false =>
      have hstep := Step.sendFinal h.own h.ending h.completing hfix hfault hlast
      rw [← hsends] at hstep
      have hhanded := handed_of_headFixed h hfix hstep rfl rfl (mem_history_handOver w₂ e _) rfl
      exact hhanded.conclude
        (Runs.compositional.send hh.answers (head.map (·, e)) true ⟨w₂.sends.size⟩ [] stream)

/-- The end of a successful response. -/
theorem course_sendEnd (hh : host.Lawful) (h : Closing A w w₁ e stream none) :
    Course A w (sendEnd host e stream w₁).2 := by
  refine Course.bind_done rfl (Course.bind_done rfl ?_)
  dsimp only
  cases hcommitted : (w₁.exchange e).response.committed with
  | true =>
    have hfix : (w₁.modifyResponse e (·.close)).HeadFixed e true
        (!(w₁.exchange e).response.committed) (w₁.modifyResponse e (·.close)) none := by
      rw [hcommitted]
      exact .before
    exact course_sendRest hh h hfix
  | false =>
    have hlt : e.index < (w₁.modifyResponse e (·.close)).exchanges.size := by
      rw [size_modifyResponse]
      exact h.index_lt
    rw [if_neg Bool.false_ne_true, bind_map_left]
    refine bind_freezeHead hh hlt ?_ ?_
    · exact fun _ _ hfix => .tail h.course
        (.stickFinal h.own h.ending h.completing hcommitted hfix)
    · intro w₂ head hfix
      refine course_sendRest hh h ?_
      rw [hcommitted]
      exact hfix

/-- The end of a failed response that was not fixed. -/
theorem course_sendErrorResponse (hh : host.Lawful) (h : Closing A w w₁ e stream (some cause))
    (hcommitted : (w₁.exchange e).response.committed = false) :
    Course A w (sendErrorResponse host e stream cause w₁).2 := by
  refine Course.bind_done rfl (Course.bind_done rfl ?_)
  dsimp only
  have hrender := hh.answers.render (w₁.exchange e).request
    (ErrorPage.ofFailure w₁.failures cause) .empty
  obtain ⟨h₂, hsame⟩ := h.run hrender
  rw [hcommitted] at hsame
  rw [Effect.bind_run, Effect.attempt]
  rcases hrun : host.render (w₁.exchange e).request (ErrorPage.ofFailure w₁.failures cause) .empty
    w₁ with ⟨⟨body, fields⟩ | p | _, w₂⟩
  · rw [hrun] at h₂ hsame
    refine Course.bind_done rfl ?_
    have hlt : e.index < (w₂.modifyResponse e (·.overlaid body fields)).exchanges.size := by
      rw [size_modifyResponse]
      exact h₂.index_lt
    refine bind_freezeHead hh hlt ?_ ?_
    · exact fun _ _ hfix => .tail h₂.course
        (.stickError body fields h₂.own h₂.ending h₂.completing hsame hfix)
    · intro w₃ head hfix
      have hsends : w₃.sends = w₂.sends := hfix.sends_eq
      have hstep := Step.sendError body fields h₂.own h₂.ending h₂.completing hsame hfix
      rw [← hsends] at hstep
      have hhanded := handed_of_headFixed h₂ hfix hstep rfl rfl (mem_history_handOver w₃ e _) rfl
      exact hhanded.conclude
        (Runs.compositional.send hh.answers (some (head, e)) true ⟨w₃.sends.size⟩ [body] stream)
  · -- the renderer panicked: the stream is told the failure without a page
    rw [hrun] at h₂
    refine Course.bind_done rfl (Course.bind_done rfl ?_)
    have hreported : Runs (panicFailure p >>= fun failure => suppress cause failure :
        Engine κ ε Unit) := .bind (.panicFailure p) fun _ => .suppress _ _
    exact course_terminate hh (h₂.run hreported).1 fun c hc => (Option.some.inj hc)
  · rw [hrun] at h₂
    exact h₂.course

theorem runs_forbidReuse (e : ExchangeRef) : Runs (forbidReuse e : Engine κ ε Unit) := by
  refine .bind (.gets _) fun persistent => ?_
  split
  · refine .bind (.modify fun _ _ => .unpersist) fun _ => .modify fun w _ => ?_
    refine .edit e _ (.of_response ?_ fun hcommitted => if_pos hcommitted)
    dsimp only
    split <;> rfl
  · exact .pure ()

end Engine

/-- Nothing keeps an exchange from ending with success. -/
structure Active.Ready (a : Active κ) : Prop where
  processing : a.processing = true
  demand : a.demand = none
  write : a.write = none
  error : a.error = none

namespace World

variable {A : ExchangeRef → Prop} {w w₁ : World κ ε} {e : ExchangeRef} {active : Active κ}

/-- Right after an exchange was detached nothing was done for it. -/
theorem ending_detach (hs : w.Sound) (ha : w.activeFor? e = some active)
    (cause : Option FailureRef)
    (hsuccess : cause = none → active.write = none ∧ active.error = none) :
    ((w.detach e cause).record e).Ending e w.channel.stream cause := by
  rw [record_detach_self]
  refine ⟨rfl, ⟨[], _, rfl, fun _ hd => nomatch hd⟩, fun d hd => ?_, fun hc hcommitted => ?_⟩
  · rcases List.mem_cons.1 hd with rfl | hd
    · rfl
    · have hactive : (w.record e).active.isSome = true := by
        show (w.activeFor? e).isSome = true
        rw [ha]
        rfl
      exact ((hs.unended e).going hactive d hd).1
  · obtain ⟨hwrite, herror⟩ := hsuccess hc
    have hused := (hs.unended e).used active ha hwrite herror hcommitted
    exact hused.mono (List.subset_cons_self _ _)

/-- The call that detached an exchange goes on by changing what is kept of it. -/
theorem closing_modifyExchange {stream : Stream} {cause : Option FailureRef}
    {f : Exchange → Exchange} (hs : w.Sound) (hA : ∀ g, w.Open g → A g) (hown : A e)
    (hcourse : Course A w w₁) (hend : (w₁.record e).Ending e (some stream) cause)
    (hstep : Step A w₁ (w₁.modifyExchange e f))
    (hf : (f (w₁.exchange e)).phase = .completing)
    (hcommitted : cause = none →
      (f (w₁.exchange e)).response.committed = (w₁.exchange e).response.committed) :
    Closing A w (w₁.modifyExchange e f) e stream cause := by
  have hlt := (Course.sound hcourse hs).index_lt_of_ending hend
  have hrec := record_modifyExchange_self w₁ hlt f
  refine ⟨hs, hA, hown, .tail hcourse hstep, ?_, ?_⟩
  · rw [hrec]
    exact ⟨hend.detached, hend.latest, hend.unclosed,
      fun hc hcom => hend.used hc ((hcommitted hc).symm.trans hcom)⟩
  · exact (congrArg (fun ρ : Record κ => ρ.state.phase) hrec).trans hf

/-- An exchange that ends with success is detached first, and its end is still to be handed to the
stream then. -/
theorem closing_succeed {stream : Stream} (hs : w.Sound) (ha : w.activeFor? e = some active)
    (hready : active.Ready) (hstream : w.channel.stream = some stream) :
    Closing w.Open w ((w.detach e none).setPhase e .completing) e stream none := by
  have hdetach : Step w.Open w (w.detach e none) :=
    .succeed ha hready.processing hready.demand hready.write hready.error
  have hend := ending_detach hs ha none fun _ => ⟨hready.write, hready.error⟩
  rw [hstream] at hend
  have hopen := open_of_active ha
  exact closing_modifyExchange hs (fun _ h => h) hopen (.single hdetach) hend
    (.complete hopen hend) rfl fun _ => rfl

end World

namespace Engine

variable {A : ExchangeRef → Prop} {w w₁ : World κ ε} {e : ExchangeRef} {stream : Stream}
  {cause : FailureRef}

/-- What is left of a success after the exchange was detached. -/
theorem course_succeedStream (hh : host.Lawful) (h : Closing A w w₁ e stream none) :
    Course A w (succeedStream host e stream w₁).2 := by
  have hconsume := Runs.compositional.consumeAll hh.answers stream
  refine Course.bind_runs h.course h.sound h.open_imp hconsume ?_
  intro unread _
  obtain ⟨h₂, -⟩ := h.run hconsume
  cases unread with
  | none => exact course_sendEnd hh h₂
  | some unread =>
    refine Course.bind_done rfl ?_
    dsimp only
    split
    · have h₃ := (h₂.run (runs_forbidReuse e)).1
      refine Course.bind_runs h₂.course h₂.sound h₂.open_imp (runs_forbidReuse e) ?_
      exact fun _ _ => course_sendEnd hh h₃
    · exact course_terminate hh h₂ nofun

/-- What is left of a failure after the exchange was detached. -/
theorem course_failStream (hh : host.Lawful) (hs : w.Sound) (hA : ∀ g, w.Open g → A g)
    (hown : A e) (hcourse : Course A w w₁)
    (hend : (w₁.record e).Ending e (some stream) (some cause)) (standard : Fields) :
    Course A w (failStream host e stream cause standard w₁).2 := by
  refine Course.bind_done rfl ?_
  dsimp only
  cases hcommitted : (w₁.exchange e).response.committed with
  | true =>
    have hclosing := closing_modifyExchange hs hA hown hcourse hend (.complete hown hend) rfl
      fun _ => rfl
    exact Course.bind_done rfl (course_terminate hh hclosing fun c hc => Option.some.inj hc)
  | false =>
    have hstep := Step.recycle standard hown hend hcommitted
    rw [World.setPhase, modifyExchange_modifyExchange] at hstep
    have hclosing := closing_modifyExchange hs hA hown hcourse hend hstep rfl fun hnone => by
      cases hnone
    have hlt := (Course.sound hcourse hs).index_lt_of_ending hend
    refine Course.bind_done rfl (Course.bind_done rfl (Course.bind_done rfl ?_))
    show Course A w (sendErrorResponse host e stream cause
      ((w₁.modifyExchange e _).modifyExchange e _)).2
    rw [modifyExchange_modifyExchange]
    refine course_sendErrorResponse hh hclosing ?_
    rw [exchange_modifyExchange_self w₁ hlt]
    rfl

end Engine

namespace ExchangeRef

/-- An exchange that is not active has nothing to succeed with. -/
theorem succeed_of_detached {w : World κ ε} {e : ExchangeRef} (ha : w.activeFor? e = none) :
    e.succeed host w = (.done (.ok ()), w) := by
  simp only [succeed, Effect.bind_run, Engine.activeFor?, Effect.gets, ha]
  rfl

/-- An exchange that has something to wait for, or failed, does not succeed. -/
theorem succeed_of_unready {w : World κ ε} {e : ExchangeRef} {active : Active κ}
    (ha : w.activeFor? e = some active) (hunready : ¬active.Ready) :
    ∃ why, ∀ host : Host κ ε, e.succeed host w = (.done (.error why), w) := by
  simp only [succeed, Effect.bind_run, Engine.activeFor?, Effect.gets, ha]
  split
  next => exact ⟨.notProcessing, fun _ => rfl⟩
  next hprocessing =>
    split
    next => exact ⟨.demandPending, fun _ => rfl⟩
    next hdemand =>
      split
      next => exact ⟨.writePending, fun _ => rfl⟩
      next hwrite =>
        split
        next => exact ⟨.exchangeFailed, fun _ => rfl⟩
        next herror =>
          exact absurd ⟨by simpa using hprocessing, by simpa using hdemand, by simpa using hwrite,
            by simpa using herror⟩ hunready

/-- A success that is not refused detaches the exchange, and ends the response. -/
theorem succeed_run {w : World κ ε} {e : ExchangeRef} {active : Active κ} {stream : Stream}
    (ha : w.activeFor? e = some active) (hready : active.Ready)
    (hstream : w.channel.stream = some stream) :
    e.succeed host w =
      (Engine.succeedStream host e stream >>= fun _ => Pure.pure (.ok ()))
        ((w.detach e none).setPhase e .completing) := by
  have hactive : Engine.activeFor? e w = (.done (some active), w) :=
    congrArg (fun found => (Outcome.done found, w)) ha
  have hattached : (Effect.gets fun w => w.channel.stream : Engine κ ε (Option Stream)) w =
      (.done (some stream), w) := congrArg (fun found => (Outcome.done found, w)) hstream
  have hdetach : Engine.detach e none w = (.done (), w.detach e none) := rfl
  unfold succeed
  rw [Effect.bind_of_done hactive]
  dsimp only
  rw [hready.processing, hready.demand, hready.write, hready.error]
  show (_ >>= _ : Engine κ ε _) w = _
  rw [Effect.bind_of_done hattached, Effect.bind_of_done hdetach]
  rfl

theorem runs_succeed (hh : host.Lawful) (e : ExchangeRef) : Runs (e.succeed host) := by
  intro w hs
  cases ha : w.activeFor? e with
  | none => rw [succeed_of_detached ha]
  | some active =>
    by_cases hready : active.Ready
    · obtain ⟨stream, hstream⟩ := hs.exists_stream ha
      have hclosing := closing_succeed hs ha hready hstream
      rw [succeed_run ha hready hstream]
      exact Course.bind_pure (Engine.course_succeedStream hh hclosing)
    · obtain ⟨why, hrefused⟩ := succeed_of_unready ha hready
      rw [hrefused]

/-- An exchange that has ended is not failed any more. -/
theorem fail_of_detached {w : World κ ε} {e : ExchangeRef} (ha : w.activeFor? e = none)
    (cause : FailureRef) : e.fail host cause w = (.done (), w) := by
  simp only [fail, Effect.bind_run, Engine.activeFor?, Effect.gets, ha]
  rfl

/-- Failing an active exchange detaches it, loses the pending write, and ends the response. -/
theorem fail_run {w : World κ ε} {e : ExchangeRef} {active : Active κ} {stream : Stream}
    (ha : w.activeFor? e = some active) (hstream : w.channel.stream = some stream)
    (cause : FailureRef) :
    e.fail host cause w =
      ((match active.write with
        | some callback => callback.drop host
        | none => Pure.pure ()) >>= fun _ =>
          Engine.failStream host e stream cause (w.channel.config.standardFields host.now))
        (w.detach e (some cause)) := by
  have hactive : Engine.activeFor? e w = (.done (some active), w) :=
    congrArg (fun found => (Outcome.done found, w)) ha
  have hchannel : (Effect.gets fun w => w.channel : Engine κ ε (Channel κ)) w =
      (.done w.channel, w) := rfl
  have hdetach : Engine.detach e (some cause) w = (.done (), w.detach e (some cause)) := rfl
  unfold fail
  rw [Effect.bind_of_done hactive]
  dsimp only
  rw [Effect.bind_of_done hchannel, Effect.bind_of_done hdetach, hstream]
  cases active.write <;> rfl

/-- After an exchange was detached, its response is ended whatever is called before. -/
theorem course_detached (hh : host.Lawful) {w w₁ : World κ ε} {e : ExchangeRef} {stream : Stream}
    {cause : FailureRef} (hs₁ : w₁.Sound) (hopen : ∀ g, w₁.Open g → w.Open g) (hown : w.Open e)
    (hend : (w₁.record e).Ending e (some stream) (some cause)) {m : Engine κ ε Unit} (hm : Runs m)
    (standard : Fields) :
    Course w.Open w₁ ((m >>= fun _ => Engine.failStream host e stream cause standard) w₁).2 := by
  -- whoever is called may call anything in turn, but the exchange is detached
  refine Course.bind_runs .refl hs₁ hopen hm fun _ _ => ?_
  have hend₂ := (Course.ending (hm _ hs₁) hs₁ (not_open_of_ending hs₁ hend) hend).1
  have hcourse := Course.run .refl hs₁ hopen hm
  exact Engine.course_failStream hh hs₁ hopen hown hcourse hend₂ standard

/-- A call that fails an active exchange goes on from the state in which it was detached. -/
theorem course_fail (hh : host.Lawful) {w : World κ ε} (hs : w.Sound) {e : ExchangeRef}
    {active : Active κ} (ha : w.activeFor? e = some active) (cause : FailureRef) :
    Course w.Open (w.detach e (some cause)) (e.fail host cause w).2 := by
  have hdetach : Step w.Open w (w.detach e (some cause)) := .fail cause ha
  have hend := ending_detach hs ha (some cause) nofun
  obtain ⟨stream, hstream⟩ := hs.exists_stream ha
  rw [hstream] at hend
  rw [fail_run ha hstream]
  refine course_detached hh (hdetach.sound hs) (fun _ ho => hdetach.open_anti hs ho)
    (open_of_active ha) hend ?_ _
  cases active.write with
  | none => exact .pure ()
  | some callback => exact Runs.compositional.drop hh.answers callback

theorem runs_fail (hh : host.Lawful) (e : ExchangeRef) (cause : FailureRef) :
    Runs (e.fail host cause) := by
  intro w hs
  cases ha : w.activeFor? e with
  | none => rw [fail_of_detached ha]
  | some active => exact .head (.fail cause ha) (course_fail hh hs ha cause)

end ExchangeRef

/-! ## Everything that can run -/

theorem ExchangeRef.runs_dispatch (hh : host.Lawful) (e : ExchangeRef) :
    Runs (e.dispatch host) := by
  refine .bind e.runs_enableProcessing fun _ => .bind (.attempt (hh.answers.handle e)) fun r => ?_
  split
  · exact .pure ()
  · exact .bind (.newFailure _) fun _ => e.runs_fail hh _
  · exact .bind (.panicFailure _) fun _ => e.runs_fail hh _

theorem Job.runs_perform (hh : host.Lawful) (job : Job κ) : Runs (job.perform host) := by
  cases job with
  | code run signal => exact hh.answers.run run signal
  | wakeBody body => exact body.runs_wake hh
  | complete callback result => exact Runs.compositional.complete hh.answers callback result
  | errorListener _ run cause => exact hh.answers.run run _
  | closeListener run cause =>
    exact .bind (.attempt (hh.answers.run run _)) fun _ => .pure ()
  | abort cause =>
    refine .bind (Channel.runs_onError host cause) fun task => ?_
    cases task with
    | none => exact .pure ()
    | some task => exact hh.perform task.job
  | fail e cause => exact e.runs_fail hh cause
  | dispatch e => exact e.runs_dispatch hh
  | drain name => exact Queue.runs_drain hh name

/-- A client goes by steps of the engine if the hosts that it uses do. -/
theorem ClientOf.runs {C : Craft κ ε} {H : Host κ ε → Prop} (hH : ∀ host, H host → host.Lawful)
    {m : Engine κ ε α} (h : ClientOf C H α m) : Runs m := by
  induction h with
  | pure a => exact .pure a
  | bind _ _ ihm ihf => exact .bind ihm ihf
  | panic p => exact .panic p
  | attempt _ ih => exact .attempt ih
  | halt => exact .halt
  | look => exact .get
  | keep f => exact .aside fun _ => .of_promises rfl ⟨_, _, _, _, rfl⟩
  | newFailure error => exact .newFailure error
  | suppress f other => exact .suppress f other
  | newStream => exact Stream.runs_newStream
  | newSlot listener => exact SlotRef.runs_new listener
  | attach _ _ ih => exact .bind ih fun stream => Channel.runs_setStream stream
  | onRequest request _ => exact Channel.runs_onRequest _ request
  | onContentAvailable => exact Channel.runs_onContentAvailable
  | onError cause _ => exact Channel.runs_onError _ cause
  | onClose cause => exact Channel.runs_onClose cause
  | addCloseListener listener => exact Channel.runs_addCloseListener listener
  | wrapStream _ _ _ ih => exact Channel.runs_wrapStream _ ih
  | endSend ref result hh => exact ref.runs_complete (hH _ hh) result
  | perform job hh => exact job.runs_perform (hH _ hh)
  | offer tasks => exact Engine.runs_offer tasks
  | enqueue task hh => exact Queue.runs_run (hH _ hh) task
  | readContent e hh => exact e.runs_readContent (hH _ hh)
  | demandContent e code hh => exact e.runs_demandContent (hH _ hh) _
  | addErrorListener e listener hh => exact e.runs_addErrorListener (hH _ hh) listener
  | addCompletionListener e listener _ => exact e.runs_addCompletionListener _ listener
  | newBody e => exact BodyRef.runs_new e
  | pollBody body waker hh => exact body.runs_poll (hH _ hh) waker
  | setStatus e status => exact e.runs_setStatus status
  | editFields e _ ih => exact e.runs_editFields ih
  | setContentLength e length => exact e.runs_setContentLength length
  | editTrailers e _ ih => exact e.runs_editTrailers ih
  | takeTrailers e => exact e.runs_takeTrailers
  | reset e => exact e.runs_reset
  | write e last callback chunks hh => exact e.runs_write (hH _ hh) last callback chunks
  | writeAsync e last chunks hh => exact e.runs_writeAsync (hH _ hh) last chunks
  | writeError e status message callback hh =>
    exact e.runs_writeError (hH _ hh) status message callback
  | push e request hh => exact e.runs_push (hH _ hh) request
  | pollPromise promise waker => exact promise.runs_poll waker
  | forget promise => exact promise.runs_forget
  | succeed e hh => exact e.runs_succeed (hH _ hh)
  | fail e cause hh => exact e.runs_fail (hH _ hh) cause

/-- Surroundings of every depth are lawful. -/
theorem SurroundingsOf.lawful {C : Craft κ ε} {depth : Nat} {host : Host κ ε}
    (h : SurroundingsOf C depth host) : host.Lawful := by
  -- a host of the next depth is made of clients of the hosts below it
  induction depth generalizing host with
  | zero =>
    obtain ⟨hanswers, hperform⟩ := h
    refine ⟨hanswers.imp fun hm => hm.runs fun _ hf => hf.elim, fun job => ?_⟩
    rw [hperform job]
    exact .halt
  | succ depth ih =>
    obtain ⟨hanswers, inner, hinner, hperform⟩ := h
    refine ⟨hanswers.imp fun hm => hm.runs fun _ hh => ih hh, fun job => ?_⟩
    rw [hperform job]
    exact job.runs_perform (ih hinner)

theorem PermittedOf.runs {C : Craft κ ε} {m : Engine κ ε α} (h : PermittedOf C m) : Runs m :=
  ClientOf.runs (fun _ ⟨_, hh⟩ => hh.lawful) h

/-! ## States that steps lead to -/

namespace World

variable {w w' : World κ ε}

/-- A state that steps of the engine lead to from a new connection. -/
def Possible (w : World κ ε) : Prop :=
  ∃ id version config persistent outside,
    Course (fun _ => True) (start (.fresh id version config persistent) outside) w

theorem Possible.course {A : ExchangeRef → Prop} (h : w.Possible) (hc : Course A w w') :
    w'.Possible := by
  obtain ⟨id, version, config, persistent, outside, h⟩ := h
  exact ⟨id, version, config, persistent, outside,
    Relation.ReflTransGen.trans h (Course.mono (fun _ _ => trivial) hc)⟩

theorem Possible.sound (h : w.Possible) : w.Sound := by
  obtain ⟨id, version, config, persistent, outside, h⟩ := h
  exact Course.sound h (sound_start _ rfl outside)

/-- What holds at the start and is kept by every step from a possible state holds in every possible
state. -/
theorem Possible.induct {P : World κ ε → Prop} (h : w.Possible)
    (hstart : ∀ id version config persistent outside,
      P (start (.fresh id version config persistent) outside))
    (hstep : ∀ w w' : World κ ε, w.Possible → P w → Step (fun _ => True) w w' → P w') : P w := by
  obtain ⟨id, version, config, persistent, outside, hcourse⟩ := h
  -- the states on the way are possible themselves, and `hstep` may use what that gives
  induction hcourse with
  | refl => exact hstart id version config persistent outside
  | tail hc hs ih => exact hstep _ _ ⟨id, version, config, persistent, outside, hc⟩ ih hs

/-- What every move keeps, from an exchange that does not exist on, holds of the record of every
exchange in every possible state. -/
theorem Possible.record_induct {P : Record κ → Prop} (h : w.Possible) (e : ExchangeRef)
    (hnew : P ⟨default, none, []⟩)
    (hmove : ∀ ρ ρ' : Record κ, P ρ → ρ.Move e True ρ' → P ρ') : P (w.record e) := by
  refine h.induct (P := fun w => P (w.record e)) ?_ ?_
  · intro id version config persistent outside
    have hx : (start (.fresh id version config persistent) outside : World κ ε).exchange e =
        default := by simp [start, exchange]
    show P ⟨_, none, []⟩
    rw [hx]
    exact hnew
  · exact fun w w' hw hp hstep => hmove _ _ hp (hstep.move hw.sound e)

end World

/-- A reachable state is at the end of a course of steps from the start. -/
theorem ReachableOf.possible {C : Craft κ ε} {w : World κ ε} (h : ReachableOf C w) :
    w.Possible := by
  cases h with
  | intro id version config persistent outside permitted =>
    refine ⟨id, version, config, persistent, outside, ?_⟩
    exact Course.mono (fun _ _ => trivial)
      (permitted.runs _ (sound_start (.fresh id version config persistent) rfl outside))

end HttpExchange
