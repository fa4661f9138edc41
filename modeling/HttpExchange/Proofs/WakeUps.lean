import HttpExchange.Proofs.Attribution
import HttpExchange.Proofs.Consistency
import HttpExchange.Proofs.ShiftingRuns

/-!
# Who wakes a request body

Whoever polls a request body that has nothing to give is woken when the demand of the body is
answered. As long as that is to come, the demand is registered with the exchange of the body, or its
task is in the queue of the channel, or the task was just taken (`World.Awaits`).

`woken_unless_forsaken` says when that is all. Content that arrives, a failure that the connection
reports, a demand that comes too late: all of these move the demand to the queue, and with a success
there is none. A call that fails an exchange directly drops the demand with it, so the body is
forsaken (`World.Forsaken`). It stays in flight, and whoever polled it last is not woken.
-/

namespace HttpExchange

variable {κ ε : Type}

theorem Queue.subset_offer (q : Queue κ) (tasks : List (Task κ)) :
    q.tasks ⊆ (q.offer tasks).2.tasks := by
  rw [tasks_offer]
  exact List.subset_append_left _ _

/-! ## Demands of bodies at a glance -/

namespace Glance

variable {g g' : Glance κ} {b : BodyRef} {e : ExchangeRef}

/-- The demand of a body is registered with its exchange, or in the queue of the channel. -/
def Awaits (g : Glance κ) (b : BodyRef) (e : ExchangeRef) : Prop :=
  (∃ c, g.current = some c ∧ c.exchange = e ∧ c.demand = some (.wakeBody b)) ∨
    ∃ task ∈ g.queue.tasks, task.job = .wakeBody b

/-- The demand of a body was dropped when its exchange was failed, which had no failure stored. -/
structure Forsaken (g : Glance κ) (b : BodyRef) (e : ExchangeRef) : Prop where
  exists_before : e.index < g.size
  detached : ∀ c, g.current = some c → c.exchange ≠ e
  unfailed : g.failed e = false
  lost : ∃ cause, ⟨.demand (.wakeBody b), e, cause⟩ ∈ g.losses

/-- Every body in flight is to be woken, or forsaken. -/
def Attended (g : Glance κ) : Prop := ∀ (b : BodyRef) body, g.bodies[b.index]? = some body →
  body.inFlight = true → g.Awaits b body.exchange ∨ g.Forsaken b body.exchange

/-- Nothing changes about an exchange that is not active. -/
theorem Forsaken.mono (h : g.Forsaken b e) (hsize : g.size ≤ g'.size)
    (hdetached : ∀ c, g'.current = some c → c.exchange ≠ e) (hfailed : g'.failed e = g.failed e)
    (hlosses : g.losses ⊆ g'.losses) : g'.Forsaken b e :=
  ⟨Nat.lt_of_lt_of_le h.exists_before hsize, hdetached, hfailed.trans h.unfailed,
    h.lost.imp fun _ hmem => hlosses hmem⟩

/-! ## What shifts do to those who wait -/

/-- A demand that waits does so in the queue from now on, or is where it was. -/
theorem Awaits.mono (h : g.Awaits b e) (htasks : g.queue.tasks ⊆ g'.queue.tasks)
    (hcurrent : ∀ c, g.current = some c → c.exchange = e → c.demand = some (.wakeBody b) →
      g'.Awaits b e) : g'.Awaits b e := by
  rcases h with ⟨c, hc, hexchange, hdemand⟩ | ⟨task, htask, hjob⟩
  · exact hcurrent c hc hexchange hdemand
  · exact .inr ⟨task, htasks htask, hjob⟩

/-- More tasks, and nothing else that matters. -/
theorem keep (h : g.Awaits b e ∨ g.Forsaken b e) (hcurrent : g'.current = g.current)
    (htasks : g.queue.tasks ⊆ g'.queue.tasks) (hsize : g'.size = g.size)
    (hfailed : g'.failed = g.failed) (hlosses : g'.losses = g.losses) :
    g'.Awaits b e ∨ g'.Forsaken b e := by
  refine h.imp (fun hawaits => ?_) fun hforsaken => ?_
  · exact hawaits.mono htasks fun c hc hexchange hdemand =>
      .inl ⟨c, hcurrent.trans hc, hexchange, hdemand⟩
  · exact hforsaken.mono (Nat.le_of_eq hsize.symm) (hcurrent ▸ hforsaken.detached)
      (congrFun hfailed e) (hlosses ▸ List.Subset.refl _)

/-- The demand of the active exchange is put behind the other tasks, and the exchange may be failed
then. -/
theorem keep_serve (h : g.Awaits b e ∨ g.Forsaken b e) {c c' : Running κ}
    (hc : g.current = some c) (hc' : g'.current = some c') (hexchange : c'.exchange = c.exchange)
    (htasks : ∃ others, g'.queue.tasks =
      g.queue.tasks ++ (c.demand.toList.map Task.demand ++ others))
    (hsize : g'.size = g.size) (hfailed : e ≠ c.exchange → g'.failed e = g.failed e)
    (hlosses : g'.losses = g.losses) : g'.Awaits b e ∨ g'.Forsaken b e := by
  obtain ⟨others, htasks⟩ := htasks
  refine h.imp (fun hawaits => ?_) fun hforsaken => ?_
  · refine hawaits.mono (htasks ▸ List.subset_append_left _ _) fun c₀ hc₀ _ hdemand => .inr ?_
    cases hc.symm.trans hc₀
    refine ⟨.demand (.wakeBody b), ?_, rfl⟩
    rw [htasks, hdemand]
    exact List.mem_append_right _ List.mem_cons_self
  · have hother := hforsaken.detached c hc
    refine hforsaken.mono (Nat.le_of_eq hsize.symm) (fun c₀ hc₀ => ?_) (hfailed (Ne.symm hother))
      (hlosses ▸ List.Subset.refl _)
    cases hc'.symm.trans hc₀
    exact hexchange ▸ hother

/-- A demand is registered where there was none. -/
theorem keep_register (h : g.Awaits b e ∨ g.Forsaken b e) {c : Running κ}
    (hc : g.current = some c) (hdemand : c.demand = none) (job : Job κ)
    (bodies : Array (RequestBody κ)) :
    Awaits { g with current := some { c with demand := some job }, bodies } b e ∨
      Forsaken { g with current := some { c with demand := some job }, bodies } b e := by
  refine h.imp (fun hawaits => ?_) fun hforsaken => ?_
  · refine hawaits.mono (List.Subset.refl _) fun c₀ hc₀ _ hsome => ?_
    cases hc.symm.trans hc₀
    cases hdemand.symm.trans hsome
  · refine hforsaken.mono (Nat.le_refl _) ?_ rfl (List.Subset.refl _)
    rintro _ ⟨⟩
    exact hforsaken.detached c hc

/-- A task is taken that does not wake the body. -/
theorem keep_take (h : g.Awaits b e ∨ g.Forsaken b e) {task : Task κ} {rest : List (Task κ)}
    (htasks : g.queue.tasks = task :: rest) (hjob : task.job ≠ .wakeBody b)
    (bodies : Array (RequestBody κ)) :
    Awaits { g.leave rest with bodies } b e ∨ Forsaken { g.leave rest with bodies } b e := by
  refine h.imp (fun hawaits => ?_) fun hforsaken => ?_
  · rcases hawaits with hregistered | ⟨waiting, hwaiting, hwakes⟩
    · exact .inl hregistered
    · rw [htasks] at hwaiting
      rcases List.mem_cons.1 hwaiting with rfl | hrest
      · exact absurd hwakes hjob
      · exact .inr ⟨waiting, hrest, hwakes⟩
  · exact hforsaken.mono (Nat.le_refl _) hforsaken.detached rfl (List.Subset.refl _)

/-- The active exchange is detached. Its demand, if it had any, is lost. -/
theorem keep_detach (h : g.Awaits b e ∨ g.Forsaken b e) (hg : g.Proper) {c : Running κ}
    (hc : g.current = some c) {losses : List (Loss κ)}
    (hlost : ∀ job, c.demand = some job → ∃ cause, ⟨.demand job, c.exchange, cause⟩ ∈ losses)
    (phase : ExchangeRef → Phase) :
    Awaits { g.detach losses with phase } b e ∨ Forsaken { g.detach losses with phase } b e := by
  rcases h with (⟨c₀, hc₀, rfl, hdemand⟩ | hqueued) | hforsaken
  · cases hc.symm.trans hc₀
    obtain ⟨cause, hmem⟩ := hlost _ hdemand
    refine .inr ⟨hg.index_lt hc, nofun, ?_, cause, List.mem_append_left _ hmem⟩
    exact (hg.failed_eq c hc).trans (hg.unfailed_of_demand c hc (by rw [hdemand]; rfl))
  · exact .inl (.inr hqueued)
  · exact .inr (hforsaken.mono (Nat.le_refl _) nofun rfl (List.subset_append_right _ _))

/-- Whoever waits goes on to wait, is woken or is forsaken. -/
theorem Shift.keep (hs : g.Shift g') (hg : g.Proper) (h : g.Awaits b e ∨ g.Forsaken b e) :
    (g'.Awaits b e ∨ g'.Forsaken b e) ∨
      ∃ rest, g' = (g.leave rest).modifyBody b RequestBody.answered := by
  cases hs with
  | attach | enable | settle | newBody | touchBody =>
    exact .inl (Glance.keep h rfl (List.Subset.refl _) rfl rfl rfl)
  | offer | demandForBodyNow =>
    exact .inl (Glance.keep h rfl (Queue.subset_offer _ _) rfl rfl rfl)
  | rest htasks =>
    refine .inl (Glance.keep h rfl ?_ rfl rfl rfl)
    rw [htasks]
    exact List.nil_subset _
  | activate _ hnone =>
    refine .inl (h.imp (fun hawaits => ?_) fun hforsaken => ?_)
    · refine hawaits.mono (List.Subset.refl _) fun c hc => ?_
      rw [hnone] at hc
      cases hc
    · refine hforsaken.mono (Nat.le_succ _) ?_ rfl (List.Subset.refl _)
      rintro _ ⟨⟩ rfl
      exact Nat.lt_irrefl _ hforsaken.exists_before
  | contentAvailable hc =>
    refine .inl (keep_serve h hc rfl rfl ⟨[], ?_⟩ rfl (fun _ => rfl) rfl)
    rw [List.append_nil]
    exact Queue.tasks_offer _ _
  | storeFailure phase others hc =>
    exact .inl (keep_serve h hc rfl rfl ⟨others, Queue.tasks_offer _ _⟩ rfl
      (fun hne => Function.update_of_ne hne _ _) rfl)
  | demand job hc _ hdemand => exact .inl (keep_register h hc hdemand job _)
  | demandForBody b' _ hc _ _ hdemand => exact .inl (keep_register h hc hdemand (.wakeBody b') _)
  | take htasks hother => exact .inl (keep_take h htasks (hother b) _)
  | @wake task rest b' htasks hjob =>
    by_cases hb : b' = b
    · exact .inr ⟨rest, by rw [hb]⟩
    · refine .inl (keep_take h htasks ?_ _)
      rw [hjob]
      exact fun heq => hb (Job.wakeBody.inj heq)
  | succeed hc hdemand =>
    refine .inl (keep_detach h hg hc (fun job hjob => ?_) _)
    cases hdemand.symm.trans hjob
  | fail cause hc hlost =>
    exact .inl (keep_detach h hg hc (fun job hjob => ⟨cause, hlost job hjob⟩) _)
  | failAwaited cause p hc hlost =>
    exact .inl (keep_detach h hg hc (fun job hjob => ⟨cause, hlost job hjob⟩) _)

/-- A body after one of the bodies was changed. -/
theorem getElem?_modifyBody {b' : BodyRef} {f : RequestBody κ → RequestBody κ}
    {body : RequestBody κ} (hbody : (g.modifyBody b' f).bodies[b.index]? = some body) :
    ∃ before, g.bodies[b.index]? = some before ∧
      (b' = b ∧ body = f before ∨ b' ≠ b ∧ body = before) := by
  have hmodify : (if b'.index = b.index then (g.bodies[b.index]?).map f else g.bodies[b.index]?) =
      some body := Array.getElem?_modify.symm.trans hbody
  by_cases hb : b'.index = b.index
  · rw [if_pos hb] at hmodify
    obtain ⟨before, hbefore, rfl⟩ := Option.map_eq_some_iff.1 hmodify
    have hsame : b' = b := by
      cases b'
      cases b
      exact congrArg BodyRef.mk hb
    exact ⟨before, hbefore, .inl ⟨hsame, rfl⟩⟩
  · rw [if_neg hb] at hmodify
    exact ⟨body, hmodify, .inr ⟨fun hsame => hb (congrArg BodyRef.index hsame), rfl⟩⟩

/-- A body in flight was so before, or has just set out to demand content. -/
theorem Shift.inFlight (hs : g.Shift g') {body : RequestBody κ}
    (hbody : g'.bodies[b.index]? = some body) (hflight : body.inFlight = true) :
    (∃ before, g.bodies[b.index]? = some before ∧ before.inFlight = true ∧
      before.exchange = body.exchange) ∨ g'.Awaits b body.exchange := by
  cases hs with
  | attach | activate | contentAvailable | storeFailure | offer | enable | demand | rest | take
  | succeed | fail | failAwaited | settle => exact .inl ⟨body, hbody, hflight, rfl⟩
  | newBody e =>
    have hpush := Array.getElem?_push.symm.trans hbody
    split at hpush
    · cases hpush
      cases hflight
    · exact .inl ⟨body, hpush, hflight, rfl⟩
  | touchBody b' hf =>
    obtain ⟨before, hbefore, ⟨-, rfl⟩ | ⟨-, rfl⟩⟩ := getElem?_modifyBody hbody
    · exact .inl ⟨before, hbefore, hf.inFlight before hflight, (hf.exchange before).symm⟩
    · exact .inl ⟨body, hbefore, hflight, rfl⟩
  | demandForBody b' hset hc hexchange =>
    obtain ⟨before, hbefore, ⟨rfl, rfl⟩ | ⟨-, rfl⟩⟩ := getElem?_modifyBody hbody
    · cases hset.symm.trans hbefore
      exact .inr (.inl ⟨_, rfl, hexchange, rfl⟩)
    · exact .inl ⟨body, hbefore, hflight, rfl⟩
  | demandForBodyNow b' =>
    obtain ⟨before, hbefore, ⟨rfl, rfl⟩ | ⟨-, rfl⟩⟩ := getElem?_modifyBody hbody
    · refine .inr (.inr ⟨.demand (.wakeBody b'), ?_, rfl⟩)
      exact (Queue.tasks_offer g.queue _).symm ▸ List.mem_append_right _ (List.mem_singleton.2 rfl)
    · exact .inl ⟨body, hbefore, hflight, rfl⟩
  | wake htasks hjob =>
    obtain ⟨before, hbefore, ⟨-, rfl⟩ | ⟨-, rfl⟩⟩ := getElem?_modifyBody hbody
    · cases hflight
    · exact .inl ⟨body, hbefore, hflight, rfl⟩

/-- Every body in flight is to be woken, or forsaken. -/
theorem Shift.attended (hs : g.Shift g') (hg : g.Proper) (h : g.Attended) : g'.Attended := by
  intro b body hbody hflight
  rcases hs.inFlight hbody hflight with ⟨before, hbefore, hwas, hexchange⟩ | hawaits
  · rw [← hexchange]
    rcases hs.keep hg (h b before hbefore hwas) with hkept | ⟨rest, rfl⟩
    · exact hkept
    · -- the body was just woken
      obtain ⟨_, _, ⟨-, rfl⟩ | ⟨hne, -⟩⟩ := getElem?_modifyBody hbody
      · cases hflight
      · exact absurd rfl hne
  · exact .inl hawaits

end Glance

/-! ## Demands of bodies in reachable states -/

namespace World

variable {A : ExchangeRef → Prop} {w w' : World κ ε} {b : BodyRef} {e : ExchangeRef}

/-- The demand of a body is registered with its exchange, which is active. -/
def Demanded (w : World κ ε) (b : BodyRef) (e : ExchangeRef) : Prop :=
  ∃ a, w.activeFor? e = some a ∧ a.demand = some (.wakeBody b)

/-- The demand of a body is registered with its exchange, its task is in the queue of the channel,
or the task was taken from the queue and is about to be done. -/
def Awaits (w : World κ ε) (b : BodyRef) (e : ExchangeRef) : Prop :=
  w.Demanded b e ∨
  (∃ task ∈ w.channelQueue.tasks, task.job = .wakeBody b) ∨
  ∃ task, w.deeds.head? = some (.started .channel task) ∧ task.job = .wakeBody b

/-- The demand of a body was dropped with its exchange, which was failed by a call and not by the
connection. -/
structure Forsaken (w : World κ ε) (b : BodyRef) (e : ExchangeRef) : Prop where
  unfailed : (w.exchange e).failure = none
  detached : w.activeFor? e = none
  dropped : ∃ stream cause, .ended e stream (some cause) ∈ w.deeds ∧
    .dropped (.demand (.wakeBody b)) e (some cause) ∈ w.ledger

/-- Nobody brings a demand back that was dropped. -/
theorem Forsaken.later (h : w.Forsaken b e) (hw : w.Possible) (hlt : e.index < w.exchanges.size)
    (hc : Course A w w') : w'.Forsaken b e := by
  have hended : ∀ {w₁ : World κ ε}, Course A w w₁ → w₁.activeFor? e = none :=
    fun hc => Course.activeFor?_eq_none hc hw.sound hlt h.detached
  have hunfailed : (w'.exchange e).failure = none := by
    induction hc with
    | refl => exact h.unfailed
    | tail hc hstep ih => exact hstep.failure_eq_none (hw.course hc) (hended hc) ih
  obtain ⟨stream, cause, hdetached, hdropped⟩ := h.dropped
  exact ⟨hunfailed, hended hc, stream, cause, (Course.deeds_suffix hc).subset hdetached,
    (Course.ledger_suffix hc).subset hdropped⟩

theorem demanded_or_queued (h : w.glance.Awaits b e) :
    w.Demanded b e ∨ ∃ task ∈ w.channelQueue.tasks, task.job = .wakeBody b := by
  rcases h with ⟨c, hc, hexchange, hdemand⟩ | hqueued
  · obtain ⟨a, ha, rfl⟩ := Option.map_eq_some_iff.1 hc
    exact .inl ⟨a, (activeFor?_eq_some w).2 ⟨ha, hexchange⟩, hdemand⟩
  · exact .inr hqueued

theorem Awaits.of_glance (h : w.glance.Awaits b e) : w.Awaits b e :=
  (demanded_or_queued h).imp_right .inl

theorem Forsaken.of_glance (h : w.glance.Forsaken b e) (hw : w.Possible) : w.Forsaken b e := by
  obtain ⟨cause, hmem⟩ := h.lost
  have hdropped := loss_of_mem hmem
  obtain ⟨⟨stream, hended⟩, -⟩ := hw.dropped hdropped
  refine ⟨?_, ?_, stream, cause, hended, hdropped⟩
  · simpa [glance] using h.unfailed
  · refine Option.eq_none_iff_forall_ne_some.2 fun a ha => ?_
    obtain ⟨hactive, hexchange⟩ := (activeFor?_eq_some w).1 ha
    exact h.detached _ (w.current_glance hactive) hexchange

/-- An exchange that waits for content has not failed. -/
theorem Possible.failure_eq_none_of_demand (hw : w.Possible) {a : Active κ}
    (ha : w.activeFor? e = some a) {job : Job κ} (hdemand : a.demand = some job) :
    (w.exchange e).failure = none := by
  have hwaits : a.demand.isSome = true := by
    rw [hdemand]
    rfl
  exact (hw.failure_eq ha).trans ((hw.active_consistent ha).demand hwaits).2

/-- A call that fails an exchange whose demand is that of a body forsakes the body, whatever is
called meanwhile. -/
theorem Forsaken.of_fail {host : Host κ ε} (hh : host.Lawful) (hw : w.Possible) {a : Active κ}
    (ha : w.activeFor? e = some a) (hdemand : a.demand = some (.wakeBody b)) (cause : FailureRef) :
    (e.fail host cause w).2.Forsaken b e := by
  have hstep : Step (fun _ => True) w (w.detach e (some cause)) := .fail cause ha
  have hforsaken : (w.detach e (some cause)).Forsaken b e := by
    refine ⟨hw.failure_eq_none_of_demand ha hdemand, rfl, w.channel.stream, cause,
      List.mem_cons_self, ?_⟩
    obtain ⟨hactive, -⟩ := (activeFor?_eq_some w).1 ha
    have hwaits : .demand (.wakeBody b) ∈ w.registered := by
      simp [registered, hactive, Active.waiters, hdemand]
    exact List.mem_append_left _ (List.mem_map.2 ⟨_, hwaits, rfl⟩)
  exact hforsaken.later (hw.course (.single hstep)) (hw.sound.index_lt_of_active ha)
    (ExchangeRef.course_fail hh hw.sound ha cause)

end World

open World

/-- Every body in flight is to be woken or forsaken, unless the state is one between taking a task
and doing it. -/
theorem Reachable.attended {w : World κ ε} (hw : Reachable w) :
    w.glance.Attended ∨ ∃ g : Glance κ, g.Attended ∧ g.Proper ∧ g.CutOff w :=
  hw.glance_induct (fun _ _ hbody => absurd hbody (by simp [Glance.blank]))
    fun _ _ hg h hshift => hshift.attended hg h

/-- The demand of a body in flight is to come, or was dropped. -/
theorem Reachable.awaits_or_forsaken {w : World κ ε} (hw : Reachable w) {b : BodyRef}
    {body : RequestBody κ} (hbody : w.bodies[b.index]? = some body)
    (hflight : body.inFlight = true) :
    w.Awaits b body.exchange ∨ w.Forsaken b body.exchange := by
  rcases hw.attended with h | ⟨g, h, -, hcut⟩
  · exact (h b body hbody hflight).imp .of_glance fun hforsaken => .of_glance hforsaken hw.possible
  · -- a task was taken and not done, so the demand may be that task
    obtain ⟨task, b', htasks, hjob, hstarted⟩ := hcut.taken
    have hbodies : w.bodies = g.bodies := congrArg Glance.bodies hcut.same
    rcases h b body (hbodies ▸ hbody) hflight with (hregistered | ⟨waiting, hwaiting, hwakes⟩) |
      hforsaken
    · have hseen : w.glance.Awaits b body.exchange := by
        rw [hcut.same]
        exact .inl hregistered
      exact .inl (.of_glance hseen)
    · rw [htasks] at hwaiting
      rcases List.mem_cons.1 hwaiting with rfl | hwaiting
      · exact .inl (.inr (.inr ⟨waiting, hstarted, hwakes⟩))
      · exact .inl (.inr (.inl ⟨waiting, hwaiting, hwakes⟩))
    · have hseen : w.glance.Forsaken b body.exchange := by
        rw [hcut.same]
        exact hforsaken.mono (Nat.le_refl _) hforsaken.detached rfl (List.Subset.refl _)
      exact .inr (.of_glance hseen hw.possible)

/-- Once the queue of the channel was worked off, the demand of a body in flight is registered, or
was dropped. -/
theorem Reachable.demanded_or_forsaken {w : World κ ε} (hw : Reachable w)
    (hidle : w.channelQueue.draining = false) {b : BodyRef} {body : RequestBody κ}
    (hbody : w.bodies[b.index]? = some body) (hflight : body.inFlight = true) :
    w.Demanded b body.exchange ∨ w.Forsaken b body.exchange := by
  rcases hw.attended with h | ⟨g, -, hg, hcut⟩
  · rcases h b body hbody hflight with hawaits | hforsaken
    · refine .inl ((demanded_or_queued hawaits).resolve_right ?_)
      rintro ⟨task, htask, -⟩
      rw [hw.possible.queue_settled hidle] at htask
      cases htask
    · exact .inr (.of_glance hforsaken hw.possible)
  · rw [hcut.draining hg] at hidle
    cases hidle

namespace World

variable {w : World κ ε} {b : BodyRef} {e : ExchangeRef}

/-- An exchange with a demand of a body was not failed by the connection, and did not succeed. -/
theorem Demanded.going (h : w.Demanded b e) (hw : w.Possible) :
    (w.exchange e).failure = none ∧ ∀ stream, .ended e stream none ∉ w.deeds := by
  obtain ⟨a, ha, hdemand⟩ := h
  refine ⟨hw.failure_eq_none_of_demand ha hdemand, fun stream hmem => ?_⟩
  exact (hw.orderly e).not_ended_of_active ha stream none ((mem_history w).2 ⟨hmem, rfl⟩)

/-- The exchange of a forsaken body was not failed by the connection, and did not succeed. -/
theorem Forsaken.unsuccessful (h : w.Forsaken b e) (hw : w.Possible) :
    (w.exchange e).failure = none ∧ ∀ stream, .ended e stream none ∉ w.deeds := by
  obtain ⟨stream, cause, hended, -⟩ := h.dropped
  refine ⟨h.unfailed, fun stream' hmem => ?_⟩
  have honce := (hw.orderly e).once _ _ _ _ ((mem_history w).2 ⟨hended, rfl⟩)
    ((mem_history w).2 ⟨hmem, rfl⟩)
  cases honce.2

end World

/-- **Wake-ups of request bodies.** A body in flight is to be woken, or it was forsaken: its
exchange was failed by a call while the demand was registered, with no failure of the connection
before. Once the queue is worked off its demand is registered, or it was forsaken, so no body of an
exchange that the connection failed, or that succeeded, is left in flight. But a call that fails an
exchange always forsakes the body whose demand it has, and nothing that runs later makes up for
it. -/
theorem woken_unless_forsaken {w : World κ ε} (hw : Reachable w) {b : BodyRef}
    {body : RequestBody κ} (hbody : w.bodies[b.index]? = some body)
    (hflight : body.inFlight = true) :
    (w.Awaits b body.exchange ∨ w.Forsaken b body.exchange) ∧
    (w.channelQueue.draining = false →
      (w.Demanded b body.exchange ∨ w.Forsaken b body.exchange) ∧
      (w.exchange body.exchange).failure = none ∧
      ∀ stream, .ended body.exchange stream none ∉ w.deeds) ∧
    (w.Demanded b body.exchange → ∀ depth host cause, Surroundings depth host →
      ∀ (β : Type) (m : Engine κ ε β), Permitted m →
        (m (body.exchange.fail host cause w).2).2.Forsaken b body.exchange) := by
  have hpossible := hw.possible
  refine ⟨hw.awaits_or_forsaken hbody hflight, fun hidle => ?_, ?_⟩
  · have hwhere := hw.demanded_or_forsaken hidle hbody hflight
    refine ⟨hwhere, ?_⟩
    rcases hwhere with hdemanded | hforsaken
    · exact hdemanded.going hpossible
    · exact hforsaken.unsuccessful hpossible
  · rintro ⟨a, ha, hdemand⟩ depth host cause hh β m hm
    have hcourse := ExchangeRef.runs_fail hh.lawful body.exchange cause w hpossible.sound
    have hlater := hpossible.course hcourse
    have hforsaken := Forsaken.of_fail hh.lawful hpossible ha hdemand cause
    refine hforsaken.later hlater ?_ (hm.runs _ hlater.sound)
    obtain ⟨stream, cause', hended, -⟩ := hforsaken.dropped
    exact hlater.sound.index_lt_of_mem ((mem_history _).2 ⟨hended, rfl⟩)

/-- A request arrives and is handled, and its body is polled before there is any content. -/
def polledBody : Engine Nat Unit Unit := do
  let _ ← Engine.newFailure (.transport "lost")
  let _ ← Channel.setStream (.transport ⟨0⟩)
  let _ ← Channel.onRequest (Host.idle 2) .bare
  Job.perform (Host.idle 2) (.dispatch ⟨0⟩)
  let body ← BodyRef.new ⟨0⟩
  let _ ← BodyRef.poll (Host.idle 2) body 7

theorem permitted_polledBody : Permitted polledBody := by
  have hidle : ∃ depth, Surroundings depth (Host.idle 2 : Host Nat Unit) :=
    ⟨2, surroundings_idle 2⟩
  exact .bind (.newFailure _) fun _ => .bind (.setStream _) fun _ =>
    .bind (.onRequest _ hidle) fun _ => .bind (.perform _ hidle) fun _ =>
    .bind (.newBody _) fun _ => .bind (.pollBody _ _ hidle) fun _ => .pure ()

/-- The exchange is failed by a call while the body waits. The body stays in flight with its waker,
and there is no task left that would wake it. -/
theorem woken_unless_forsaken_polledBody :
    (World.afterNumbered polledBody).Awaits ⟨0⟩ ⟨0⟩ ∧
    ∃ w', ExchangeRef.fail (Host.idle 2) ⟨0⟩ ⟨0⟩ (World.afterNumbered polledBody) = (.done (), w') ∧
      (w'.bodies[0]?).map (fun x => (x.inFlight, x.waker)) = some (true, some 7) ∧
      w'.channelQueue.tasks = [] ∧
      ∀ (β : Type) (m : Engine Nat Unit β), Permitted m → (m w').2.Forsaken ⟨0⟩ ⟨0⟩ := by
  have hpolled : ((World.afterNumbered polledBody).bodies[0]?).map
      (fun x => (x.exchange, x.inFlight)) = some (⟨0⟩, true) := by decide +kernel
  have hregistered : ((World.afterNumbered polledBody).activeFor? ⟨0⟩).bind (·.demand) =
      some (.wakeBody ⟨0⟩) := by decide +kernel
  have hdone : (ExchangeRef.fail (Host.idle 2) ⟨0⟩ ⟨0⟩ (World.afterNumbered polledBody)).1 =
      .done () := by decide +kernel
  have hbodies : ((ExchangeRef.fail (Host.idle 2) ⟨0⟩ ⟨0⟩
      (World.afterNumbered polledBody)).2.bodies[0]?).map (fun x => (x.inFlight, x.waker)) =
      some (true, some 7) := by decide +kernel
  have hqueue : (ExchangeRef.fail (Host.idle 2) ⟨0⟩ ⟨0⟩
      (World.afterNumbered polledBody)).2.channelQueue.tasks = [] := by decide +kernel
  obtain ⟨body, hbody, hflags⟩ := Option.map_eq_some_iff.1 hpolled
  obtain ⟨hexchange, hflight⟩ := Prod.mk.inj hflags
  obtain ⟨a, ha, hdemand⟩ := Option.bind_eq_some_iff.1 hregistered
  have hwoken := woken_unless_forsaken permitted_polledBody.reachable_numbered
    (b := ⟨0⟩) hbody hflight
  rw [hexchange] at hwoken
  have hlater := hwoken.2.2 ⟨a, ha, hdemand⟩ 2 (Host.idle 2) ⟨0⟩ (surroundings_idle 2)
  refine ⟨hwoken.1.resolve_right fun hforsaken => ?_, ?_⟩
  · cases hforsaken.detached.symm.trans ha
  · rcases hrun : ExchangeRef.fail (Host.idle 2) ⟨0⟩ ⟨0⟩ (World.afterNumbered polledBody) with
      ⟨ended, w'⟩
    rw [hrun] at hdone hbodies hqueue hlater
    subst hdone
    exact ⟨w', rfl, hbodies, hqueue, hlater⟩

end HttpExchange
