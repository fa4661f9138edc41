import HttpExchange.Proofs.Attribution
import HttpExchange.Proofs.ShiftingRuns

/-!
# The life of an exchange

An exchange is created, is processed, completes and is over, in this order, and may leave out the
second. `phase_follows` says how this follows the channel: one exchange is active at a time, the
newest; its phase says whether the application may use it; once it is detached its phase says that
it completes or is over, and when the call that ended it comes to its end the exchange is over. No
phase comes back, and no exchange does.

Two things are at work. What a single exchange can go through is an invariant of its moves
(`Record.Phased`). That the phase follows at once when an exchange is detached is seen at a glance
(`Glance.Followed`): nobody is called in between, but for those who wait for the promise of a write
that the call drops. It holds the channel meanwhile (`World.Abandoning`).
-/

namespace HttpExchange

variable {κ ε : Type}

/-! ## Phases in their order -/

/-- How far an exchange has come. -/
def Phase.rank : Phase → Nat
  | created => 0
  | processing => 1
  | completing => 2
  | terminal => 3

theorem Phase.eq_terminal_of_three_le {phase : Phase} (h : 3 ≤ phase.rank) :
    phase = .terminal := by
  cases phase with
  | terminal => rfl
  | created | processing | completing =>
    simp only [rank] at h
    omega

/-! ## The phases of one exchange -/

namespace Record

variable {e : ExchangeRef} {closing : Prop} {ρ ρ' : Record κ}

/-- How the phase of an exchange follows what was done for it. -/
structure Phased (e : ExchangeRef) (ρ : Record κ) : Prop where
  running : ∀ a, ρ.active = some a →
    ρ.state.phase = if a.processing then .processing else .created
  unborn : ρ.history = [] → ρ.active = none → ρ.state.phase = .created
  /-- Nothing is done about the end of an exchange before it completes. -/
  early : ρ.active = none → ρ.history ≠ [] → ¬ρ.state.phase.Late →
    ∃ stream cause, ρ.Ending e stream cause
  closed : ρ.state.phase = .terminal → ∃ d ∈ ρ.history, d.closes = true
  concluded : .concluded e ∈ ρ.history → ρ.state.phase = .terminal

/-- What becomes of the phase in a move. -/
inductive PhaseMove (e : ExchangeRef) (ρ ρ' : Record κ) : Prop
  | same : ρ'.state.phase = ρ.state.phase → ρ.history ⊆ ρ'.history →
      (.concluded e ∈ ρ'.history → .concluded e ∈ ρ.history) → PhaseMove e ρ ρ'
  | create : ρ.active = none → ρ.history = [] → ρ'.state.phase = .created → ρ'.history = [] →
      PhaseMove e ρ ρ'
  | process : ρ.active.isSome = true → ρ'.state.phase = .processing → ρ'.history = ρ.history →
      PhaseMove e ρ ρ'
  | complete {stream : Option Stream} {cause : Option FailureRef} : ρ.Ending e stream cause →
      ρ'.state.phase = .completing → ρ'.history = ρ.history → PhaseMove e ρ ρ'
  | conclude {d : Deed κ} : ρ.state.phase = .completing → ρ'.state.phase = .terminal →
      d ∈ ρ'.history → d.closes = true → PhaseMove e ρ ρ'

theorem Move.phaseMove (h : ρ.Move e closing ρ') : ρ.PhaseMove e ρ' := by
  have hcons : ∀ d, ρ'.history = d :: ρ.history → ρ'.state.phase = ρ.state.phase →
      d ≠ .concluded e → ρ.PhaseMove e ρ' := by
    intro d hhistory hphase hd
    refine .same hphase (hhistory ▸ List.subset_cons_self _ _) fun hmem => ?_
    rw [hhistory] at hmem
    exact (List.mem_cons.1 hmem).resolve_left (Ne.symm hd)
  cases h with
  | stay | contentAvailable | demand | listenForError | stick | stickFinal | stickError =>
    exact .same rfl (List.Subset.refl _) id
  | edit hedit => exact .same (by rw [hedit.same]) (List.Subset.refl _) id
  | create _ _ _ ha hh => exact .create ha hh rfl rfl
  | @storeFailure a _ ha =>
    by_cases hp : a.processing = true
    · exact .same (if_pos hp) (List.Subset.refl _) id
    · exact .process (by rw [ha]; rfl) (if_neg hp) rfl
  | enable ha => exact .process (by rw [ha]; rfl) rfl rfl
  | send | withhold | answer | succeed | fail | tellSuccess | sendFinal | tellFailure | sendError =>
    exact hcons _ rfl rfl nofun
  | @answerFinal s stream cause result =>
    have hne : .concluded e ≠ finalOutcome (κ := κ) e stream cause result := by
      cases cause <;> cases result <;> exact nofun
    refine .same rfl (fun _ hd => List.mem_cons_of_mem _ (List.mem_cons_of_mem _ hd)) fun hmem => ?_
    rcases List.mem_cons.1 hmem with heq | hmem
    · exact absurd heq hne
    · exact (List.mem_cons.1 hmem).resolve_left nofun
  | mismatch =>
    refine .same rfl (fun _ hd => List.mem_cons_of_mem _ (List.mem_cons_of_mem _ hd)) fun hmem => ?_
    exact (List.mem_cons.1 ((List.mem_cons.1 hmem).resolve_left nofun)).resolve_left nofun
  | complete _ hend | recycle _ _ _ hend => exact .complete hend rfl rfl
  | conclude _ _ hphase hmem hcl =>
    exact .conclude hphase rfl (List.mem_cons_of_mem _ hmem) hcl

/-- Nothing goes back. -/
theorem PhaseMove.rank_le (h : ρ.PhaseMove e ρ') (hρ : ρ.Phased e) :
    ρ.state.phase.rank ≤ ρ'.state.phase.rank := by
  cases h with
  | same hphase => rw [hphase]
  | create ha hh hphase => rw [hρ.unborn hh ha, hphase]
  | process ha hphase =>
    obtain ⟨a, ha⟩ := Option.isSome_iff_exists.1 ha
    rw [hρ.running a ha, hphase]
    cases a.processing <;> decide
  | complete hend hphase =>
    rw [hphase]
    cases hbefore : ρ.state.phase with
    | created | processing | completing => decide
    | terminal =>
      -- the end of an exchange that is over was handed to its stream
      obtain ⟨d, hd, hcl⟩ := hρ.closed hbefore
      rw [hend.unclosed d hd] at hcl
      cases hcl
  | conclude hbefore hphase =>
    rw [hbefore, hphase]
    decide

/-- An exchange that is active keeps to its flag. -/
theorem Move.phased_running (h : ρ.Move e closing ρ') (hρ : ρ.Phased e) {a' : Active κ}
    (ha' : ρ'.active = some a') :
    ρ'.state.phase = if a'.processing then .processing else .created := by
  cases h with
  | stay => exact hρ.running a' ha'
  | edit hedit =>
    rw [hedit.same]
    exact hρ.running a' ha'
  | create =>
    cases ha'
    rfl
  | contentAvailable ha | demand _ ha | listenForError _ ha | send _ _ ha | withhold ha
  | stick _ ha =>
    have hphase := hρ.running _ ha
    cases ha'
    exact hphase
  | @storeFailure a _ ha =>
    cases ha'
    have hphase := hρ.running a ha
    cases hp : a.processing <;> simp [hp, hphase]
  | enable =>
    cases ha'
    rfl
  | answer =>
    obtain ⟨a, ha, rfl⟩ := Option.map_eq_some_iff.1 ha'
    exact hρ.running a ha
  | answerFinal => exact hρ.running a' ha'
  | succeed | fail | mismatch | tellSuccess | sendFinal | sendError => cases ha'
  | complete _ hend | recycle _ _ _ hend | stickFinal _ hend | tellFailure _ _ hend
  | stickError _ _ _ hend => cases hend.detached.symm.trans ha'
  | conclude _ hnone => cases hnone.symm.trans ha'

/-- Before an exchange completes, the call that ended it does nothing else about it. -/
theorem Move.rest_of_early (h : ρ.Move e closing ρ') (ha : ρ.active = none) (hh : ρ.history ≠ [])
    (hearly : ¬ρ'.state.phase.Late) : Rest ρ ρ' := by
  cases h with
  | stay => exact .of_state ha rfl rfl
  | edit hedit => exact .of_state ha (by rw [hedit.same]) (by rw [hedit.same])
  | create _ _ _ _ hnil => exact absurd hnil hh
  | contentAvailable h | storeFailure _ h | enable h | demand _ h | listenForError _ h
  | send _ _ h | withhold h | stick _ h | succeed _ h | fail _ _ h => cases ha.symm.trans h
  | answer result hmem hun hcb => exact Move.rest (.answer result hmem hun hcb) ha hh
  | answerFinal result hmem hun hcb => exact Move.rest (.answerFinal result hmem hun hcb) ha hh
  | complete | recycle => exact absurd (.inl rfl) hearly
  | mismatch _ _ _ hphase | tellSuccess _ _ hphase | sendFinal _ _ hphase | stickFinal _ _ hphase
  | tellFailure _ _ _ hphase | sendError _ _ _ _ hphase | stickError _ _ _ _ hphase =>
    exact absurd (.inl hphase) hearly
  | conclude => exact absurd (.inr rfl) hearly

/-- Right after an exchange was detached nothing was done for it. -/
theorem Unended.ending (hu : ρ.Unended e) {a : Active κ} (ha : ρ.active = some a)
    (stream : Option Stream) (cause : Option FailureRef)
    (hsuccess : cause = none → a.write = none ∧ a.error = none) :
    (⟨ρ.state, none, .ended e stream cause :: ρ.history⟩ : Record κ).Ending e stream cause := by
  refine ⟨rfl, ⟨[], _, rfl, fun _ hd => nomatch hd⟩, fun d hd => ?_, fun hnone hcommitted => ?_⟩
  · rcases List.mem_cons.1 hd with rfl | hd
    · rfl
    · exact (hu.going (by rw [ha]; rfl) d hd).1
  · obtain ⟨hwrite, herror⟩ := hsuccess hnone
    exact (hu.used a ha hwrite herror hcommitted).mono (List.subset_cons_self _ _)

/-- An exchange stops being active by being detached. -/
theorem Move.detached (h : ρ.Move e closing ρ') {a : Active κ} (ha : ρ.active = some a)
    (ha' : ρ'.active = none) : ∃ stream cause,
      ρ' = ⟨ρ.state, none, .ended e stream cause :: ρ.history⟩ ∧
        (cause = none → a.write = none ∧ a.error = none) := by
  cases h with
  | succeed stream hsome _ _ hwrite herror =>
    cases ha.symm.trans hsome
    exact ⟨stream, none, rfl, fun _ => ⟨hwrite, herror⟩⟩
  | fail stream cause => exact ⟨stream, some cause, rfl, nofun⟩
  | stay | edit | answerFinal => cases ha.symm.trans ha'
  | create _ _ _ hnone | conclude _ hnone => cases ha.symm.trans hnone
  | contentAvailable | storeFailure | enable | demand | listenForError | send | withhold
  | stick => cases ha'
  | answer => simp [ha] at ha'
  | complete _ hend | recycle _ _ _ hend | mismatch _ _ hend | tellSuccess _ hend
  | sendFinal _ hend | stickFinal _ hend | tellFailure _ _ hend | sendError _ _ _ hend
  | stickError _ _ _ hend => cases ha.symm.trans hend.detached

theorem Move.phased_early (h : ρ.Move e closing ρ') (hu : ρ.Unended e) (hρ : ρ.Phased e)
    (ha' : ρ'.active = none) (hh' : ρ'.history ≠ []) (hearly : ¬ρ'.state.phase.Late) :
    ∃ stream cause, ρ'.Ending e stream cause := by
  cases ha : ρ.active with
  | none =>
    have hh : ρ.history ≠ [] := fun hnil => hh' (h.history_eq_nil ha hnil)
    have hrest := h.rest_of_early ha hh hearly
    obtain ⟨stream, cause, hend⟩ := hρ.early ha hh (hrest.phase ▸ hearly)
    exact ⟨stream, cause, hrest.ending hend⟩
  | some a =>
    obtain ⟨stream, cause, rfl, hsuccess⟩ := h.detached ha ha'
    exact ⟨stream, cause, hu.ending ha stream cause hsuccess⟩

theorem Move.phased (h : ρ.Move e closing ρ') (hu : ρ.Unended e) (hρ : ρ.Phased e) :
    ρ'.Phased e where
  running _ := h.phased_running hρ
  unborn hnil ha' := by
    cases ha : ρ.active with
    | some a =>
      obtain ⟨stream, cause, rfl, -⟩ := h.detached ha ha'
      cases hnil
    | none =>
      cases h.phaseMove with
      | same hphase hsub =>
        have hold : ρ.history = [] := List.eq_nil_of_subset_nil (hnil ▸ hsub)
        exact hphase.trans (hρ.unborn hold ha)
      | create _ _ hphase => exact hphase
      | process hsome => cases ha ▸ hsome
      | complete hend _ hsame => exact absurd (hsame.symm.trans hnil) hend.history_ne_nil
      | conclude _ _ hmem =>
        rw [hnil] at hmem
        cases hmem
  early := h.phased_early hu hρ
  closed hterminal := by
    cases h.phaseMove with
    | same hphase hsub =>
      obtain ⟨d, hd, hcl⟩ := hρ.closed (hphase.symm.trans hterminal)
      exact ⟨d, hsub hd, hcl⟩
    | create _ _ hphase | process _ hphase | complete _ hphase => cases hphase.symm.trans hterminal
    | conclude _ _ hd hcl => exact ⟨_, hd, hcl⟩
  concluded hmem := by
    have hrank := h.phaseMove.rank_le hρ
    have hold : .concluded e ∈ ρ.history → ρ'.state.phase = .terminal := by
      intro hmem
      rw [hρ.concluded hmem] at hrank
      exact Phase.eq_terminal_of_three_le hrank
    cases h.phaseMove with
    | same _ _ hconcluded => exact hold (hconcluded hmem)
    | create _ _ _ hnil =>
      rw [hnil] at hmem
      cases hmem
    | process _ _ hsame | complete _ _ hsame => exact hold (hsame ▸ hmem)
    | conclude _ hphase => exact hphase

end Record

/-! ## Phases at a glance -/

namespace Glance

variable {g g' : Glance κ}

/-- An exchange that is not active completes or is over, unless somebody lost the promise of its
pending write. -/
def Followed (g : Glance κ) : Prop :=
  ∀ e : ExchangeRef, e.index < g.size → (∀ c, g.current = some c → c.exchange ≠ e) →
    (g.phase e).Late ∨ ∃ p cause, ⟨.write (.promise p), e, cause⟩ ∈ g.losses

/-- The same exchange stays active, and others change their phase only to complete. -/
theorem Followed.same (h : g.Followed) (hsize : g'.size = g.size)
    (hcurrent : ∀ c, g.current = some c → ∃ c', g'.current = some c' ∧ c'.exchange = c.exchange)
    (hphase : ∀ e, (∀ c, g.current = some c → c.exchange ≠ e) →
      g'.phase e = g.phase e ∨ (g'.phase e).Late)
    (hlosses : g'.losses = g.losses) : g'.Followed := by
  intro e hlt hother
  have hother' : ∀ c, g.current = some c → c.exchange ≠ e := by
    intro c hc
    obtain ⟨c', hc', hexchange⟩ := hcurrent c hc
    exact hexchange ▸ hother c' hc'
  rcases hphase e hother' with hphase | hlate
  · rw [hphase, hlosses]
    exact h e (hsize ▸ hlt) hother'
  · exact .inl hlate

/-- The active exchange is detached. -/
theorem Followed.ended (h : g.Followed) {c : Running κ} (hc : g.current = some c)
    (hsize : g'.size = g.size) (hphase : ∀ e, e ≠ c.exchange → g'.phase e = g.phase e)
    (hlosses : g.losses ⊆ g'.losses)
    (hown : (g'.phase c.exchange).Late ∨
      ∃ p cause, ⟨.write (.promise p), c.exchange, cause⟩ ∈ g'.losses) : g'.Followed := by
  intro e hlt _
  by_cases he : e = c.exchange
  · exact he ▸ hown
  · rw [hphase e he]
    refine (h e (hsize ▸ hlt) fun c' hc' => ?_).imp_right ?_
    · cases hc.symm.trans hc'
      exact Ne.symm he
    · exact fun ⟨p, cause, hmem⟩ => ⟨p, cause, hlosses hmem⟩

theorem Shift.followed (hs : g.Shift g') (h : g.Followed) : g'.Followed := by
  cases hs with
  | attach | offer | newBody | touchBody | demandForBodyNow | rest | take | wake =>
    exact h.same rfl (fun c hc => ⟨c, hc, rfl⟩) (fun _ _ => .inl rfl) rfl
  | activate _ hnone =>
    -- everything that there was before is detached
    intro e hlt hother
    have hne : e.index ≠ g.size := fun heq => hother _ rfl (by rw [← heq])
    refine h e (Nat.lt_of_le_of_ne (Nat.le_of_lt_succ hlt) hne) fun c hc => ?_
    rw [hnone] at hc
    cases hc
  | @contentAvailable c hc | @demand c _ hc | @demandForBody c _ _ _ hc =>
    refine h.same rfl (fun c' hc' => ?_) (fun _ _ => .inl rfl) rfl
    cases hc.symm.trans hc'
    exact ⟨_, rfl, rfl⟩
  | @storeFailure c phase _ hc =>
    refine h.same rfl (fun c' hc' => ?_) (fun e he => .inl ?_) rfl
    · cases hc.symm.trans hc'
      exact ⟨_, rfl, rfl⟩
    · exact Function.update_of_ne (Ne.symm (he c hc)) _ _
  | @enable c hc =>
    refine h.same rfl (fun c hc => ⟨c, hc, rfl⟩) (fun e he => .inl ?_) rfl
    exact Function.update_of_ne (Ne.symm (he c hc)) _ _
  | @succeed c hc =>
    refine h.ended hc rfl (fun e he => Function.update_of_ne he _ _) (fun _ hmem => hmem) ?_
    exact .inl (.inl (Function.update_self ..))
  | @fail c losses _ hc =>
    refine h.ended hc rfl (fun e he => Function.update_of_ne he _ _) ?_ ?_
    · exact fun _ hmem => List.mem_append_right _ hmem
    · exact .inl (.inl (Function.update_self ..))
  | @failAwaited c losses cause p hc _ hp =>
    refine h.ended hc rfl (fun _ _ => rfl) ?_ ?_
    · exact fun _ hmem => List.mem_append_right _ hmem
    · exact .inr ⟨p, cause, List.mem_append_left _ hp⟩
  | @settle e phase hlate =>
    refine h.same rfl (fun c hc => ⟨c, hc, rfl⟩) (fun e' _ => ?_) rfl
    by_cases he : e' = e
    · subst he
      refine .inr ?_
      show (Function.update g.phase e' phase e').Late
      rw [Function.update_self]
      exact hlate
    · exact .inl (Function.update_of_ne he _ _)

end Glance

/-! ## The channel and its exchanges -/

namespace World

open Record

variable {A : ExchangeRef → Prop} {w w' : World κ ε} {e : ExchangeRef}

/-- The call that fails the exchange has not got beyond dropping its pending write: whoever waits
for the promise of that is told that nothing will come, with the channel held. -/
def Abandoning (w : World κ ε) (e : ExchangeRef) : Prop :=
  ∃ stream cause p, (w.record e).Ending e stream (some cause) ∧
    .dropped (.write (.promise p)) e (some cause) ∈ w.ledger

/-- How the phases of the exchanges go with what the channel has. -/
structure Lifecycle (w : World κ ε) : Prop where
  single : ∀ e g, (w.activeFor? e).isSome = true → (w.activeFor? g).isSome = true → e = g
  newest : ∀ a, w.channel.active = some a → a.exchange.index + 1 = w.exchanges.size
  /-- The phase of an active exchange is that of its flag. -/
  running : ∀ e a, w.activeFor? e = some a →
    (w.exchange e).phase = if a.processing then .processing else .created
  ended : ∀ e : ExchangeRef, e.index < w.exchanges.size → w.activeFor? e = none →
    (w.exchange e).phase.Late ∨ w.Abandoning e

theorem Possible.phased (h : w.Possible) (e : ExchangeRef) : (w.record e).Phased e := by
  refine (h.record_induct (P := fun ρ => ρ.Unended e ∧ ρ.Phased e) e ?_ ?_).2
  · refine ⟨⟨nofun, nofun⟩, nofun, fun _ _ => rfl, fun _ hh => absurd rfl hh, nofun, nofun⟩
  · exact fun ρ ρ' ⟨hu, hρ⟩ hmove => ⟨hmove.unended hu, hmove.phased hu hρ⟩

/-- No phase comes back. -/
theorem Course.rank_le (hc : Course A w w') (h : w.Possible) (e : ExchangeRef) :
    (w.exchange e).phase.rank ≤ (w'.exchange e).phase.rank := by
  induction hc with
  | refl => exact Nat.le_refl _
  | tail hc hstep ih =>
    have hbefore := h.course hc
    exact Nat.le_trans ih
      ((hstep.move hbefore.sound e).phaseMove.rank_le (hbefore.phased e))

/-- When nothing more is to be done about the end of an exchange, it is over. -/
theorem Possible.terminal_of_concluded (h : w.Possible) (hc : .concluded e ∈ w.deeds) :
    (w.exchange e).phase = .terminal :=
  (h.phased e).concluded ((mem_history w).2 ⟨hc, rfl⟩)

end World

open World

theorem Reachable.followed {w : World κ ε} (hw : Reachable w) : w.glance.Followed := by
  have hkept := hw.glance_induct (P := Glance.Followed)
    (fun _ hlt => absurd hlt (Nat.not_lt_zero _)) fun _ _ _ h hshift => hshift.followed h
  rcases hkept with h | ⟨g, h, -, hcut⟩
  · exact h
  · rw [hcut.same]
    exact h

/-- A detached exchange completes or is over, or is being let go of. -/
theorem Reachable.ended {w : World κ ε} (hw : Reachable w) {e : ExchangeRef}
    (hlt : e.index < w.exchanges.size) (ha : w.activeFor? e = none) :
    (w.exchange e).phase.Late ∨ w.Abandoning e := by
  have hpossible := hw.possible
  have hother : ∀ c, w.glance.current = some c → c.exchange ≠ e := by
    rintro c hc rfl
    obtain ⟨a, hactive, rfl⟩ := Option.map_eq_some_iff.1 hc
    cases ha.symm.trans ((activeFor?_eq_some w).2 ⟨hactive, rfl⟩)
  by_cases hlate : (w.exchange e).phase.Late
  · exact .inl hlate
  · refine .inr ?_
    obtain ⟨p, cause, hmem⟩ := (hw.followed e hlt hother).resolve_left hlate
    have hdropped := loss_of_mem hmem
    -- the exchange was detached with the cause that its write was dropped for
    obtain ⟨⟨stream, hended⟩, -⟩ := hpossible.dropped hdropped
    have hhistory : .ended e stream (some cause) ∈ (w.record e).history :=
      (mem_history w).2 ⟨hended, rfl⟩
    obtain ⟨stream', cause', hend⟩ :=
      (hpossible.phased e).early ha (List.ne_nil_of_mem hhistory) hlate
    obtain ⟨rfl, rfl⟩ := (hpossible.orderly e).once _ _ _ _ hhistory hend.mem_ended
    exact ⟨_, cause, p, hend, hdropped⟩

theorem Reachable.lifecycle {w : World κ ε} (hw : Reachable w) : w.Lifecycle where
  single e g he hg := by
    obtain ⟨a, ha⟩ := Option.isSome_iff_exists.1 he
    refine Classical.byContradiction fun hne => ?_
    rw [activeFor?_of_ne w ha (Ne.symm hne)] at hg
    cases hg
  newest a ha := hw.proper.newest _ (w.current_glance ha)
  running e a ha := (hw.possible.phased e).running a ha
  ended _ hlt ha := hw.ended hlt ha

/-- **Lifecycle.** At any time at most one exchange is active, the newest. It is processing if its
flag is set, and created otherwise; one that was detached completes or is over. The two come apart
only while the call that fails an exchange holds the channel and the promise of its pending write is
dropped. From any time on no detached exchange becomes active again, and no phase decreases. When
the call that ended an exchange comes back, the exchange is over. -/
theorem phase_follows {w : World κ ε} (hw : Reachable w) :
    w.Lifecycle ∧
    (∀ (e : ExchangeRef) (β : Type) (m : Engine κ ε β), Permitted m →
      (e.index < w.exchanges.size → w.activeFor? e = none → (m w).2.activeFor? e = none) ∧
      (w.exchange e).phase.rank ≤ ((m w).2.exchange e).phase.rank) ∧
    ∀ e depth host, Surroundings depth host → (w.activeFor? e).isSome = true →
      (∀ w', e.succeed host w = (.done (.ok ()), w') → (w'.exchange e).phase = .terminal) ∧
      ∀ cause w', e.fail host cause w = (.done (), w') → (w'.exchange e).phase = .terminal := by
  have hpossible := hw.possible
  refine ⟨hw.lifecycle, fun e β m hm => ⟨fun hlt ha => ?_, ?_⟩, fun e depth host hh hactive => ?_⟩
  · exact Course.activeFor?_eq_none (hm.runs w hpossible.sound) hpossible.sound hlt ha
  · exact Course.rank_le (hm.runs w hpossible.sound) hpossible e
  · constructor
    · intro w' hrun
      have hcourse := ExchangeRef.runs_succeed hh.lawful e w hpossible.sound
      have hconcluded := ExchangeRef.concluded_of_succeed hpossible.sound hactive hrun
      rw [hrun] at hcourse
      exact (hpossible.course hcourse).terminal_of_concluded hconcluded
    · intro cause w' hrun
      have hcourse := ExchangeRef.runs_fail hh.lawful e cause w hpossible.sound
      have hconcluded := ExchangeRef.concluded_of_fail hpossible.sound hactive hrun
      rw [hrun] at hcourse
      exact (hpossible.course hcourse).terminal_of_concluded hconcluded

/-- The whole body of a response is written, and then the exchange is ended with success. It does
not come back. -/
theorem phase_follows_wholeResponse :
    (World.after wholeBody).Lifecycle ∧
    ((World.after wholeBody).exchange ⟨0⟩).phase = .processing ∧
    (∃ w', ExchangeRef.succeed (Host.idle 2) ⟨0⟩ (World.after wholeBody) = (.done (.ok ()), w') ∧
      (w'.exchange ⟨0⟩).phase = .terminal) ∧
    ∀ (β : Type) (m : Engine Unit Unit β), Permitted m →
      (m (World.after wholeResponse)).2.activeFor? ⟨0⟩ = none ∧
      3 ≤ ((m (World.after wholeResponse)).2.exchange ⟨0⟩).phase.rank := by
  have hfollows := phase_follows permitted_wholeBody.reachable
  have hactive : ((World.after wholeBody).activeFor? ⟨0⟩).isSome = true := by decide +kernel
  have hphase : ((World.after wholeBody).exchange ⟨0⟩).phase = .processing := by decide +kernel
  have hdone : (ExchangeRef.succeed (Host.idle 2) ⟨0⟩ (World.after wholeBody)).1 =
      .done (.ok ()) := by decide +kernel
  have hlt : 0 < (World.after wholeResponse).exchanges.size := by decide +kernel
  have hended : (World.after wholeResponse).activeFor? ⟨0⟩ = none := by decide +kernel
  have hrank : 3 = ((World.after wholeResponse).exchange ⟨0⟩).phase.rank := by decide +kernel
  refine ⟨hfollows.1, hphase, ?_, fun β m hm => ?_⟩
  · rcases hrun : ExchangeRef.succeed (Host.idle 2) ⟨0⟩ (World.after wholeBody) with ⟨ended, w'⟩
    rw [hrun] at hdone
    subst hdone
    exact ⟨w', rfl, (hfollows.2.2 ⟨0⟩ 2 _ (surroundings_idle 2) hactive).1 w' hrun⟩
  · have hlater := (phase_follows permitted_wholeResponse.reachable).2.1 ⟨0⟩ β m hm
    exact ⟨hlater.1 hlt hended, Nat.le_trans (Nat.le_of_eq hrank) hlater.2⟩

end HttpExchange
