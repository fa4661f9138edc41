import HttpExchange.Proofs.Telling
import HttpExchange.Proofs.Waiters

/-!
# What those who wait are told

The callback of a send does not know which write it belongs to: it takes the callback that is pending
when it is called. `Possible.owned` says why that is the right one. As long as a write is pending, all
sends of its exchange that are still to be answered are its own, because no write is admitted before
the sends of the last one were answered.

So what a callback is told is its due (`World.Due`, `Possible.due`): what its own send ended with, a
success if there was nothing to send, the failure that is stored for its exchange, or the failure
that it was refused with. A promise stands as it was told last (`Possible.promiseState_eq`).
-/

namespace HttpExchange

variable {κ ε : Type}

/-! ## What the ledger says -/

namespace Entry

/-- Whose bytes a send has. -/
def sending? : Entry κ → Option (SendRef × Callback κ)
  | sending ref callback => some (ref, callback)
  | _ => none

/-- What a promise is told. -/
def told? (p : PromiseRef) : Entry κ → Option PromiseState
  | told q state => if q = p then some state else none
  | _ => none

end Entry

namespace World

/-- Whose bytes the sends have, latest first. -/
def sendings (w : World κ ε) : List (SendRef × Callback κ) := w.ledger.filterMap Entry.sending?

/-- What a promise was told, latest first. -/
def toldTo (w : World κ ε) (p : PromiseRef) : List PromiseState := w.ledger.filterMap (Entry.told? p)

variable {w w' : World κ ε} {A : ExchangeRef → Prop} {e : ExchangeRef}

/-- What was entered stays. -/
theorem Step.ledger_suffix (hstep : Step A w w') : w.ledger <:+ w'.ledger := by
  cases hstep.enters with
  | rest new hledger => exact ⟨new, hledger.symm⟩
  | send e callback last chunks committed hledger =>
    rw [hledger]
    exact (List.suffix_cons _ _).trans (List.suffix_cons _ _)
  | tell p state hw' =>
    rw [hw']
    unfold World.tell
    split
    · exact List.suffix_cons _ _
    · exact List.suffix_refl _

theorem Course.ledger_suffix (h : Course A w w') : w.ledger <:+ w'.ledger := by
  induction h with
  | refl => exact List.suffix_refl _
  | tail _ hstep ih => exact ih.trans hstep.ledger_suffix

/-- Promises are not taken away. -/
theorem Step.size_promises_le (hstep : Step A w w') : w.promises.size ≤ w'.promises.size := by
  cases hstep.enters with
  | rest _ _ _ hunsettled _ => exact hunsettled.size
  | send _ _ _ _ _ _ hunsettled _ => exact hunsettled.size
  | tell p state hw' =>
    rw [hw']
    unfold World.tell
    split
    · exact Nat.le_of_eq Array.size_modify.symm
    · exact Nat.le_refl _

theorem Course.size_promises_le (h : Course A w w') : w.promises.size ≤ w'.promises.size := by
  induction h with
  | refl => exact Nat.le_refl _
  | tail _ hstep ih => exact Nat.le_trans ih hstep.size_promises_le

theorem TakesIn.ledger_suffix {entry : Entry κ} (h : w.TakesIn entry w') :
    entry :: w.ledger <:+ w'.ledger := by
  obtain ⟨w₁, -, hentry, hleads⟩ := h
  exact hentry.trans hleads.ledger_suffix

/-- A new entry of somebody who is lost is founded. -/
theorem Step.founded (hstep : Step A w w') {entry : Entry κ} (hentry : entry ∈ w'.ledger)
    (hlost : entry.lost?.isSome = true) : entry ∈ w.ledger ∨ Founded w w' entry := by
  cases hstep.enters with
  | rest new hledger hfounded =>
    rw [hledger] at hentry
    rcases List.mem_append.1 hentry with hnew | hold
    · exact .inr (hfounded entry hnew)
    · exact .inl hold
  | send e callback last chunks committed hledger =>
    rw [hledger] at hentry
    rcases List.mem_cons.1 hentry with rfl | hentry
    · cases hlost
    · rcases List.mem_cons.1 hentry with rfl | hold
      · cases hlost
      · exact .inl hold
  | tell p state hw' =>
    rw [hw'] at hentry
    unfold World.tell at hentry
    split at hentry
    · rcases List.mem_cons.1 hentry with rfl | hold
      · cases hlost
      · exact .inl hold
    · exact .inl hentry

/-- Whoever was dropped was dropped when an exchange was detached. With success only error listeners
are. -/
theorem Possible.dropped (h : w.Possible) {waiter : Waiter κ} {cause : Option FailureRef}
    (hmem : .dropped waiter e cause ∈ w.ledger) :
    (∃ stream, .ended e stream cause ∈ w.deeds) ∧
      (cause = none → ∃ listener, waiter = .listener e listener) := by
  refine h.induct (P := fun w => .dropped waiter e cause ∈ w.ledger →
    (∃ stream, .ended e stream cause ∈ w.deeds) ∧
      (cause = none → ∃ listener, waiter = .listener e listener)) ?_ ?_ hmem
  · intro _ _ _ _ _ hnone
    cases hnone
  · intro w w' _ ih hstep hnew
    rcases hstep.founded hnew rfl with hold | hfounded
    · obtain ⟨⟨stream, hended⟩, hsuccess⟩ := ih hold
      exact ⟨⟨stream, hstep.deeds_suffix.subset hended⟩, hsuccess⟩
    · exact hfounded

/-- An error listener comes too late if the exchange was ended and has no failure. -/
theorem Possible.ignored (h : w.Possible) {listener : κ} (hmem : .ignored e listener ∈ w.ledger) :
    ¬w.Open e ∧ (w.exchange e).failure = none := by
  refine h.induct (P := fun w => .ignored e listener ∈ w.ledger →
    ¬w.Open e ∧ (w.exchange e).failure = none) ?_ ?_ hmem
  · intro _ _ _ _ _ hnone
    cases hnone
  · intro w w' hw ih hstep hnew
    have hbefore : ¬w.Open e ∧ (w.exchange e).failure = none := by
      rcases hstep.founded hnew rfl with hold | ⟨hlt, hnone, hfailure⟩
      · exact ih hold
      · refine ⟨fun hopen => ?_, hfailure⟩
        have hactive := hopen hlt
        rw [hnone] at hactive
        cases hactive
    obtain ⟨hended, hfailure⟩ := hbefore
    refine ⟨fun hopen => hended (hstep.open_anti hw.sound hopen), ?_⟩
    refine hstep.failure_eq_none hw (Option.eq_none_iff_forall_ne_some.2 fun a ha => ?_) hfailure
    exact hended (open_of_active ha)

/-- The sends of writes are numbered, and the numbers so far are below the next one. -/
structure Numbered (w : World κ ε) : Prop where
  below : ∀ ref ∈ w.sendings.map Prod.fst, ref.index < w.sends.size
  nodup : (w.sendings.map Prod.fst).Nodup

theorem Step.numbered (hstep : Step A w w') (h : w.Numbered) : w'.Numbered := by
  cases hstep.enters with
  | rest new hledger hfounded _ hsize =>
    have hsame : w'.sendings = w.sendings := by
      refine filterMap_ledger hledger fun entry hentry => ?_
      have hf := hfounded entry hentry
      cases entry with
      | sending ref callback => exact hf.elim
      | wrote | demanded | listened | ignored | refused | dropped | told => rfl
    refine ⟨?_, ?_⟩ <;> rw [hsame]
    · exact fun ref hmem => Nat.lt_of_lt_of_le (h.below ref hmem) hsize
    · exact h.nodup
  | send e callback last chunks committed hledger _ hsize =>
    have hcons : w'.sendings = (⟨w.sends.size⟩, callback) :: w.sendings := by
      rw [sendings, hledger]
      rfl
    refine ⟨?_, ?_⟩ <;> rw [hcons, List.map_cons]
    · rw [hsize]
      intro ref hmem
      rcases List.mem_cons.1 hmem with rfl | hmem
      · exact Nat.lt_succ_self _
      · exact Nat.lt_succ_of_lt (h.below ref hmem)
    · exact List.nodup_cons.2 ⟨fun hmem => Nat.lt_irrefl _ (h.below _ hmem), h.nodup⟩
  | tell p state hw' =>
    have hsame : w'.sendings = w.sendings := by
      rw [hw']
      unfold World.tell
      split <;> rfl
    have hsends : w'.sends = w.sends := by
      rw [hw']
      exact sends_tell p state
    refine ⟨?_, ?_⟩ <;> rw [hsame]
    · rw [hsends]
      exact h.below
    · exact h.nodup

/-- Every send has the bytes of one write. -/
theorem Possible.nodup_sendings (h : w.Possible) : (w.sendings.map Prod.fst).Nodup := by
  have hnumbered : w.Numbered :=
    h.induct (fun _ _ _ _ _ => ⟨fun _ hmem => (nomatch hmem), List.nodup_nil⟩)
      fun _ _ _ hw hstep => hstep.numbered hw
  exact hnumbered.nodup

/-! ## Promises -/

theorem toldTo_tell (w : World κ ε) {p : PromiseRef} (hp : p.index < w.promises.size)
    (state : PromiseState) (q : PromiseRef) :
    (w.tell p state).toldTo q = if p = q then state :: w.toldTo q else w.toldTo q := by
  unfold World.tell
  rw [if_pos hp]
  show List.filterMap (Entry.told? q) (.told p state :: w.ledger) = _
  by_cases hpq : p = q
  · rw [if_pos hpq]
    exact List.filterMap_cons_some (if_pos hpq)
  · rw [if_neg hpq]
    exact List.filterMap_cons_none (if_neg hpq)

/-- A step that tells a promise leaves it as it was told; other steps leave it alone. -/
theorem Step.promiseState_eq (hstep : Step A w w') (p : PromiseRef)
    (h : w.promiseState p = (w.toldTo p).head?.getD .pending) :
    w'.promiseState p = (w'.toldTo p).head?.getD .pending := by
  cases hstep.enters with
  | rest new hledger hfounded hstate _ =>
    have hsame : w'.toldTo p = w.toldTo p := by
      refine filterMap_ledger hledger fun entry hentry => ?_
      have hf := hfounded entry hentry
      cases entry with
      | told q state => exact hf.elim
      | wrote | demanded | listened | ignored | refused | dropped | sending => rfl
    rw [hstate.state, hsame]
    exact h
  | send e callback last chunks committed hledger hstate _ =>
    have hsame : w'.toldTo p = w.toldTo p := by
      rw [toldTo, hledger]
      rfl
    rw [hstate.state, hsame]
    exact h
  | tell q state hw' =>
    rw [hw']
    by_cases hq : q.index < w.promises.size
    · rw [promiseState_tell w hq, toldTo_tell w hq]
      by_cases hqp : q = p
      · rw [if_pos hqp, if_pos hqp]
        rfl
      · rw [if_neg hqp, if_neg hqp]
        exact h
    · have hsame : w.tell q state = w := if_neg hq
      rw [hsame]
      exact h

/-- A promise stands as it was told last, and is pending before. -/
theorem Possible.promiseState_eq (h : w.Possible) (p : PromiseRef) :
    w.promiseState p = (w.toldTo p).head?.getD .pending := by
  refine h.induct (P := fun w => w.promiseState p = (w.toldTo p).head?.getD .pending) ?_ ?_
  · intro _ _ _ _ _
    simp [start, promiseState, toldTo]
  · exact fun _ _ _ ih hstep => hstep.promiseState_eq p ih

/-! ## Whose send is answered -/

/-- The pending write was called for its exchange, and sends of that exchange that are still to be
answered have its bytes. -/
structure Owned (w : World κ ε) : Prop where
  called : ∀ e active callback, w.activeFor? e = some active → active.write = some callback →
    ∃ last chunks committed, .wrote e callback last chunks committed ∈ w.ledger
  sending : ∀ e active callback ref, w.activeFor? e = some active →
    active.write = some callback → w.sendCallback? ref = some (.pendingWrite e) →
    .sending ref callback ∈ w.ledger

/-- As long as no write is pending, and the exchange did not fail, all its sends were answered. -/
theorem Possible.sendCallback?_ne (h : w.Possible) {active : Active κ}
    (ha : w.activeFor? e = some active) (hwrite : active.write = none)
    (herror : active.error = none) (ref : SendRef) :
    w.sendCallback? ref ≠ some (.pendingWrite e) := by
  intro hcb
  obtain ⟨s, hmem, rfl, -, hun⟩ := h.sound.unanswered_of_waiting hcb (.inl rfl)
  obtain ⟨result, hanswered⟩ := (h.orderly e).idle active ha hwrite herror s hmem
  exact hun result hanswered

namespace Owned

/-- A change that makes no write pending and hands over no bytes of a write. -/
theorem mono (h : w.Owned) (hledger : w.ledger <:+ w'.ledger)
    (hactive : ∀ e active' callback, w'.activeFor? e = some active' →
      active'.write = some callback → ∃ active, w.activeFor? e = some active ∧
        active.write = some callback)
    (hsends : ∀ ref e, w'.sendCallback? ref = some (.pendingWrite e) →
      w.sendCallback? ref = some (.pendingWrite e)) : w'.Owned := by
  refine ⟨fun e active' callback ha' hwrite' => ?_, fun e active' callback ref ha' hwrite' hcb => ?_⟩
  · obtain ⟨active, ha, hwrite⟩ := hactive e active' callback ha' hwrite'
    obtain ⟨last, chunks, committed, hmem⟩ := h.called e active callback ha hwrite
    exact ⟨last, chunks, committed, hledger.subset hmem⟩
  · obtain ⟨active, ha, hwrite⟩ := hactive e active' callback ha' hwrite'
    exact hledger.subset (h.sending e active callback ref ha hwrite (hsends ref e hcb))

theorem same (h : w.Owned) (hledger : w.ledger <:+ w'.ledger)
    (hactive : w'.channel.active = w.channel.active) (hsends : w'.sends = w.sends) : w'.Owned := by
  refine h.mono hledger (fun e active' callback ha' hwrite' => ⟨active', ?_, hwrite'⟩)
    (fun ref e hcb => ?_)
  · rw [activeFor?, hactive] at ha'
    exact ha'
  · rw [sendCallback?, hsends] at hcb
    exact hcb

/-- The active exchange changes, but for the pending write, which may be taken out. -/
theorem modifyActive (h : w.Owned) (hledger : w.ledger <:+ w'.ledger) {f : Active κ → Active κ}
    (hf : ∀ a, (f a).exchange = a.exchange ∧ ((f a).write = a.write ∨ (f a).write = none))
    (hactive : w'.channel.active = w.channel.active.map f) (hsends : w'.sends = w.sends) :
    w'.Owned := by
  refine h.mono hledger (fun e active' callback ha' hwrite' => ?_) (fun ref e hcb => ?_)
  · obtain ⟨hmap, rfl⟩ := (activeFor?_eq_some w').1 ha'
    rw [hactive] at hmap
    obtain ⟨active, ha, rfl⟩ := Option.map_eq_some_iff.1 hmap
    obtain ⟨hexchange, hwrite | hwrite⟩ := hf active
    · refine ⟨active, (activeFor?_eq_some w).2 ⟨ha, hexchange.symm⟩, ?_⟩
      rw [← hwrite]
      exact hwrite'
    · cases hwrite.symm.trans hwrite'
  · rw [sendCallback?, hsends] at hcb
    exact hcb

theorem dropWrite (h : w.Owned) (e : ExchangeRef) : (w.dropWrite e).Owned := by
  unfold World.dropWrite
  split
  · refine h.modifyActive (List.suffix_refl _) ?_ rfl rfl
    exact fun _ => ⟨rfl, .inr rfl⟩
  · exact h

/-- Without an active exchange no write is pending. -/
theorem of_none (h : w.channel.active = none) : w.Owned := by
  have hnone : ∀ e active, w.activeFor? e ≠ some active := by
    intro e active ha
    obtain ⟨hactive, -⟩ := (activeFor?_eq_some w).1 ha
    cases h.symm.trans hactive
  exact ⟨fun e active _ ha => absurd ha (hnone e active),
    fun e active _ _ ha => absurd ha (hnone e active)⟩

/-- No write is pending on a new exchange. -/
theorem of_fresh {g : ExchangeRef} (h : w.channel.active = some (.fresh g)) : w.Owned := by
  have hnone : ∀ e active callback, w.activeFor? e = some active →
      active.write ≠ some callback := by
    intro e active callback ha hwrite
    obtain ⟨hactive, -⟩ := (activeFor?_eq_some w).1 ha
    cases h.symm.trans hactive
    cases hwrite
  exact ⟨fun e active callback ha hwrite => absurd hwrite (hnone e active callback ha),
    fun e active callback _ ha hwrite => absurd hwrite (hnone e active callback ha)⟩

/-- Taking out the callback of a send leaves fewer of them. -/
theorem answer (h : w.Owned) (hledger : w.ledger <:+ w'.ledger) {ref : SendRef}
    (hactive : w'.channel.active = w.channel.active)
    (hsends : w'.sends = w.sends.modify ref.index fun _ => none) : w'.Owned := by
  refine h.mono hledger (fun e active' callback ha' hwrite' => ⟨active', ?_, hwrite'⟩)
    (fun other e hcb => ?_)
  · rw [activeFor?, hactive] at ha'
    exact ha'
  · rw [sendCallback?_answer hsends] at hcb
    split at hcb
    · cases hcb
    · exact hcb

/-- The last bytes that the ending call sends are those of no write. -/
theorem handOver (h : w.Owned) (hledger : w.ledger <:+ w'.ledger)
    (hactive : w'.channel.active = w.channel.active) (hsends : w'.sends = w.sends) (e : ExchangeRef)
    {s : Sending κ} (hs : ∀ e, s.callback ≠ .pendingWrite e) : (w'.handOver e s).Owned := by
  refine h.mono hledger (fun g active' callback ha' hwrite' => ⟨active', ?_, hwrite'⟩)
    (fun ref g hcb => ?_)
  · rw [activeFor?, ← hactive]
    exact ha'
  · have hpush : (w'.handOver e s).sends = w.sends.push (some s.callback) :=
      congrArg (Array.push · _) hsends
    rw [sendCallback?_handOver hpush] at hcb
    split at hcb
    · exact absurd (Option.some.inj hcb) (hs g)
    · exact hcb

/-- A write is accepted when all sends of its exchange were answered. -/
theorem accept (h : w.Possible) {active : Active κ} (ha : w.activeFor? e = some active)
    (hwrite : active.write = none) (herror : active.error = none) (last : Bool)
    (callback : Callback κ) (chunks : List Octets) : (w.accept e last callback chunks).Owned := by
  have haccepted := activeFor?_accept ha last callback chunks
  have hothers : ∀ g active', (w.accept e last callback chunks).activeFor? g = some active' →
      g = e ∧ active'.write = some callback := by
    intro g active' ha'
    by_cases hg : g = e
    · subst hg
      cases haccepted.symm.trans ha'
      exact ⟨rfl, rfl⟩
    · cases (activeFor?_of_ne _ haccepted hg).symm.trans ha'
  refine ⟨fun g active' callback' ha' hwrite' => ?_, fun g active' callback' ref ha' _ hcb => ?_⟩
  · obtain ⟨rfl, hcallback⟩ := hothers g active' ha'
    cases hcallback.symm.trans hwrite'
    exact ⟨last, chunks, _, List.mem_cons_self⟩
  · obtain ⟨rfl, -⟩ := hothers g active' ha'
    exact absurd hcb (h.sendCallback?_ne ha hwrite herror ref)

theorem fixHead {last commits : Bool} {head : Option ResponseHead} (h : w.Owned)
    (hfix : w.HeadFixed e last commits w' head) : w'.Owned := by
  exact h.same ⟨[], hfix.ledger_eq.symm⟩ (congrArg Channel.active hfix.channel_eq) hfix.sends_eq

/-- The bytes of the pending write are handed over. -/
theorem send (h : w.Owned) {active : Active κ} {callback : Callback κ}
    (ha : w.activeFor? e = some active) (hwrite : active.write = some callback) (s : Sending κ)
    (hs : s.callback = .pendingWrite e) : ((w.enterSending callback).handOver e s).Owned := by
  refine ⟨fun g active' callback' ha' hwrite' => ?_,
    fun g active' callback' ref ha' hwrite' hcb => ?_⟩
  · obtain ⟨last, chunks, committed, hmem⟩ := h.called g active' callback' ha' hwrite'
    exact ⟨last, chunks, committed, List.mem_cons_of_mem _ hmem⟩
  · have hpush : ((w.enterSending callback).handOver e s).sends = w.sends.push (some s.callback) :=
      rfl
    rw [sendCallback?_handOver hpush] at hcb
    split at hcb
    next hnew =>
      cases (Option.some.inj hcb).symm.trans hs
      cases ha.symm.trans ha'
      cases hwrite.symm.trans hwrite'
      rw [hnew]
      exact List.mem_cons_self
    next => exact List.mem_cons_of_mem _ (h.sending g active' callback' ref ha' hwrite' hcb)

end Owned

theorem Step.owned (hstep : Step A w w') (hw : w.Possible) (h : w.Owned) : w'.Owned := by
  have hledger := hstep.ledger_suffix
  cases hstep with
  | aside | addFailure | suppress | attach | wrap | listen | unpersist | count | ignore | edit
  | complete | recycle | tellFailure | conclude => exact h.same hledger rfl rfl
  | tell p state =>
    unfold World.tell at hledger ⊢
    split at hledger
    next hp =>
      rw [if_pos hp]
      exact h.same hledger rfl rfl
    next hp =>
      rw [if_neg hp]
      exact h
  | offer | close | demandNow | listenLate | flush | refuse | refuseFailed =>
    exact h.same hledger rfl (sends_offer ..)
  | next name =>
    simp only [Engine.nextTask, Effect.modifyGet] at hledger ⊢
    split at hledger <;> cases name <;> exact h.same hledger rfl rfl
  | activate => exact .of_fresh rfl
  | contentAvailable =>
    refine h.modifyActive hledger ?_ rfl (sends_offer ..)
    exact fun _ => ⟨rfl, .inl rfl⟩
  | storeFailure =>
    refine h.modifyActive hledger ?_ rfl (sends_offer ..)
    exact fun _ => ⟨rfl, .inr rfl⟩
  | enable | demand | listenForError =>
    refine h.modifyActive hledger ?_ rfl rfl
    exact fun _ => ⟨rfl, .inl rfl⟩
  | send callback hstream ha hadm hfix hfits =>
    obtain ⟨hwrite, herror, -, -⟩ := Active.admission_eq_send hadm
    have hactive := (hfix.activeFor?_eq _).trans (activeFor?_accept ha _ callback _)
    have hfixed := (Owned.accept hw ha hwrite herror _ callback _).fixHead hfix
    exact hfixed.send hactive rfl _ rfl
  | withhold callback hstream ha hadm hfix hfault =>
    rename_i e stream active last commits chunks w₁ head fault
    obtain ⟨hwrite, herror, -, -⟩ := Active.admission_eq_send hadm
    have hfixed : w₁.Owned := (Owned.accept hw ha hwrite herror last callback chunks).fixHead hfix
    have hnoted : (w₁.note (.mismatched e)).Owned := hfixed.same (List.suffix_refl _) rfl rfl
    refine (hnoted.dropWrite e).same ?_ rfl (sends_offer ..)
    exact (List.suffix_cons _ _)
  | stick callback hstream ha hadm hfix =>
    obtain ⟨hwrite, herror, -, -⟩ := Active.admission_eq_send hadm
    exact (Owned.accept hw ha hwrite herror _ callback _).fixHead hfix
  | answerWrite result hcb ha hwrite =>
    rename_i ref e active callback
    have hanswered : (w.answer e ref result).Owned := h.answer (List.suffix_refl _) rfl rfl
    refine (hanswered.dropWrite e).same ?_ rfl (sends_offer ..)
    exact List.suffix_refl _
  | answerLate | answerFinal | answerError => exact h.answer hledger rfl rfl
  | succeed | fail => exact .of_none rfl
  | mismatch _ _ _ hfix | tellSuccess _ _ _ hfix | stickFinal _ _ _ _ hfix
  | stickError _ _ _ _ _ _ hfix =>
    exact h.same hledger (congrArg Channel.active hfix.channel_eq) hfix.sends_eq
  | sendFinal _ _ _ hfix | sendError _ _ _ _ _ _ hfix =>
    refine Owned.handOver h ?_ ?_ ?_ _ ?_
    · exact hledger
    · exact congrArg Channel.active hfix.channel_eq
    · exact hfix.sends_eq
    · intro callback hdirect
      cases hdirect

theorem Possible.owned (h : w.Possible) : w.Owned :=
  h.induct (fun _ _ _ _ _ => .of_none rfl) fun _ _ hw howned hstep => hstep.owned hw howned

/-! ## What is due -/

/-- What the callback of a write may be told. -/
inductive Due (w : World κ ε) (callback : Callback κ) : Result → Prop
  /-- What the send of its own bytes ended with. -/
  | sent {e : ExchangeRef} {last : Bool} {chunks : List Octets} {committed : Bool} {ref : SendRef}
      {result : Result} : .wrote e callback last chunks committed ∈ w.ledger →
      .sending ref callback ∈ w.ledger → .sendEnded e ref result ∈ w.deeds → Due w callback result
  /-- A success, if there was nothing to send and the head was fixed. -/
  | flushed {e : ExchangeRef} : .wrote e callback false [] true ∈ w.ledger →
      Due w callback (.ok ())
  /-- The failure that is stored for the exchange that it was called for. -/
  | failed {e : ExchangeRef} {last : Bool} {chunks : List Octets} {committed : Bool}
      {cause : FailureRef} : .wrote e callback last chunks committed ∈ w.ledger →
      (w.exchange e).failure = some cause → Due w callback (.error cause)
  /-- The failure that it was refused with. -/
  | refused {cause : FailureRef} : .refused callback cause ∈ w.ledger →
      Due w callback (.error cause)

end World

/-- A task tells the callback of a write a result. -/
def Task.Tells (task : Task κ) (callback : Callback κ) (result : Result) : Prop :=
  task.name ≠ "demand" ∧ task.job = .complete callback result

theorem Task.Tells.waiter? {task : Task κ} {callback : Callback κ} {result : Result}
    (h : task.Tells callback result) : task.waiter? = some (.write callback) := by
  rw [Task.waiter?, if_neg h.1, h.2]

/-- A failure is delivered to the write that is pending. -/
theorem Channel.tells_deliveries {active : Active κ} {cause : FailureRef} {task : Task κ}
    {callback : Callback κ} {result : Result} (htask : task ∈ deliveries active cause)
    (htells : task.Tells callback result) :
    active.write = some callback ∧ result = .error cause := by
  obtain ⟨hname, hjob⟩ := htells
  simp only [deliveries, List.mem_append, List.mem_map, Option.mem_toList, List.mem_singleton]
    at htask
  rcases htask with ((⟨job, -, rfl⟩ | ⟨callback', hwrite, rfl⟩) | ⟨listener, -, rfl⟩) | rfl
  · exact absurd rfl hname
  · cases hjob
    exact ⟨hwrite, rfl⟩
  · cases hjob
  · cases hjob

namespace World

variable {w w' : World κ ε} {A : ExchangeRef → Prop} {e : ExchangeRef}

/-- What is due stays due. -/
theorem Due.mono {callback : Callback κ} {result : Result} (h : w.Due callback result)
    (hledger : w.ledger <:+ w'.ledger) (hdeeds : w.deeds <:+ w'.deeds)
    (hfailure : ∀ e cause, (w.exchange e).failure = some cause →
      (w'.exchange e).failure = some cause) : w'.Due callback result := by
  cases h with
  | sent hwrote hsending hended =>
    exact .sent (hledger.subset hwrote) (hledger.subset hsending) (hdeeds.subset hended)
  | flushed hwrote => exact .flushed (hledger.subset hwrote)
  | failed hwrote hstored => exact .failed (hledger.subset hwrote) (hfailure _ _ hstored)
  | refused hrefused => exact .refused (hledger.subset hrefused)

/-- The tasks that a step offers tell writes what is due. -/
def Offers (w w' : World κ ε) : Prop :=
  ∃ late, w'.deeds = late ++ w.deeds ∧ ∀ d ∈ late, ∀ task ∈ d.offeredTo .channel,
    ∀ callback result, task.Tells callback result → w'.Due callback result

namespace Offers

/-- No task is offered. -/
theorem quiet (late : List (Deed κ)) (hdeeds : w'.deeds = late ++ w.deeds)
    (hquiet : ∀ d ∈ late, d.offeredTo .channel = []) : Offers w w' := by
  refine ⟨late, hdeeds, fun d hd task htask => ?_⟩
  rw [hquiet d hd] at htask
  cases htask

theorem same (hdeeds : w'.deeds = w.deeds) : Offers w w' :=
  .quiet [] hdeeds fun _ hd => nomatch hd

theorem note {d : Deed κ} (hdeeds : w'.deeds = d :: w.deeds) (hd : d.offeredTo .channel = []) :
    Offers w w' := by
  refine .quiet [d] hdeeds fun d' hd' => ?_
  cases List.mem_singleton.1 hd'
  exact hd

/-- Tasks are offered to the queue of the channel, after something else was done. -/
theorem tasks {tasks : List (Task κ)} (late : List (Deed κ))
    (hdeeds : w'.deeds = .offered .channel tasks :: (late ++ w.deeds))
    (hquiet : ∀ d ∈ late, d.offeredTo .channel = [])
    (hdue : ∀ task ∈ tasks, ∀ callback result, task.Tells callback result →
      w'.Due callback result) : Offers w w' := by
  refine ⟨_ :: late, hdeeds, fun d hd task htask => ?_⟩
  rcases List.mem_cons.1 hd with rfl | hd
  · exact hdue task htask
  · rw [hquiet d hd] at htask
    cases htask

/-- Tasks are offered that tell nobody how a write ended. -/
theorem plain {tasks : List (Task κ)} (late : List (Deed κ))
    (hdeeds : w'.deeds = .offered .channel tasks :: (late ++ w.deeds))
    (hquiet : ∀ d ∈ late, d.offeredTo .channel = [])
    (hplain : ∀ task ∈ tasks, ∀ callback, task.waiter? ≠ some (.write callback)) :
    Offers w w' := by
  refine .tasks late hdeeds hquiet fun task htask callback result htells => ?_
  exact absurd htells.waiter? (hplain task htask callback)

/-- A task is offered that tells a write how it ended. -/
theorem told {name : String} {callback : Callback κ} {result : Result} (late : List (Deed κ))
    (hdeeds : w'.deeds = .offered .channel [⟨name, .complete callback result⟩] :: (late ++ w.deeds))
    (hquiet : ∀ d ∈ late, d.offeredTo .channel = []) (hdue : w'.Due callback result) :
    Offers w w' := by
  refine .tasks late hdeeds hquiet fun task htask callback' result' htells => ?_
  cases List.mem_singleton.1 htask
  obtain ⟨-, hjob⟩ := htells
  cases hjob
  exact hdue

/-- A refused write is told the failure that it was refused with. -/
theorem refuse {w₁ : World κ ε} (late : List (Deed κ)) (hdeeds : w₁.deeds = late ++ w.deeds)
    (hquiet : ∀ d ∈ late, d.offeredTo .channel = []) (callback : Callback κ)
    (why : ExchangeError) : Offers w (w₁.refuse callback why) := by
  have hoffered : (w₁.refuse callback why).deeds = .offered .channel [⟨"write-failure",
      .complete callback (.error w₁.failures.next)⟩] :: (late ++ w.deeds) := by
    rw [World.refuse, deeds_offer]
    exact congrArg (_ :: ·) hdeeds
  refine .told late hoffered hquiet (.refused ?_)
  exact List.mem_cons_self

end Offers

theorem Step.offers (hstep : Step A w w') (hw : w.Possible) : Offers w w' := by
  have hnil : ∀ d ∈ ([] : List (Deed κ)), d.offeredTo .channel = [] := fun _ hd => nomatch hd
  cases hstep with
  | aside | addFailure | suppress | wrap | listen | unpersist | count | activate | enable | demand
  | ignore | edit | complete | recycle => exact .same rfl
  | tell p state => exact .same (deeds_tell p state)
  | attach | listenForError | tellFailure | conclude | succeed | fail => exact .note rfl rfl
  | next name =>
    simp only [Engine.nextTask, Effect.modifyGet]
    split
    · exact .same (deeds_setQueue ..)
    next task q _ =>
      refine .note (d := .started name task) ?_ rfl
      exact congrArg (_ :: ·) (deeds_setQueue ..)
  | offer tasks => exact .note (deeds_offer ..) rfl
  | close cause =>
    refine .plain [] (deeds_offer ..) hnil fun task htask callback hwaiter => ?_
    have hnone := List.filterMap_eq_nil_iff.1 (Channel.waiters_closing w.channel cause) task htask
    cases hnone.symm.trans hwaiter
  | contentAvailable =>
    refine .plain [] (deeds_offer ..) hnil fun task htask callback hwaiter => ?_
    obtain ⟨job, -, rfl⟩ := List.mem_map.1 htask
    cases hwaiter
  | demandNow e job =>
    refine .plain [] (deeds_offer ..) hnil fun task htask callback hwaiter => ?_
    cases List.mem_singleton.1 htask
    cases hwaiter
  | listenLate listener hknown =>
    rename_i e cause
    refine .plain [.listening e listener] (deeds_offer ..) (by simp [Deed.offeredTo])
      fun task htask callback hwaiter => ?_
    cases List.mem_singleton.1 htask
    cases hwaiter
  | storeFailure cause hstream hactive herror =>
    rename_i active
    have ha := (activeFor?_eq_some w).2 ⟨hactive, rfl⟩
    have hnone : (w.exchange active.exchange).failure = none := (hw.failure_eq ha).trans herror
    refine .tasks [] (deeds_offer ..) hnil fun task htask callback result htells => ?_
    obtain ⟨hwrite, rfl⟩ := Channel.tells_deliveries htask htells
    obtain ⟨last, chunks, committed, hwrote⟩ :=
      hw.owned.called active.exchange active callback ha hwrite
    exact .failed (e := active.exchange) hwrote
      (failure_storeFailure_self (hw.sound.index_lt_of_active ha) hnone cause)
  | flush e callback =>
    refine .told [] (deeds_offer ..) hnil (.flushed (e := e) ?_)
    exact List.mem_cons_self
  | refuse e callback last chunks committed why => exact .refuse [] rfl hnil callback why
  | refuseFailed callback last chunks ha herror =>
    rename_i e active cause
    have hstored : (w.exchange e).failure = some cause := (hw.failure_eq ha).trans herror
    have hwrote : .wrote e callback last chunks (w.exchange e).response.committed ∈
      (w.enterWrote e callback last chunks).ledger := List.mem_cons_self
    exact .told [] (deeds_offer ..) hnil (.failed (e := e) hwrote hstored)
  | send callback _ _ _ hfix => exact .note (congrArg (_ :: ·) hfix.deeds_eq) rfl
  | withhold callback hstream ha hadm hfix hfault =>
    rename_i e stream active last commits chunks w₁ head fault
    have hdropped : ((w₁.note (.mismatched e)).dropWrite e).deeds = .mismatched e :: w.deeds := by
      rw [deeds_dropWrite]
      exact congrArg (_ :: ·) hfix.deeds_eq
    exact .refuse [.mismatched e] hdropped (by simp [Deed.offeredTo]) callback fault
  | stick callback _ _ _ hfix => exact .same hfix.deeds_eq
  | answerWrite result hcb ha hwrite =>
    rename_i ref e active callback
    -- the callback that is pending is the one whose bytes this send had
    obtain ⟨last, chunks, committed, hwrote⟩ := hw.owned.called e active callback ha hwrite
    have hsending := hw.owned.sending e active callback ref ha hwrite hcb
    have hledger : (((w.answer e ref result).dropWrite e).offer .channel
        [⟨"write-complete", .complete callback result⟩]).ledger = w.ledger := by
      rw [ledger_offer, ledger_dropWrite]
      rfl
    have hdeeds : (((w.answer e ref result).dropWrite e).offer .channel
        [⟨"write-complete", .complete callback result⟩]).deeds =
        .offered .channel [⟨"write-complete", .complete callback result⟩] ::
          ([.sendEnded e ref result] ++ w.deeds) := by
      rw [deeds_offer, deeds_dropWrite]
      rfl
    refine .told [.sendEnded e ref result] hdeeds (by simp [Deed.offeredTo]) ?_
    refine .sent (e := e) (hledger ▸ hwrote) (hledger ▸ hsending) ?_
    rw [hdeeds]
    exact List.mem_cons_of_mem _ List.mem_cons_self
  | answerLate => exact .note rfl rfl
  | answerFinal result =>
    refine .quiet [_, _] rfl ?_
    cases result <;> simp [Deed.offeredTo]
  | answerError result =>
    refine .quiet [_, _] rfl ?_
    simp [Deed.offeredTo]
  | mismatch _ _ _ hfix =>
    refine .quiet [_, _] (congrArg (_ :: _ :: ·) hfix.deeds_eq) ?_
    simp [Deed.offeredTo]
  | tellSuccess _ _ _ hfix | sendFinal _ _ _ hfix | sendError _ _ _ _ _ _ hfix =>
    exact .note (congrArg (_ :: ·) hfix.deeds_eq) rfl
  | stickFinal _ _ _ _ hfix | stickError _ _ _ _ _ _ hfix => exact .same hfix.deeds_eq

/-- Every task that tells a write how it ended tells what is due. -/
theorem Possible.due (h : w.Possible) {task : Task κ} (htask : task ∈ w.offeredTo .channel)
    {callback : Callback κ} {result : Result} (htells : task.Tells callback result) :
    w.Due callback result := by
  obtain ⟨d, hd, htask⟩ := List.mem_flatMap.1 htask
  refine h.induct (P := fun w => d ∈ w.deeds → w.Due callback result) ?_ ?_ (List.mem_reverse.1 hd)
  · intro _ _ _ _ _ hmem
    cases hmem
  · intro w w' hw ih hstep hmem
    obtain ⟨late, hdeeds, hdue⟩ := hstep.offers hw
    rw [hdeeds] at hmem
    rcases List.mem_append.1 hmem with hnew | hold
    · exact hdue d hnew task htask callback result htells
    · refine (ih hold).mono hstep.ledger_suffix hstep.deeds_suffix fun e cause hstored => ?_
      exact hstep.failure_mono hw hstored

end World

end HttpExchange
