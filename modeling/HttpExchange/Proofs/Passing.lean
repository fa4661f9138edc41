import HttpExchange.Proofs.Wrapping

/-!
# The outcome on its way through the wrappers

When an exchange has ended and its last bytes are out, the engine tells its stream the outcome
(`World.Delivers`). That stream lies over what was attached while the exchange was active, and the
listeners that were added are still in their slots, because an exchange is told one outcome at most:
a listener leaves its slot only if its stream is told. So the outcome passes the whole line of
wrappers, and everybody who waits there is told (`outcome_passes_wrappers`).

Two things could spoil that. Two wrappers of the line could share a slot, so that one of them takes
the listener of the other; the tries of one call to wrap the stream do share a slot, but only one of
them succeeds, and in no state that is reached does a slot occur twice in a line
(`Delivers.ownSlots`, from `ReachableOf.tidy`). Or the transport could hand the same stream to two
exchanges, so that the outcome of the one empties the slots that listeners of the other wait in.
The engine does not look at that, and `World.Spares` says that it is not so.
-/

namespace HttpExchange

variable {κ ε : Type}

open World

/-- No stream of another exchange with one of these slots was told an outcome. -/
def World.Spares (w : World κ ε) (e : ExchangeRef) (slots : List SlotRef) : Prop :=
  ∀ d ∈ w.outcomes, d.exchange? ≠ some e → ∀ slot ∈ slots, slot ∉ d.slots

/-- The stream of an exchange: the one that is attached while it is active, and after that the one
that it ended with. -/
def World.StreamOf (w : World κ ε) (e : ExchangeRef) (stream : Stream) : Prop :=
  (w.activeFor? e).isSome = true ∧ w.channel.stream = some stream ∨
    ∃ cause, .ended e (some stream) cause ∈ w.deeds

/-- In a run that goes on from a state `v`, the engine tells the stream of an exchange the outcome in
the state `z`, and that comes to its end. -/
structure World.Delivers (v : World κ ε) (host : Host κ ε) (e : ExchangeRef) (last : Stream)
    (result : Result) (z : World κ ε) : Prop where
  since : ∃ u, v.Later u ∧ u.StreamOf e last ∧ u.Heeds z
  later : v.Later (Engine.tell host e last result z).2
  ended : (Engine.tell host e last result z).1 ≠ .halted

/-- The transport learns how the exchange of one of its streams ended. -/
def Transport.learn (transport : Transport κ ε) (ref : StreamRef) : Result → Engine κ ε Unit
  | .ok () => transport.succeeded ref
  | .error cause => transport.failed ref cause

theorem Stream.tell_transport (host : Host κ ε) (result : Result) (ref : StreamRef) :
    (Stream.transport ref).tell host result = host.transport.learn ref result := by
  cases result <;> rfl

theorem SendRef.complete_finalFrame {w : World κ ε} {e : ExchangeRef} {ref : SendRef}
    {last : Stream} (hsend : w.sendCallback? ref = some (.finalFrame e last)) (host : Host κ ε)
    (result : Result) :
    ref.complete host result w = Engine.tell host e last result (w.answer e ref result) := by
  rw [SendRef.complete_eq hsend]
  cases result <;> rfl

namespace World

variable {w w' v z : World κ ε} {e : ExchangeRef} {attached last stream : Stream}
  {added : List (Addition κ)} {host : Host κ ε} {result : Result}

theorem countP_history (w : World κ ε) (e : ExchangeRef) :
    (w.history e).countP Deed.isOutcome = w.outcomes.countP fun d => d.exchange? = some e := by
  simp only [history, outcomes, List.countP_filter, Bool.and_comm]

theorem outcomes_note_outcome (w : World κ ε) (e : ExchangeRef) (stream : Stream)
    (result : Result) : (w.note (.outcome e stream result)).outcomes =
      .outcome e stream result :: w.outcomes :=
  List.filter_cons_of_pos (Deed.isOutcome_outcome e stream result)

/-- Between two moments the outcomes that were told stay. -/
theorem Later.count (h : w.Later w') (hw : w.Possible)
    (htold : .outcome e last result ∈ w.outcomes) :
    (w'.history e).countP Deed.isOutcome = 1 := by
  refine Nat.le_antisymm ((h.possible hw).settled e).once (List.countP_pos_iff.2 ?_)
  refine ⟨_, ?_, Deed.isOutcome_outcome e last result⟩
  have hmem := (List.mem_filter.1 (h.heeds.outcomes.subset htold)).1
  exact List.mem_filter.2 ⟨hmem, by simp⟩

/-- The stream of an exchange has slots of its own. -/
theorem Tidy.ownSlots (h : w.Tidy) (hof : w.StreamOf e last) : last.OwnSlots w := by
  rcases hof with ⟨-, hattached⟩ | ⟨cause, hended⟩
  · exact h.attached last hattached
  · exact h.parted e last cause hended

/-- Whoever waits for the end of the last send has to do with the stream that the exchange ended
with. -/
theorem Possible.streamOf_finalFrame (h : w.Possible) {ref : SendRef}
    (hsend : w.sendCallback? ref = some (.finalFrame e last)) : w.StreamOf e last := by
  obtain ⟨s, hsent, -, hcallback, -⟩ :=
    h.sound.unanswered_of_waiting hsend (.inr ⟨last, none, rfl⟩)
  obtain ⟨cause, hfinal, hended⟩ := (h.settled e).final s hsent (by rw [hcallback]; rfl)
  have hsame : finalCallback e last none = finalCallback e s.stream cause :=
    hcallback.symm.trans hfinal
  obtain ⟨hstream, -⟩ := Record.finalCallback_inj hsame
  rw [← hstream] at hended
  exact .inr ⟨cause, (List.mem_filter.1 hended).1⟩

namespace Delivers

theorem heeds (h : v.Delivers host e last result z) : v.Heeds z := by
  obtain ⟨u, hlater, -, hheeds⟩ := h.since
  exact hlater.heeds.trans hheeds

/-- The slots of the stream are its own when that is told the outcome. -/
theorem ownSlots (h : v.Delivers host e last result z) (hv : v.Tidy) : last.OwnSlots z := by
  obtain ⟨u, hlater, hof, hheeds⟩ := h.since
  exact ((hlater.tidy hv).ownSlots hof).mono hheeds.size

/-- An exchange is told nothing but this outcome, before or after. -/
theorem outcomes_eq (h : v.Delivers host e last result z) (hh : host.Answers fun _ m => Minding m)
    (hv : v.Possible) : ∃ late,
      (Engine.tell host e last result z).2.outcomes = late ++ .outcome e last result :: z.outcomes ∧
      ∀ d ∈ late ++ z.outcomes, d.exchange? ≠ some e := by
  obtain ⟨late, hlate, -⟩ := (last.minds_tell hh result (z.note (.outcome e last result))).kept
  rw [outcomes_note_outcome] at hlate
  have honce := ((h.later.possible hv).settled e).once
  rw [countP_history, Engine.tell_run, hlate, List.countP_append,
    List.countP_cons_of_pos (by simp)] at honce
  refine ⟨late, by rw [Engine.tell_run, hlate], ?_⟩
  have hnone : (late ++ z.outcomes).countP (fun d => d.exchange? = some e) = 0 := by
    rw [List.countP_append]
    omega
  simpa using List.countP_eq_zero.1 hnone

/-- The only other outcomes that are told have to do with other slots. -/
theorem apart (h : v.Delivers host e last result z) (hh : host.Answers fun _ m => Minding m)
    (hv : v.Possible) (hspares : (Engine.tell host e last result z).2.Spares e last.slots) :
    ∃ late,
      (Engine.tell host e last result z).2.outcomes = late ++ .outcome e last result :: z.outcomes ∧
      ∀ d ∈ late ++ z.outcomes, ∀ slot ∈ last.slots, slot ∉ d.slots := by
  obtain ⟨late, houtcomes, hother⟩ := h.outcomes_eq hh hv
  refine ⟨late, houtcomes, fun d hd => hspares d ?_ (hother d hd)⟩
  have hsub := (List.sublist_cons_self (.outcome e last result) z.outcomes).append_left late
  rw [houtcomes]
  exact hsub.subset hd

/-- While its outcome is told, the slots of a stream are left alone by everything else. -/
theorem isPrivate (h : v.Delivers host e last result z) (hh : host.Answers fun _ m => Minding m)
    (hv : v.Possible) (htidy : v.Tidy)
    (hspares : (Engine.tell host e last result z).2.Spares e last.slots) :
    last.Private (z.note (.outcome e last result)) (Engine.tell host e last result z).2 := by
  obtain ⟨late, houtcomes, hother⟩ := h.apart hh hv hspares
  have hown := h.ownSlots htidy
  rw [← outcomes_note_outcome] at houtcomes
  refine ⟨hown.made, hown.nodup, late, houtcomes, fun slot hslot hlate => ?_⟩
  obtain ⟨d, hd, hmem⟩ := List.mem_flatMap.1 hlate
  exact hother d (List.mem_append_left _ hd) slot hslot hmem

/-- Who waited in a slot of the stream waits there until it is told the outcome. -/
theorem listener?_eq (h : v.Delivers host e last result z) (hh : host.Answers fun _ m => Minding m)
    (hv : v.Possible) (hspares : (Engine.tell host e last result z).2.Spares e last.slots)
    {slot : SlotRef} (hslot : slot ∈ last.slots) {u : World κ ε} (hu : u.Heeds v)
    {listener : Callback κ} (hwaits : u.listener? slot = some listener) :
    z.listener? slot = some listener := by
  obtain ⟨late, -, hother⟩ := h.apart hh hv hspares
  rcases (hu.trans h.heeds).kept slot (index_lt_of_listener hwaits) with hsame | ⟨-, htold⟩
  · exact hsame.trans hwaits
  · obtain ⟨d, hd, hmem⟩ := List.mem_flatMap.1 htold
    exact absurd hmem (hother d (List.mem_append_right _ hd) slot hslot)

theorem told (h : v.Delivers host e last result z) (hh : host.Answers fun _ m => Minding m)
    (hv : v.Possible) : .outcome e last result ∈ (Engine.tell host e last result z).2.outcomes := by
  obtain ⟨late, houtcomes, -⟩ := h.outcomes_eq hh hv
  rw [houtcomes]
  exact List.mem_append_right _ List.mem_cons_self

/-- The stream that is told the outcome lies over what was attached while the exchange was active. -/
theorem last_over (h : v.Delivers host e last result z) (hh : host.Answers fun _ m => Minding m)
    (hv : v.Possible) (hactive : (v.activeFor? e).isSome = true)
    (hstream : v.channel.stream = some stream) : last.Over stream := by
  have hmem := (List.mem_filter.1 (h.told hh hv)).1
  obtain ⟨ended, cause, hended, htells⟩ := ((h.later.possible hv).settled e).told _
    (List.mem_filter.2 ⟨hmem, by simp⟩) (Deed.isOutcome_outcome e last result)
  have hlast := htells.told_eq
  rw [Deed.told?_outcome] at hlast
  cases hlast
  exact Course.over_of_ended (h.later.course hv) hv hactive hstream (List.mem_filter.1 hended).1

/-- The end of the last send of an exchange delivers its outcome. -/
theorem of_finalFrame {v' : World κ ε} {ref : SendRef} {depth : Nat}
    (hh : SurroundingsOf Craft.tidy depth host) (hv : v.Possible) (hlater : v.Later v')
    (hsend : v'.sendCallback? ref = some (.finalFrame e last))
    (hended : (ref.complete host result v').1 ≠ .halted) :
    v.Delivers host e last result (v'.answer e ref result) := by
  have hcomplete : PermittedOf Craft.tidy (ref.complete host result) :=
    .endSend ref result ⟨depth, hh⟩
  have hfinal := hlater.trans (later_of_permitted hcomplete v')
  rw [SendRef.complete_finalFrame hsend] at hended hfinal
  have hof := (hlater.possible hv).streamOf_finalFrame hsend
  exact ⟨⟨v', hlater, hof, Minds.heeds (.of_hearing_eq rfl)⟩, hfinal, hended⟩

end Delivers

/-- The listeners that were added are in line in the slots of their wrappers. -/
theorem sublist_waiting {above : List Stream} (hline : (added.map (·.wrapper)).Sublist above)
    (hwaits : ∀ a ∈ added, ∀ listener, a.listener = some listener → ∃ slot,
      a.wrapper.slot? = some slot ∧ w.listener? slot = some listener) :
    (added.filterMap (·.listener)).Sublist (w.waiting (above.filterMap Stream.slot?)) := by
  refine List.Sublist.trans ?_ ((hline.filterMap _).filterMap _)
  clear hline
  induction added with
  | nil => exact List.nil_sublist _
  | cons a added ih =>
    have hrest := ih fun a ha => hwaits a (List.mem_cons_of_mem _ ha)
    cases hlistener : a.listener with
    | none =>
      rw [List.filterMap_cons_none hlistener]
      refine hrest.trans (List.Sublist.filterMap _ (List.Sublist.filterMap _ ?_))
      exact List.sublist_cons_self _ _
    | some listener =>
      obtain ⟨slot, hslot, hwaits⟩ := hwaits a List.mem_cons_self listener hlistener
      rw [List.filterMap_cons_some hlistener, List.map_cons, List.filterMap_cons_some hslot,
        List.filterMap_cons_some hwaits]
      exact hrest.cons_cons _

end World

/-- **The line of wrappers and its listeners.** Wrappers are put over the stream of an active
exchange, in calls that other wrappers may be put over it before, between, after and inside of. Then
following what they report to wrap from the stream that is attached now one meets all of them, each
once and the latest first, before the stream that was attached at first.

When the outcome is told to the stream of the exchange, it passes the same line: the listeners that
wait are told it one after the other, those that were added among them, the latest first, and
whatever they do, panics included; each of them is told this result. Then the stream that was
attached at first is told, and if it is one of the transport, the transport learns the same result.
After that no slot of the line holds a listener, and no other outcome is told to the exchange.

The slots of the streams are their own in all these runs; that the transport does not give the
stream to another exchange as well is what is left to assume (`World.Spares`). -/
theorem outcome_passes_wrappers {w v : World κ ε} (hw : ReachableOf Craft.tidy w) {e : ExchangeRef}
    (hactive : (w.activeFor? e).isSome = true) (hactive' : (v.activeFor? e).isSome = true)
    {attached : Stream} (hattached : w.channel.stream = some attached)
    {added : List (Addition κ)} (hadds : w.Adds e added v) :
    (∃ stream above, v.channel.stream = some stream ∧ stream.chain = above ++ attached.chain ∧
      (added.map (·.wrapper)).Sublist above ∧ stream.chain.Nodup) ∧
    ∀ {host : Host κ ε} {depth : Nat} {last : Stream} {result : Result} {z : World κ ε},
      SurroundingsOf Craft.tidy depth host → host.Forwards → v.Delivers host e last result z →
      (Engine.tell host e last result z).2.Spares e last.slots →
      ∃ above t, last.chain = above ++ attached.chain ∧
        (added.map (·.wrapper)).Sublist above ∧
        (added.filterMap (·.listener)).Sublist (z.waiting (above.filterMap Stream.slot?)) ∧
        host.Announces result attached last (z.note (.outcome e last result))
          (z.waiting (above.filterMap Stream.slot?)) t ∧
        Engine.tell host e last result z = attached.tell host result t ∧
        (∀ ref, attached = .transport ref →
          Engine.tell host e last result z = host.transport.learn ref result t) ∧
        ∀ u, (Engine.tell host e last result z).2.Later u →
          (u.history e).countP Deed.isOutcome = 1 ∧
          ∀ slot ∈ above.filterMap Stream.slot?, u.listener? slot = none := by
  have hpossible := hw.possible
  have hlater := hadds.later_of_added
  have hv := hlater.possible hpossible
  have htidy := hlater.tidy hw.tidy
  obtain ⟨stream, hstream, hholds⟩ := hadds.holds hpossible hactive hactive' hattached
  refine ⟨?_, ?_⟩
  · obtain ⟨-, above, hchain, hline⟩ := hholds
    exact ⟨stream, above, hstream, hchain, hline, stream.nodup_chain⟩
  · intro host depth last result z hh hforwards hdelivers hspares
    have hanswers := hh.minding.answers
    have hown := hdelivers.ownSlots htidy
    -- the line of the stream that is told is the one of now with more in front of it
    have hover := hdelivers.last_over hanswers hv hactive' hstream
    obtain ⟨hover', above, hchain, hline⟩ := (Stream.Holds.of_over hover).trans hholds
    have htell := Engine.tell_run host e last result z
    have hprivate := hdelivers.isPrivate hanswers hv htidy hspares
    have hended := hdelivers.ended
    rw [htell] at hprivate hended
    obtain ⟨above', t, hannounced⟩ := Stream.announced hanswers hforwards hover' hprivate hended
    have hsame : above' = above :=
      List.append_cancel_right (hannounced.chain.symm.trans hchain)
    subst hsame
    have hpassed : Engine.tell host e last result z = attached.tell host result t := by
      rw [htell]
      exact hannounced.announces.tell_eq
    refine ⟨above', t, hchain, hline, ?_, hannounced.announces, hpassed, ?_, fun u hu => ⟨?_, ?_⟩⟩
    · refine World.sublist_waiting hline fun a ha listener hlistener => ?_
      obtain ⟨slot, u, hslot, hwaits, hheeds⟩ :=
        hadds.enlisted hpossible hactive hactive' hattached ha hlistener
      have hmem : slot ∈ above'.filterMap Stream.slot? := by
        have hwrapper := hline.subset (List.mem_map_of_mem ha)
        exact List.mem_filterMap.2 ⟨_, hwrapper, hslot⟩
      have hlast := hannounced.slots_subset hmem
      exact ⟨slot, hslot, hdelivers.listener?_eq hanswers hv hspares hlast hheeds hwaits⟩
    · rintro ref rfl
      rw [hpassed, Stream.tell_transport]
    · exact hu.count (hdelivers.later.possible hv) (hdelivers.told hanswers hv)
    · intro slot hslot
      have hnone := hannounced.vacated hanswers hown.made hslot
      have hlt := hown.made slot (hannounced.slots_subset hslot)
      have hafter := last.minds_tell hanswers result (z.note (.outcome e last result))
      rw [← htell] at hnone hafter
      exact hu.heeds.listener?_eq_none (Nat.lt_of_lt_of_le hlt hafter.size) hnone

/-- A request arrives and is handled. -/
def handled : Engine Nat Unit Unit := do
  let _ ← Channel.setStream (.transport ⟨0⟩)
  let _ ← Channel.onRequest (Host.idle 2) .bare
  Job.perform (Host.idle 2) (.dispatch ⟨0⟩)

theorem permitted_handled : PermittedOf Craft.tidy handled := by
  have hidle : ∃ depth, SurroundingsOf Craft.tidy depth (Host.idle 2 : Host Nat Unit) :=
    ⟨2, surroundingsOf_idle _ 2⟩
  exact .bind (.attachPure (Craft.tidy_pure rfl)) fun _ => .bind (.onRequest _ hidle) fun _ =>
    .perform _ hidle

/-- Code that makes a wrapper, and adds a listener while the stream is still bare. -/
def interrupted (stream : Stream) : Engine Nat Unit Stream := do
  if stream.wrapped?.isNone then
    let _ ← ExchangeRef.addCompletionListener (Host.idle 2) ⟨0⟩ (.code 1)
  return .decorated (← Engine.newStream) true stream

theorem permitted_interrupted (stream : Stream) : PermittedOf Craft.tidy (interrupted stream) := by
  have hidle : ∃ depth, SurroundingsOf Craft.tidy depth (Host.idle 2 : Host Nat Unit) :=
    ⟨2, surroundingsOf_idle _ 2⟩
  have hmade : PermittedOf (κ := Nat) (ε := Unit) Craft.tidy do
      return Stream.decorated (← Engine.newStream) true stream :=
    .bind .newStream fun _ => .pure _
  unfold interrupted
  split
  · exact .bind (.addCompletionListener _ _ hidle) fun _ => hmade
  · exact hmade

theorem tidy_interrupted (stream : Stream) : Craft.tidy (some stream) (interrupted stream) := by
  refine Craft.tidy_of_bare (permitted_interrupted stream).minding (fun w wrapper hdone => ?_) stream
  obtain ⟨w', hrun⟩ : ∃ w', interrupted stream w = (.done wrapper, w') := ⟨_, Prod.ext hdone rfl⟩
  unfold interrupted at hrun
  split at hrun
  · obtain ⟨-, w₁, -, hrun⟩ := Effect.bind_eq_done.1 hrun
    obtain ⟨ref, w₂, -, hrun⟩ := Effect.bind_eq_done.1 hrun
    cases hrun
    exact ⟨ref, true, stream, rfl⟩
  · obtain ⟨ref, w₂, -, hrun⟩ := Effect.bind_eq_done.1 hrun
    cases hrun
    exact ⟨ref, true, stream, rfl⟩

theorem Host.forwards_idle (depth : Nat) : (Host.idle depth : Host κ ε).Forwards := by
  intro ref result w p hpanicked
  cases depth <;> cases hpanicked

/-- A listener is added while a wrapper is made, so the wrapper is made once more, and another
listener is added afterwards. When the exchange succeeds, the outcome comes to the two listeners and
then to the transport. -/
theorem outcome_passes_wrappers_retried :
    let w := World.afterNumbered handled
    let v := (ExchangeRef.addCompletionListener (Host.idle 2) ⟨0⟩ (.code 2)
      (Channel.wrapStream (Host.idle 2) interrupted w).2).2
    let z := (ExchangeRef.succeed (Host.idle 2) ⟨0⟩ v).2.answer ⟨0⟩ ⟨0⟩ (.ok ())
    let inner : Stream := .listening ⟨0⟩ ⟨0⟩ (.transport ⟨0⟩)
    let middle : Stream := .decorated ⟨2⟩ true inner
    let outer : Stream := .listening ⟨3⟩ ⟨1⟩ middle
    (∃ stream above, v.channel.stream = some stream ∧
      stream.chain = above ++ [.transport ⟨0⟩] ∧ [outer, middle, inner].Sublist above ∧
      stream.chain.Nodup) ∧
    ∃ above t, outer.chain = above ++ [.transport ⟨0⟩] ∧
      [Callback.code 2, .code 1].Sublist (z.waiting (above.filterMap Stream.slot?)) ∧
      (Host.idle 2).Announces (.ok ()) (.transport ⟨0⟩) outer
        (z.note (.outcome ⟨0⟩ outer (.ok ()))) (z.waiting (above.filterMap Stream.slot?)) t ∧
      Engine.tell (Host.idle 2) ⟨0⟩ outer (.ok ()) z =
        (Host.idle 2).transport.succeeded ⟨0⟩ t := by
  intro w v z inner middle outer
  let wrapped := (Channel.wrapStream (Host.idle 2) interrupted w).2
  let listened := (ExchangeRef.addCompletionListener (Host.idle 2) ⟨0⟩ (.code 1) w).2
  let remade := (interrupted inner (Engine.newStream listened).2).2
  have hidle : ∃ depth, SurroundingsOf Craft.tidy depth (Host.idle 2 : Host Nat Unit) :=
    ⟨2, surroundingsOf_idle _ 2⟩
  have hw : ReachableOf Craft.tidy w := .intro _ _ _ _ _ permitted_handled
  -- the calls, and what they leave
  have hlistened : (ExchangeRef.addCompletionListener (Host.idle 2) ⟨0⟩ (.code 1) w).1 =
      .done (.ok ()) := by decide +kernel
  have hwrapped : (Channel.wrapStream (Host.idle 2) interrupted w).1 = .done (.ok ()) := by
    decide +kernel
  have hadded : (ExchangeRef.addCompletionListener (Host.idle 2) ⟨0⟩ (.code 2) wrapped).1 =
      .done (.ok ()) := by decide +kernel
  have hinner : listened.channel.stream = some inner := by decide +kernel
  have hremade : remade.channel.stream = some inner := by decide +kernel
  have houter : v.channel.stream = some outer := by decide +kernel
  have hlater : listened.Later remade := .trans (World.later_of_permitted .newStream listened)
    (World.later_of_permitted (permitted_interrupted inner) _)
  have hfirst : w.Adds ⟨0⟩ [⟨inner, some (.code 1)⟩] remade :=
    .trans (.listener (.code 1) hidle (Prod.ext hlistened rfl) hinner) (.later hlater)
  have haround : w.Adds ⟨0⟩ [⟨middle, none⟩, ⟨inner, some (.code 1)⟩] wrapped :=
    .around hidle permitted_interrupted tidy_interrupted (Prod.ext hwrapped rfl) hfirst hremade rfl
      rfl
  have hadds : w.Adds ⟨0⟩ [⟨outer, some (.code 2)⟩, ⟨middle, none⟩, ⟨inner, some (.code 1)⟩] v :=
    .trans haround (.listener (.code 2) hidle (Prod.ext hadded rfl) houter)
  have hactive : (w.activeFor? ⟨0⟩).isSome = true := by decide +kernel
  have hactive' : (v.activeFor? ⟨0⟩).isSome = true := by decide +kernel
  have hattached : w.channel.stream = some (.transport ⟨0⟩) := by decide +kernel
  obtain ⟨hline, htold⟩ := outcome_passes_wrappers hw hactive hactive' hattached hadds
  have hv := hadds.later_of_added.possible hw.possible
  -- the outcome is told when the last frame was sent
  have hsend : (ExchangeRef.succeed (Host.idle 2) ⟨0⟩ v).2.sendCallback? ⟨0⟩ =
      some (.finalFrame ⟨0⟩ outer) := by decide +kernel
  have hended : (SendRef.complete (Host.idle 2) ⟨0⟩ (.ok ())
      (ExchangeRef.succeed (Host.idle 2) ⟨0⟩ v).2).1 = .done () := by decide +kernel
  have hsucceeded : v.Later (ExchangeRef.succeed (Host.idle 2) ⟨0⟩ v).2 :=
    World.later_of_permitted (.succeed ⟨0⟩ hidle) v
  have hdelivers : v.Delivers (Host.idle 2) ⟨0⟩ outer (.ok ()) z :=
    .of_finalFrame (surroundingsOf_idle _ 2) hv hsucceeded hsend (by rw [hended]; nofun)
  have hspares : (Engine.tell (Host.idle 2) ⟨0⟩ outer (.ok ()) z).2.Spares ⟨0⟩ outer.slots := by
    have hsole : ∀ d ∈ (Engine.tell (Host.idle 2) ⟨0⟩ outer (.ok ()) z).2.outcomes,
        d.exchange? = some ⟨0⟩ := by decide +kernel
    exact fun d hd hother => absurd (hsole d hd) hother
  obtain ⟨above, t, hchain, -, hwaiting, hannounces, -, hlearns, -⟩ :=
    htold (surroundingsOf_idle _ 2) (Host.forwards_idle 2) hdelivers hspares
  exact ⟨hline, above, t, hchain, hwaiting, hannounces, hlearns ⟨0⟩ rfl⟩

end HttpExchange
