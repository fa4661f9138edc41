import HttpExchange.Proofs.Outcome

/-!
# Listeners that wait in their slots

A listener for the outcome of an exchange waits in a slot, which a wrapper of the stream holds, and
it is taken out of the slot to be told. `World.Minds` is the footprint of a computation on the slots:
listeners stay where they are, unless their slots are those of a stream that was told an outcome
meanwhile, and nobody comes into a slot that is there.

A computation minds the listeners (`Minding`) if that is its footprint from every state; what does
not touch the slots does, and sequences do whose parts do. Telling a stream an outcome empties its
slots, and no others but those of streams that the code of the listeners has told. `World.Heeds` is
what that comes to between two moments of a run, where a stream that was told before may still have
listeners to tell.
-/

namespace HttpExchange

variable {κ ε α β : Type}

/-- The slots of the listening wrappers that a stream is made of, outermost first. -/
def Stream.slots : Stream → List SlotRef
  | transport _ => []
  | listening _ slot inner => slot :: inner.slots
  | decorated _ _ inner => inner.slots

/-- Tells a stream how its exchange ended. -/
def Stream.tell (host : Host κ ε) (stream : Stream) : Result → Engine κ ε Unit
  | .ok () => stream.succeeded host
  | .error cause => stream.failed host cause

/-- What is told to a stream when its exchange ended with a result. -/
def Deed.outcome (e : ExchangeRef) (stream : Stream) : Result → Deed κ
  | .ok () => succeeded e stream
  | .error cause => failed e stream cause

/-- Has the engine tell the stream of an exchange how that ended. -/
def Engine.tell (host : Host κ ε) (e : ExchangeRef) (stream : Stream) : Result → Engine κ ε Unit
  | .ok () => tellSucceeded host e stream
  | .error cause => tellFailed host e stream cause

/-- The engine notes the outcome, and then tells the stream. -/
theorem Engine.tell_run (host : Host κ ε) (e : ExchangeRef) (stream : Stream) (result : Result)
    (w : World κ ε) : tell host e stream result w =
      stream.tell host result (w.note (.outcome e stream result)) := by
  cases result <;> rfl

/-- The slots of a stream that was told an outcome. -/
def Deed.slots (d : Deed κ) : List SlotRef := d.told?.toList.flatMap Stream.slots

@[simp] theorem Deed.told?_outcome (e : ExchangeRef) (stream : Stream) (result : Result) :
    (Deed.outcome (κ := κ) e stream result).told? = some stream := by
  cases result <;> rfl

@[simp] theorem Deed.isOutcome_outcome (e : ExchangeRef) (stream : Stream) (result : Result) :
    (Deed.outcome (κ := κ) e stream result).isOutcome = true := by
  cases result <;> rfl

@[simp] theorem Deed.exchange?_outcome (e : ExchangeRef) (stream : Stream) (result : Result) :
    (Deed.outcome (κ := κ) e stream result).exchange? = some e := by
  cases result <;> rfl

@[simp] theorem Deed.slots_outcome (e : ExchangeRef) (stream : Stream) (result : Result) :
    (Deed.outcome (κ := κ) e stream result).slots = stream.slots := by
  simp [slots]

namespace World

/-- The outcomes that streams were told, latest first. -/
def outcomes (w : World κ ε) : List (Deed κ) := w.deeds.filter Deed.isOutcome

/-- The listener that waits in a slot. -/
def listener? (w : World κ ε) (slot : SlotRef) : Option (Callback κ) := (w.slots[slot.index]?).join

/-- The listener of a slot is taken out, to be told. -/
def vacate (w : World κ ε) (slot : SlotRef) : World κ ε :=
  { w with slots := w.slots.modify slot.index fun _ => none }

/-- The part of the state that listeners of streams have to do with. -/
def hearing (w : World κ ε) : Array (Option (Callback κ)) × List (Deed κ) := (w.slots, w.outcomes)

/-- No listener left its slot, unless that is one of these or one of a stream that was told an
outcome meanwhile; and nobody came into a slot that was there. -/
structure Minds (own : List SlotRef) (w w' : World κ ε) : Prop where
  size : w.slots.size ≤ w'.slots.size
  kept : ∃ late, w'.outcomes = late ++ w.outcomes ∧ ∀ slot : SlotRef, slot.index < w.slots.size →
    w'.listener? slot = w.listener? slot ∨
      w'.listener? slot = none ∧ (slot ∈ own ∨ slot ∈ late.flatMap Deed.slots)

variable {own other : List SlotRef} {w w₁ w' : World κ ε} {slot : SlotRef}

/-- Nobody waits in a slot that was emptied. -/
theorem listener?_vacate_self (w : World κ ε) (slot : SlotRef) :
    (w.vacate slot).listener? slot = none := by
  simp only [listener?, vacate, Array.getElem?_modify, if_pos]
  cases w.slots[slot.index]? <;> rfl

/-- The others wait on. -/
theorem listener?_vacate_of_ne {other : SlotRef} (h : other ≠ slot) (w : World κ ε) :
    (w.vacate slot).listener? other = w.listener? other := by
  have hindex : slot.index ≠ other.index := by
    intro heq
    cases slot
    cases other
    exact h (congrArg SlotRef.mk heq.symm)
  simp only [listener?, vacate, Array.getElem?_modify, if_neg hindex]

/-- Who waits does so in a slot that is there. -/
theorem index_lt_of_listener {listener : Callback κ} (h : w.listener? slot = some listener) :
    slot.index < w.slots.size := by
  unfold listener? at h
  by_contra hge
  rw [Array.getElem?_eq_none (Nat.not_lt.1 hge)] at h
  cases h

namespace Minds

/-- Where slots and outcomes are as they were, listeners are minded. -/
theorem of_hearing_eq (h : w'.hearing = w.hearing) : w.Minds own w' := by
  obtain ⟨hslots, houtcomes⟩ := Prod.ext_iff.1 h
  change w'.slots = w.slots at hslots
  refine ⟨Nat.le_of_eq (congrArg Array.size hslots.symm), [], houtcomes, fun slot _ => .inl ?_⟩
  rw [listener?, hslots]
  rfl

/-- More slots may be emptied. -/
theorem mono (h : w.Minds own w') (hsub : own ⊆ other) : w.Minds other w' := by
  obtain ⟨late, houtcomes, hkept⟩ := h.kept
  refine ⟨h.size, late, houtcomes, fun slot hslot => ?_⟩
  exact (hkept slot hslot).imp_right fun ⟨hnone, hwhy⟩ => ⟨hnone, hwhy.imp_left (hsub ·)⟩

theorem trans (h : w.Minds own w₁) (h' : w₁.Minds own w') : w.Minds own w' := by
  obtain ⟨late, houtcomes, hkept⟩ := h.kept
  obtain ⟨later, houtcomes', hkept'⟩ := h'.kept
  refine ⟨Nat.le_trans h.size h'.size, later ++ late, ?_, fun slot hslot => ?_⟩
  · rw [houtcomes', houtcomes, List.append_assoc]
  · rw [List.flatMap_append]
    rcases hkept' slot (Nat.lt_of_lt_of_le hslot h.size) with hsame | ⟨hnone, hwhy⟩
    · rw [hsame]
      exact (hkept slot hslot).imp_right fun ⟨hnone, hwhy⟩ =>
        ⟨hnone, hwhy.imp_right (List.mem_append_right _ ·)⟩
    · exact .inr ⟨hnone, hwhy.imp_right (List.mem_append_left _ ·)⟩

/-- A new slot leaves the others as they are. -/
theorem enlist (w : World κ ε) (listener : Callback κ) :
    w.Minds own { w with slots := w.slots.push (some listener) } := by
  refine ⟨by simp, [], rfl, fun slot hslot => .inl ?_⟩
  simp only [listener?, Array.getElem?_push, if_neg (Nat.ne_of_lt hslot)]

/-- Emptying a slot is all that happens. -/
theorem vacate (w : World κ ε) (slot : SlotRef) : w.Minds [slot] (w.vacate slot) := by
  refine ⟨by simp [World.vacate], [], rfl, fun other _ => ?_⟩
  by_cases heq : other = slot
  · subst heq
    exact .inr ⟨w.listener?_vacate_self other, .inl List.mem_cons_self⟩
  · exact .inl (w.listener?_vacate_of_ne heq)

/-- A stream that is told an outcome has its listeners told. -/
theorem of_note {d : Deed κ} (hd : d.isOutcome = true) (h : (w.note d).Minds d.slots w') :
    w.Minds [] w' := by
  obtain ⟨late, houtcomes, hkept⟩ := h.kept
  refine ⟨h.size, late ++ [d], ?_, fun slot hslot => ?_⟩
  · rw [houtcomes, List.append_assoc, outcomes, note, List.filter_cons_of_pos hd]
    rfl
  · rcases hkept slot hslot with hsame | ⟨hnone, hown | hlate⟩
    · exact .inl hsame
    · refine .inr ⟨hnone, .inr ?_⟩
      rw [List.flatMap_append]
      exact List.mem_append_right _ (by simpa using hown)
    · refine .inr ⟨hnone, .inr ?_⟩
      rw [List.flatMap_append]
      exact List.mem_append_left _ hlate

/-- Nobody comes into a slot that is there. -/
theorem listener?_eq_none (h : w.Minds own w') (hslot : slot.index < w.slots.size)
    (hnone : w.listener? slot = none) : w'.listener? slot = none := by
  obtain ⟨late, -, hkept⟩ := h.kept
  rcases hkept slot hslot with hsame | ⟨hnone', -⟩
  · exact hsame.trans hnone
  · exact hnone'

end Minds

/-- The listeners of streams as they are seen at two moments of a run: one left his slot only if his
stream was told an outcome by then, and nobody came into a slot that was there. -/
structure Heeds (w w' : World κ ε) : Prop where
  size : w.slots.size ≤ w'.slots.size
  outcomes : w.outcomes <:+ w'.outcomes
  kept : ∀ slot : SlotRef, slot.index < w.slots.size → w'.listener? slot = w.listener? slot ∨
    w'.listener? slot = none ∧ slot ∈ w'.outcomes.flatMap Deed.slots

/-- Who left a slot did so because a stream was told. -/
theorem Minds.heeds (h : w.Minds [] w') : w.Heeds w' := by
  obtain ⟨late, houtcomes, hkept⟩ := h.kept
  refine ⟨h.size, ⟨late, houtcomes.symm⟩, fun slot hslot => ?_⟩
  refine (hkept slot hslot).imp_right fun ⟨hnone, hwhy⟩ => ⟨hnone, ?_⟩
  rw [houtcomes, List.flatMap_append]
  exact List.mem_append_left _ (hwhy.resolve_left List.not_mem_nil)

/-- It holds from moment to moment. -/
theorem Heeds.trans (h : w.Heeds w₁) (h' : w₁.Heeds w') : w.Heeds w' := by
  refine ⟨Nat.le_trans h.size h'.size, h.outcomes.trans h'.outcomes, fun slot hslot => ?_⟩
  rcases h'.kept slot (Nat.lt_of_lt_of_le hslot h.size) with hsame | hgone
  · rw [hsame]
    refine (h.kept slot hslot).imp_right fun ⟨hnone, hwhy⟩ => ⟨hnone, ?_⟩
    obtain ⟨d, hd, hslot⟩ := List.mem_flatMap.1 hwhy
    exact List.mem_flatMap.2 ⟨d, h'.outcomes.subset hd, hslot⟩
  · exact .inr hgone

/-- A slot that was emptied stays empty. -/
theorem Heeds.listener?_eq_none (h : w.Heeds w') (hslot : slot.index < w.slots.size)
    (hnone : w.listener? slot = none) : w'.listener? slot = none := by
  rcases h.kept slot hslot with hsame | ⟨hnone', -⟩
  · exact hsame.trans hnone
  · exact hnone'

end World

/-- A computation that leaves listeners in their slots, unless their stream is told an outcome. -/
def Minding (m : Engine κ ε α) : Prop := ∀ w : World κ ε, w.Minds [] (m w).2

namespace Minding

open World

/-- What has nothing to do with slots and outcomes minds the listeners. -/
theorem still {m : Engine κ ε α} (h : ∀ w, (m w).2.hearing = w.hearing) : Minding m :=
  fun w => .of_hearing_eq (h w)

theorem pure (a : α) : Minding (pure a : Engine κ ε α) := .still fun _ => rfl

theorem gets (f : World κ ε → α) : Minding (Effect.gets f) := .still fun _ => rfl

/-- The slots that the second part empties are those of streams that it has told. -/
theorem bind {m : Engine κ ε α} {f : α → Engine κ ε β} (hm : Minding m) (hf : ∀ a, Minding (f a)) :
    Minding (m >>= f) := by
  intro w
  have h := hm w
  rw [Effect.bind_run]
  rcases hmw : m w with ⟨a | _ | _, w₁⟩ <;> rw [hmw] at h
  · exact h.trans (hf a w₁)
  · exact h
  · exact h

/-- A panic that is caught has the footprint of what was done before it. -/
theorem attempt {m : Engine κ ε α} (hm : Minding m) : Minding (Effect.attempt m) := by
  intro w
  rw [Effect.snd_attempt]
  exact hm w

/-- Callbacks and the calls of streams mind the listeners if the surroundings do. -/
theorem sequential : Sequential (P := fun _ (m : Engine κ ε _) => Minding m) where
  pure := .pure
  bind := .bind
  attempt := .attempt
  gets := .gets
  tell p state := .still fun w => by
    show (w.tell p state).hearing = w.hearing
    unfold World.tell
    split <;> rfl

theorem note {d : Deed κ} (hd : d.isOutcome = false) : Minding (Engine.note d : Engine κ ε Unit) :=
  .still fun w => congrArg (w.slots, ·) (List.filter_cons_of_neg (by simp [hd]))

end Minding

variable {host : Host κ ε}

/-! ## Streams that are told an outcome -/

namespace SlotRef

variable {slot : SlotRef} {w : World κ ε}

/-- Without a listener nothing is told. -/
theorem notify_of_none (h : w.listener? slot = none) (host : Host κ ε) (result : Result) :
    slot.notify host result w = (.done (), w.vacate slot) := by
  have htaken : Effect.modifyGet (fun w : World κ ε => (w.listener? slot, w.vacate slot)) w =
      (.done none, w.vacate slot) := by
    rw [← h]
    rfl
  exact Effect.bind_of_done htaken

/-- The listener of a slot is taken out, and told; its panic is caught. -/
theorem notify_of_some {listener : Callback κ} (h : w.listener? slot = some listener)
    (host : Host κ ε) (result : Result) : slot.notify host result w =
      (Effect.attempt (listener.complete host result) >>= fun _ => pure ()) (w.vacate slot) := by
  have htaken : Effect.modifyGet (fun w : World κ ε => (w.listener? slot, w.vacate slot)) w =
      (.done (some listener), w.vacate slot) := by
    rw [← h]
    rfl
  exact Effect.bind_of_done htaken

/-- A listener that is told leaves its slot, and its code leaves the others alone. -/
theorem minds_notify (hh : host.Answers fun _ m => Minding m) (slot : SlotRef) (result : Result)
    (w : World κ ε) : w.Minds [slot] (slot.notify host result w).2 := by
  have htaken := World.Minds.vacate w slot
  cases h : w.listener? slot with
  | none =>
    rw [notify_of_none h]
    exact htaken
  | some listener =>
    have hcomplete := Minding.sequential.complete hh listener result
    have htold := hcomplete.attempt.bind fun _ => .pure ()
    rw [notify_of_some h]
    exact htaken.trans ((htold _).mono (List.nil_subset _))

end SlotRef

/-- A wrapper has its listener told, and then the stream that it wraps. -/
theorem Stream.tell_listening (host : Host κ ε) (ref : StreamRef) (slot : SlotRef) (inner : Stream)
    (result : Result) : (listening ref slot inner).tell host result = (do
      slot.notify host result
      inner.tell host result) := by
  cases result <;> rfl

/-- The call by which a wrapper sees that an outcome passes. -/
def StreamCall.outcome : Result → StreamCall
  | .ok () => succeeded
  | .error _ => failed

/-- A wrapper of the application sees the outcome pass. -/
theorem Stream.tell_decorated (host : Host κ ε) (ref : StreamRef) (reported : Bool) (inner : Stream)
    (result : Result) : (decorated ref reported inner).tell host result = (do
      host.observe ref (.outcome result)
      inner.tell host result) := by
  cases result <;> rfl

/-- A stream that is told an outcome has its own listeners told. -/
theorem Stream.minds_tell (hh : host.Answers fun _ m => Minding m) (result : Result)
    (stream : Stream) (w : World κ ε) : w.Minds stream.slots (stream.tell host result w).2 := by
  have hbind : ∀ {own : List SlotRef} {m : Engine κ ε Unit} {inner : Stream},
      (∀ w : World κ ε, w.Minds inner.slots (inner.tell host result w).2) →
      inner.slots ⊆ own → (∀ w : World κ ε, w.Minds own (m w).2) → ∀ w : World κ ε,
      w.Minds own ((m >>= fun _ => inner.tell host result) w).2 := by
    intro own m inner hinner hsub hm w
    have h := hm w
    rw [Effect.bind_run]
    rcases hmw : m w with ⟨_ | _ | _, w₁⟩ <;> rw [hmw] at h
    · exact h.trans ((hinner w₁).mono hsub)
    · exact h
    · exact h
  induction stream generalizing w with
  | transport ref =>
    cases result with
    | ok _ => exact hh.succeeded ref w
    | error cause => exact hh.failed ref cause w
  | listening ref slot inner ih =>
    rw [tell_listening]
    refine hbind ih (List.subset_cons_self _ _) (fun w => ?_) w
    exact (slot.minds_notify hh result w).mono (by simp)
  | decorated ref reported inner ih =>
    rw [tell_decorated]
    exact hbind ih (List.Subset.refl _) (fun w => (hh.observe ref _ w).mono (List.nil_subset _)) w

/-- What is told an outcome was its stream to tell. -/
theorem Engine.minding_tell (hh : host.Answers fun _ m => Minding m) (e : ExchangeRef)
    (stream : Stream) (result : Result) : Minding (tell host e stream result) := by
  intro w
  rw [tell_run]
  refine .of_note (Deed.isOutcome_outcome e stream result) ?_
  rw [Deed.slots_outcome]
  exact stream.minds_tell hh result _

end HttpExchange
