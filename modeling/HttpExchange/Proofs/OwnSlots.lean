import HttpExchange.Proofs.Minding

/-!
# The slots of a stream are its own

A listener waits in a slot, and a wrapper of the stream holds the slot. Whoever adds a completion
listener gets a slot made for it, and the tries to put the wrapper over the stream share that slot
until one of them succeeds. If a slot came to be that of two wrappers of one line, the outer one would
take the listener of the inner one, and tell it out of turn; if it was made after the stream was told
the outcome, somebody else could be told in its place. `Stream.OwnSlots` excludes both: the slots of
a stream are there, and none of them occurs twice.

The engine cannot see to that alone, because code around it makes streams too. But such code has no
way to give a slot to a second wrapper: it makes a wrapper together with its slot
(`Craft.tidy_withListener`), or one that holds none (`Craft.tidy_of_bare`). `Craft.tidy` is what there is
to ask of it, that a wrapper which it makes of a stream with slots of its own has slots of its own
again. Then all streams that are attached to the channel, and all that exchanges ended with, have
slots of their own in every state that is reached (`ReachableOf.tidy`).

As a property of computations that is pervasive (`KeepsTidy.pervasive`), so it is enough to look at
the calls that have to do with streams: the two that wrap the attached one are the only ones where
something is to be shown.
-/

namespace HttpExchange

variable {κ ε α β : Type}

open World

/-- The slots of a stream are there, each for one of its wrappers. -/
structure Stream.OwnSlots (stream : Stream) (w : World κ ε) : Prop where
  made : ∀ slot ∈ stream.slots, slot.index < w.slots.size
  nodup : stream.slots.Nodup

/-- Streams are made with slots of their own. A wrapper has to be like that only if it was made of a
stream that has such slots, and wraps it: what wraps something else is not taken. -/
def Craft.tidy : Craft κ ε := fun given m => ∀ (w : World κ ε) (stream : Stream),
  (∀ inner, given = some inner → inner.OwnSlots w ∧ stream.wrapped? = some inner) →
    (m w).1 = .done stream → stream.OwnSlots (m w).2

namespace Stream.OwnSlots

variable {stream inner : Stream} {w w' : World κ ε}

/-- Slots stay there. -/
theorem mono (h : stream.OwnSlots w) (hsize : w.slots.size ≤ w'.slots.size) :
    stream.OwnSlots w' :=
  ⟨fun slot hslot => Nat.lt_of_lt_of_le (h.made slot hslot) hsize, h.nodup⟩

/-- A stream without listeners has no slots. -/
theorem of_slots_eq_nil (h : stream.slots = []) : stream.OwnSlots w :=
  ⟨by rw [h]; exact nofun, by rw [h]; exact List.nodup_nil⟩

/-- A wrapper without a listener has the slots of the stream that it wraps. -/
theorem decorated (h : inner.OwnSlots w) (ref : StreamRef) (reported : Bool) :
    (Stream.decorated ref reported inner).OwnSlots w := ⟨h.made, h.nodup⟩

/-- A wrapper with a listener has one more. -/
theorem listening (h : inner.OwnSlots w) (ref : StreamRef) {slot : SlotRef}
    (hmade : slot.index < w.slots.size) (hnew : slot ∉ inner.slots) :
    (Stream.listening ref slot inner).OwnSlots w := by
  refine ⟨fun other hother => ?_, List.nodup_cons.2 ⟨hnew, h.nodup⟩⟩
  rcases List.mem_cons.1 hother with rfl | hother
  · exact hmade
  · exact h.made other hother

/-- A slot that is made now is not one of the stream. -/
theorem new_notMem (h : inner.OwnSlots w) : (⟨w.slots.size⟩ : SlotRef) ∉ inner.slots :=
  fun hmem => Nat.lt_irrefl _ (h.made _ hmem)

end Stream.OwnSlots

/-- Wrapping a stream with a listener is tidy. -/
theorem Craft.tidy_withListener (stream : Stream) (listener : Callback κ) :
    (Craft.tidy : Craft κ ε) (some stream) (stream.withListener listener) := by
  intro w wrapper hgiven hmade
  obtain ⟨hinner, -⟩ := hgiven stream rfl
  cases hmade
  have hsize : (w.slots.push (some listener)).size = w.slots.size + 1 := Array.size_push _
  have hgrown : w.slots.size ≤ (w.slots.push (some listener)).size := by omega
  have hkept : stream.OwnSlots (stream.withListener listener w).2 := hinner.mono hgrown
  refine hkept.listening _ ?_ hinner.new_notMem
  show w.slots.size < (w.slots.push (some listener)).size
  omega

/-- Attaching a stream without listeners is tidy. -/
theorem Craft.tidy_pure {stream : Stream} (h : stream.slots = []) :
    (Craft.tidy : Craft κ ε) none (pure stream) := by
  intro w made _ hmade
  cases hmade
  exact .of_slots_eq_nil h

/-- Code that puts no listener into a stream makes its wrappers tidily. -/
theorem Craft.tidy_of_bare {m : Engine κ ε Stream} (hm : Minding m)
    (hbare : ∀ (w : World κ ε) (stream : Stream), (m w).1 = .done stream →
      ∃ ref reported inner, stream = .decorated ref reported inner)
    (given : Stream) : (Craft.tidy : Craft κ ε) (some given) m := by
  intro w stream hgiven hmade
  obtain ⟨hown, hwraps⟩ := hgiven given rfl
  obtain ⟨ref, reported, inner, rfl⟩ := hbare w stream hmade
  cases reported with
  | true =>
    cases hwraps
    exact (hown.mono (hm w).size).decorated ref true
  | false => cases hwraps

namespace World

/-- The streams that the engine has to do with have slots of their own. -/
structure Tidy (w : World κ ε) : Prop where
  attached : ∀ stream, w.channel.stream = some stream → stream.OwnSlots w
  parted : ∀ e stream cause, .ended e (some stream) cause ∈ w.deeds → stream.OwnSlots w

variable {w w' : World κ ε}

theorem tidy_start (channel : Channel κ) (hstream : channel.stream = none) (outside : ε) :
    (start channel outside).Tidy := by
  refine ⟨fun stream hattached => ?_, nofun⟩
  have hnone : (start channel outside).channel.stream = none := hstream
  cases hnone.symm.trans hattached

namespace Tidy

/-- Nothing happened but that slots were made, or emptied. -/
theorem of_size_le (h : w.Tidy) (hstream : w'.channel.stream = w.channel.stream)
    (hsize : w.slots.size ≤ w'.slots.size)
    (hdeeds : ∀ e stream cause, .ended e stream cause ∈ w'.deeds →
      Deed.ended e stream cause ∈ w.deeds) : w'.Tidy where
  attached stream hattached := (h.attached stream (hstream ▸ hattached)).mono hsize
  parted e stream cause hended := (h.parted e stream cause (hdeeds _ _ _ hended)).mono hsize

theorem of_wrapping_eq (h : w.Tidy) (heq : w'.wrapping = w.wrapping) : w'.Tidy := by
  obtain ⟨hstream, hrest⟩ := Prod.ext_iff.1 heq
  obtain ⟨hslots, hdeeds⟩ := Prod.ext_iff.1 hrest
  change w'.deeds.filter Deed.isParting = w.deeds.filter Deed.isParting at hdeeds
  refine h.of_size_le hstream (Nat.le_of_eq (congrArg Array.size hslots.symm)) ?_
  intro e stream cause hended
  have hmem : Deed.ended e stream cause ∈ w'.deeds.filter Deed.isParting :=
    List.mem_filter.2 ⟨hended, rfl⟩
  rw [hdeeds] at hmem
  exact (List.mem_filter.1 hmem).1

/-- A stream with slots of its own may be attached. -/
theorem replaceStream (h : w.Tidy) {stream : Stream} (hown : stream.OwnSlots w) :
    (w.modifyChannel fun c => { c with stream := some stream }).Tidy where
  attached other hattached := by
    cases hattached
    exact ⟨hown.made, hown.nodup⟩
  parted e other cause hended := ⟨(h.parted e other cause hended).made,
    (h.parted e other cause hended).nodup⟩

end Tidy

end World

/-- A computation after which streams have slots of their own if they had before. -/
def KeepsTidy (m : Engine κ ε α) : Prop := ∀ w : World κ ε, w.Tidy → (m w).2.Tidy

namespace KeepsTidy

theorem bind {m : Engine κ ε α} {f : α → Engine κ ε β} (hm : KeepsTidy m)
    (hf : ∀ a, KeepsTidy (f a)) : KeepsTidy (m >>= f) := by
  intro w hw
  have h := hm w hw
  rw [Effect.bind_run]
  rcases hmw : m w with ⟨a | _ | _, w₁⟩ <;> rw [hmw] at h
  · exact hf a w₁ h
  · exact h
  · exact h

theorem attempt {m : Engine κ ε α} (hm : KeepsTidy m) : KeepsTidy (Effect.attempt m) := by
  intro w hw
  rw [Effect.snd_attempt]
  exact hm w hw

theorem still {m : Engine κ ε α} (h : ∀ w, (m w).2.wrapping = w.wrapping) : KeepsTidy m :=
  fun w hw => hw.of_wrapping_eq (h w)

theorem sequential : Sequential (P := fun _ (m : Engine κ ε _) => KeepsTidy m) where
  pure _ := .still fun _ => rfl
  bind := .bind
  attempt := .attempt
  gets _ := .still fun _ => rfl
  tell p state := .still fun w => by
    show (w.tell p state).wrapping = w.wrapping
    unfold World.tell
    split <;> rfl

theorem newSlot (listener : Callback κ) : KeepsTidy (SlotRef.new listener : Engine κ ε SlotRef) := by
  refine fun w hw => hw.of_size_le rfl ?_ fun _ _ _ => id
  show w.slots.size ≤ (w.slots.push (some listener)).size
  simp

/-- Attaching a stream that is made tidily. -/
theorem attach {m : Engine κ ε Stream} (hm : KeepsTidy m) (hmakes : Craft.tidy none m) :
    KeepsTidy (m >>= fun stream => Channel.setStream stream) := by
  intro w hw
  have h := hm w hw
  have hown := hmakes w
  rw [Effect.bind_run]
  rcases hmw : m w with ⟨stream | _ | _, w₁⟩ <;> rw [hmw] at h hown
  · have hset : Channel.setStream stream w₁ =
        if w₁.channel.stream.isSome then (.done (.error .streamSet), w₁)
        else (.done (.ok ()), (w₁.modifyChannel fun c => { c with stream := some stream }).note
          (.attached stream)) := by
      refine (Effect.bind_of_done rfl).trans ?_
      split <;> rfl
    show (Channel.setStream stream w₁).2.Tidy
    rw [hset]
    split
    · exact h
    · exact (h.replaceStream (hown stream nofun rfl)).of_wrapping_eq rfl
  · exact h
  · exact h

/-- The attached stream is wrapped, in states with `I` at the beginning of every round: there a tidy
wrapper is made of it, after which there is `I` again. -/
theorem wrapStreamWithin {I : World κ ε → Prop} {transform : Stream → Engine κ ε Stream}
    (hI : ∀ w, I w → w.Tidy)
    (ht : ∀ w stream, I w → w.channel.stream = some stream → I (transform stream w).2 ∧
      ∀ wrapper, (transform stream w).1 = .done wrapper → wrapper.wrapped? = some stream →
        wrapper.OwnSlots (transform stream w).2)
    (rounds : Nat) {w : World κ ε} (hw : I w) :
    (Channel.wrapStreamWithin transform rounds w).2.Tidy := by
  induction rounds generalizing w with
  | zero => exact hI w hw
  | succ rounds ih =>
    simp only [Channel.wrapStreamWithin, Effect.bind_run, Effect.gets]
    cases hstream : w.channel.stream with
    | none => exact hI w hw
    | some current =>
      obtain ⟨hkept, hmade⟩ := ht w current hw hstream
      simp only [Effect.bind_run]
      rcases hrun : transform current w with ⟨wrapper | _ | _, w₁⟩ <;> rw [hrun] at hkept hmade
      · dsimp only
        split
        · exact hI w₁ hkept
        next hwraps =>
          simp only [Effect.bind_run, Effect.gets]
          cases hafter : w₁.channel.stream with
          | none => exact hI w₁ hkept
          | some active =>
            dsimp only
            split
            · exact (hI w₁ hkept).replaceStream (hmade wrapper rfl (not_not.1 hwraps))
            · exact ih hkept
      · exact hI w₁ hkept
      · exact hI w₁ hkept

/-- A listener that is added gets a slot that no stream has. -/
theorem addCompletionListener (host : Host κ ε) (e : ExchangeRef) (listener : Callback κ) :
    KeepsTidy (e.addCompletionListener host listener) := by
  refine bind (sequential.gets _) fun active => ?_
  split
  · exact sequential.pure _
  · intro w hw
    have hgrown := newSlot listener w hw
    have hsize : (w.slots.push (some listener)).size = w.slots.size + 1 := Array.size_push _
    refine wrapStreamWithin (I := fun w' => w'.Tidy ∧ w.slots.size < w'.slots.size ∧
      ∀ stream, w'.channel.stream = some stream → ⟨w.slots.size⟩ ∉ stream.slots)
      (fun _ h => h.1) (fun w' stream h hstream => ?_) _ ⟨hgrown, ?_, fun stream hstream => ?_⟩
    · obtain ⟨htidy, hlt, hnew⟩ := h
      refine ⟨⟨htidy.of_wrapping_eq rfl, hlt, hnew⟩, fun wrapper hwrapper _ => ?_⟩
      cases hwrapper
      have hown : stream.OwnSlots (stream.listen ⟨w.slots.size⟩ w').2 :=
        (htidy.attached stream hstream).mono (Nat.le_refl _)
      exact hown.listening _ hlt (hnew stream hstream)
    · show w.slots.size < (w.slots.push (some listener)).size
      omega
    · exact (hw.attached stream hstream).new_notMem

/-- An exchange ends with the stream that is attached. -/
theorem detach (e : ExchangeRef) (cause : Option FailureRef) :
    KeepsTidy (Engine.detach e cause : Engine κ ε Unit) := by
  intro w hw
  have hdeeds : (Engine.detach e cause w).2.deeds = .ended e w.channel.stream cause :: w.deeds := rfl
  have hsize : w.slots.size ≤ (Engine.detach e cause w).2.slots.size := Nat.le_refl _
  refine ⟨nofun, fun e' stream cause' hended => ?_⟩
  rw [hdeeds] at hended
  rcases List.mem_cons.1 hended with heq | hended
  · exact (hw.attached stream (Deed.ended.inj heq).2.1.symm).mono hsize
  · exact (hw.parted e' stream cause' hended).mono hsize

theorem notify {host : Host κ ε} (hh : host.Answers fun _ m => KeepsTidy m) (slot : SlotRef)
    (result : Result) : KeepsTidy (slot.notify host result) := by
  refine bind (fun w hw => hw.of_size_le rfl ?_ fun _ _ _ => id) fun listener => ?_
  · exact Nat.le_of_eq Array.size_modify.symm
  · cases listener with
    | none => exact sequential.pure ()
    | some listener =>
      exact bind (attempt (sequential.complete hh listener result)) fun _ => sequential.pure ()

/-- Telling a stream the outcome empties slots, but they stay there. -/
theorem tell {host : Host κ ε} (hh : host.Answers fun _ m => KeepsTidy m) (e : ExchangeRef)
    (stream : Stream) (result : Result) : KeepsTidy (Engine.tell host e stream result) := by
  intro w hw
  rw [Engine.tell_run]
  have hnoted : (w.note (.outcome e stream result)).Tidy := by
    refine hw.of_size_le rfl (Nat.le_refl _) fun e' stream' cause hended => ?_
    rcases List.mem_cons.1 hended with heq | hended
    · cases result <;> cases heq
    · exact hended
  have hstream : KeepsTidy (stream.tell host result) := by
    clear hnoted
    induction stream with
    | transport ref =>
      cases result with
      | ok _ => exact hh.succeeded ref
      | error cause => exact hh.failed ref cause
    | listening ref slot inner ih =>
      rw [Stream.tell_listening]
      exact bind (notify hh slot result) fun _ => ih
    | decorated ref reported inner ih =>
      rw [Stream.tell_decorated]
      exact bind (hh.observe ref _) fun _ => ih
  exact hstream _ hnoted

/-- Keeping the slots of streams their own is pervasive, if streams are made tidily. -/
theorem pervasive : Pervasive Craft.tidy fun _ (m : Engine κ ε _) => KeepsTidy m where
  bind := .bind
  attempt := .attempt
  still := .still
  newSlot := newSlot
  attach := attach
  wrapStream _ _ ht hmakes := by
    refine fun w hw => wrapStreamWithin (fun _ => id) (fun w stream h hstream => ?_) _ hw
    refine ⟨ht stream w h, fun wrapper hdone hwraps => ?_⟩
    refine hmakes stream w wrapper (fun inner heq => ?_) hdone
    cases heq
    exact ⟨h.attached stream hstream, hwraps⟩
  addCompletionListener := addCompletionListener
  detach := detach
  tell := tell

end KeepsTidy

/-- In every state that is reached by code that makes streams tidily, they have slots of their own. -/
theorem ReachableOf.tidy {w : World κ ε} (h : ReachableOf Craft.tidy w) : w.Tidy := by
  cases h with
  | intro id version config persistent outside permitted =>
    exact KeepsTidy.pervasive.permitted permitted _ (tidy_start _ rfl outside)

end HttpExchange
