import HttpExchange.Proofs.Pervasive

/-!
# Every run minds the listeners

A listener waits in a slot until a stream whose wrapper has that slot is told how its exchange ended.
Whether it still waits, and who took it out, has to be known over whole runs: between a listener
being added and its stream being told, the application, the transport and other exchanges may have
done anything.

`Minding` says of a computation that no listener which waited before leaves its slot but that some
stream was told that has the slot. So all that has to be known about the time between is which
streams were told, which the deeds of the state say. It does not matter how the slots of streams are
made: that no two streams that are told share a slot is the subject of `Proofs.OwnSlots`.

The operations of the engine change nothing about listeners, but that they make slots for new ones
and tell streams the outcomes of their exchanges. Only these few need a proof of their own. What
leaves the streams alone leaves the listeners alone (`World.hearing_eq`), which is the case of all
others, so that minding is pervasive (`Minding.pervasive`). Everything that can run minds the
listeners (`PermittedOf.minding`), however it makes streams.
-/

namespace HttpExchange

variable {κ ε α : Type}

open World

/-- What is left alone with the streams is left alone with their listeners. -/
theorem World.hearing_eq {w w' : World κ ε} (h : w'.wrapping = w.wrapping) :
    w'.hearing = w.hearing := by
  -- an outcome is something that is said of a stream
  have houtcomes : ∀ w : World κ ε,
      w.outcomes = (w.deeds.filter Deed.isParting).filter Deed.isOutcome := by
    intro w
    rw [List.filter_filter, outcomes]
    refine List.filter_congr fun d _ => ?_
    cases d <;> rfl
  obtain ⟨-, hrest⟩ := Prod.ext_iff.1 h
  obtain ⟨hslots, hdeeds⟩ := Prod.ext_iff.1 hrest
  change w'.deeds.filter Deed.isParting = w.deeds.filter Deed.isParting at hdeeds
  refine Prod.ext hslots ?_
  show w'.outcomes = w.outcomes
  rw [houtcomes w', houtcomes w, hdeeds]

namespace Minding

/-- A stream that is attached brings its slots, and empties none. -/
theorem setStream (stream : Stream) :
    Minding (Channel.setStream stream : Engine κ ε (Except ExchangeError Unit)) := by
  refine .bind (.gets _) fun attached => ?_
  split
  · exact .pure _
  · exact .bind (.still fun _ => rfl) fun _ => .bind (.note rfl) fun _ => .pure _

/-- Neither does a wrapper that is put over it, however often it is tried. -/
theorem wrapStreamWithin {transform : Stream → Engine κ ε Stream}
    (ht : ∀ stream, Minding (transform stream)) (rounds : Nat) :
    Minding (Channel.wrapStreamWithin transform rounds) := by
  induction rounds with
  | zero => exact .still fun _ => rfl
  | succ rounds ih =>
    refine .bind (.gets _) fun before => ?_
    cases before with
    | none => exact .pure _
    | some current =>
      refine .bind (ht current) fun wrapper => ?_
      split
      · exact .pure _
      · refine .bind (.gets _) fun after => ?_
        cases after with
        | none => exact .pure _
        | some active =>
          dsimp only
          split
          · exact .bind (.still fun _ => rfl) fun _ => .pure _
          · exact ih

/-- A new slot is no slot that anybody waited in. -/
theorem newSlot (listener : Callback κ) : Minding (SlotRef.new listener : Engine κ ε SlotRef) :=
  fun w => .enlist w listener

/-- A listener that is added gets a slot of its own. -/
theorem addCompletionListener (host : Host κ ε) (e : ExchangeRef) (listener : Callback κ) :
    Minding (e.addCompletionListener host listener) := by
  refine .bind (.gets _) fun active => ?_
  split
  · exact .pure _
  · exact .bind (newSlot listener) fun slot =>
      wrapStreamWithin (fun stream => .bind (.still fun _ => rfl) fun _ => .pure _) _

/-- An exchange that is detached leaves its stream to be told. -/
theorem detach (e : ExchangeRef) (cause : Option FailureRef) :
    Minding (Engine.detach e cause : Engine κ ε Unit) :=
  .bind (.gets _) fun _ => .bind (.note rfl) fun _ => .bind (.still fun _ => rfl) fun _ =>
    .still fun _ => rfl

/-- Minding the listeners is pervasive. -/
theorem pervasive (C : Craft κ ε) : Pervasive C fun _ (m : Engine κ ε _) => Minding m where
  bind := .bind
  attempt := .attempt
  still h := .still fun w => hearing_eq (h w)
  newSlot := newSlot
  attach hm _ := .bind hm setStream
  wrapStream _ _ ht _ := wrapStreamWithin ht _
  addCompletionListener := addCompletionListener
  detach := detach
  tell := Engine.minding_tell

end Minding

/-- Surroundings of every depth mind the listeners. -/
theorem SurroundingsOf.minding {C : Craft κ ε} {depth : Nat} {host : Host κ ε}
    (h : SurroundingsOf C depth host) : host.Obeys fun _ m => Minding m :=
  (Minding.pervasive C).obeys h

/-- Whatever can run minds the listeners. -/
theorem PermittedOf.minding {C : Craft κ ε} {m : Engine κ ε α} (h : PermittedOf C m) : Minding m :=
  (Minding.pervasive C).permitted h

end HttpExchange
