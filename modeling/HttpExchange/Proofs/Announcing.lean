import HttpExchange.Proofs.Constancy
import HttpExchange.Proofs.OwnSlots
import HttpExchange.Proofs.Telling

/-!
# Telling the listeners of a stream

A stream is told an outcome from the outside to the inside: every listening wrapper takes its
listener out of the slot and has it told, then the stream that it wraps is told. `Host.Announces`
is that course of events down to a stream further inside. What a listener is told is the outcome
itself (`Engine.Tells`): its code runs with the result, or its promise gives that from then on.

The code of the listeners runs in between and may do anything, but it leaves the other listeners in
their slots, as long as no other stream with these slots is told an outcome (`World.Bypasses`). So
all that waited when the outcome came are told, each once and one after the other
(`Stream.announced`).
-/

namespace HttpExchange

variable {κ ε α : Type}

namespace Stream

/-- The streams that one meets by following what wrappers report to wrap. -/
def chain : Stream → List Stream
  | transport ref => [transport ref]
  | listening ref slot inner => listening ref slot inner :: inner.chain
  | decorated ref reported inner =>
    decorated ref reported inner :: if reported then inner.chain else []

/-- The slot of a listening wrapper. -/
def slot? : Stream → Option SlotRef
  | listening _ slot _ => some slot
  | transport _ | decorated _ _ _ => none

variable {stream inner target : Stream}

theorem chain_eq (stream : Stream) :
    stream.chain = stream :: stream.wrapped?.elim [] chain := by
  cases stream with
  | transport | listening => rfl
  | decorated _ reported _ => cases reported <;> rfl

theorem chain_of_wrapped (h : stream.wrapped? = some inner) :
    stream.chain = stream :: inner.chain := by
  rw [chain_eq, h]
  rfl

theorem sizeOf_le_of_mem_chain (h : inner ∈ stream.chain) : sizeOf inner ≤ sizeOf stream := by
  induction stream with
  | transport =>
    cases List.mem_singleton.1 h
    exact Nat.le_refl _
  | listening ref slot wrapped ih =>
    rcases List.mem_cons.1 h with rfl | h
    · exact Nat.le_refl _
    · have := ih h
      simp only [listening.sizeOf_spec]
      omega
  | decorated ref reported wrapped ih =>
    rcases List.mem_cons.1 h with rfl | h
    · exact Nat.le_refl _
    · split at h
      · have := ih h
        simp only [decorated.sizeOf_spec]
        omega
      · cases h

/-- No stream is met twice. -/
theorem nodup_chain (stream : Stream) : stream.chain.Nodup := by
  induction stream with
  | transport => exact List.pairwise_singleton _ _
  | listening ref slot inner ih =>
    refine List.nodup_cons.2 ⟨fun h => ?_, ih⟩
    have := sizeOf_le_of_mem_chain h
    simp only [listening.sizeOf_spec] at this
    omega
  | decorated ref reported inner ih =>
    cases reported with
    | true =>
      refine List.nodup_cons.2 ⟨fun h => ?_, ih⟩
      have : sizeOf _ ≤ sizeOf inner := sizeOf_le_of_mem_chain h
      simp only [decorated.sizeOf_spec] at this
      omega
    | false => exact List.pairwise_singleton _ _

/-- A stream over another one is met before it, with all that is in between. -/
theorem Over.exists_above (h : stream.Over inner) : ∃ above, stream.chain = above ++ inner.chain := by
  induction h using Relation.ReflTransGen.head_induction_on with
  | refl => exact ⟨[], rfl⟩
  | head hwrapped _ ih =>
    obtain ⟨above, habove⟩ := ih
    exact ⟨_ :: above, by rw [chain_of_wrapped hwrapped, habove]; rfl⟩

theorem slots_of_wrapped (h : stream.wrapped? = some inner) :
    stream.slots = stream.slot?.toList ++ inner.slots := by
  cases stream with
  | transport => cases h
  | listening =>
    cases h
    rfl
  | decorated ref reported _ =>
    cases reported with
    | true =>
      cases h
      rfl
    | false => cases h

end Stream

namespace World

variable {own other slots : List SlotRef} {w w₁ w' : World κ ε} {slot : SlotRef}

/-- No stream with one of these slots was told an outcome. -/
def Bypasses (slots : List SlotRef) (w w' : World κ ε) : Prop :=
  ∃ late, w'.outcomes = late ++ w.outcomes ∧ ∀ slot ∈ slots, slot ∉ late.flatMap Deed.slots

theorem Bypasses.mono (h : w.Bypasses slots w') (hsub : other ⊆ slots) : w.Bypasses other w' := by
  obtain ⟨late, houtcomes, hnew⟩ := h
  exact ⟨late, houtcomes, fun slot hslot => hnew slot (hsub hslot)⟩

/-- The same is true of what happened up to a moment in between, and of what happened after it. -/
theorem Bypasses.split (h : w.Bypasses slots w') (h₁ : w.Minds own w₁) (h₂ : w₁.Minds other w') :
    w.Bypasses slots w₁ ∧ w₁.Bypasses slots w' := by
  obtain ⟨late, houtcomes, hnew⟩ := h
  obtain ⟨early, hearly, -⟩ := h₁.kept
  obtain ⟨later, hlater, -⟩ := h₂.kept
  have hparts : late = later ++ early := by
    have hsame : late ++ w.outcomes = later ++ early ++ w.outcomes := by
      rw [← houtcomes, hlater, hearly, List.append_assoc]
    exact List.append_cancel_right hsame
  subst hparts
  simp only [List.flatMap_append, List.mem_append, not_or] at hnew
  exact ⟨⟨early, hearly, fun slot hslot => (hnew slot hslot).2⟩,
    ⟨later, hlater, fun slot hslot => (hnew slot hslot).1⟩⟩

/-- Who is told nothing waits on. -/
theorem Bypasses.listener?_eq (h : w.Bypasses slots w') (hminds : w.Minds own w')
    (hslot : slot ∈ slots) (hown : slot ∉ own) (hlt : slot.index < w.slots.size) :
    w'.listener? slot = w.listener? slot := by
  obtain ⟨late, houtcomes, hnew⟩ := h
  obtain ⟨late', houtcomes', hkept⟩ := hminds.kept
  have hlate : late' = late := List.append_cancel_right (houtcomes'.symm.trans houtcomes)
  subst hlate
  rcases hkept slot hlt with hsame | ⟨-, hwhy⟩
  · exact hsame
  · exact absurd hwhy (not_or.2 ⟨hown, hnew slot hslot⟩)

end World

open World

/-- How an outcome goes from the outside of a stream down to `target`, a stream that it lies over:
the listeners that are told on the way, in this order, and the state in which the outcome comes to
`target`. A panic of a listener is caught and does not matter. -/
inductive Host.Announces (host : Host κ ε) (result : Result) (target : Stream) :
    Stream → World κ ε → List (Callback κ) → World κ ε → Prop
  /-- The outcome has come there. -/
  | reached (w : World κ ε) : Announces host result target target w [] w
  /-- A listener is taken out of its slot and told the outcome. -/
  | told {ref : StreamRef} {slot : SlotRef} {inner : Stream} {w w₁ w' : World κ ε}
      {listener : Callback κ} {m : Engine κ ε Unit} {rest : List (Callback κ)}
      {ended : Except Panic Unit} :
      w.listener? slot = some listener → Engine.Tells host listener result m →
      Effect.attempt m (w.vacate slot) = (.done ended, w₁) →
      Announces host result target inner w₁ rest w' →
      Announces host result target (.listening ref slot inner) w (listener :: rest) w'
  /-- Nobody waits in a slot. -/
  | vacant {ref : StreamRef} {slot : SlotRef} {inner : Stream} {w w' : World κ ε}
      {rest : List (Callback κ)} : w.listener? slot = none →
      Announces host result target inner (w.vacate slot) rest w' →
      Announces host result target (.listening ref slot inner) w rest w'
  /-- A wrapper of the application sees the outcome pass. -/
  | passed {ref : StreamRef} {reported : Bool} {inner : Stream} {w w₁ w' : World κ ε}
      {rest : List (Callback κ)} : host.observe ref (.outcome result) w = (.done (), w₁) →
      Announces host result target inner w₁ rest w' →
      Announces host result target (.decorated ref reported inner) w rest w'

/-- The wrappers of the application pass on how an exchange ended: seeing it does not panic. -/
def Host.Forwards (host : Host κ ε) : Prop :=
  ∀ ref result w p, (host.observe ref (.outcome result) w).1 ≠ .panicked p

/-- What waits in the slots, in this order. -/
def World.waiting (w : World κ ε) (slots : List SlotRef) : List (Callback κ) :=
  slots.filterMap w.listener?

variable {host : Host κ ε} {result : Result} {stream inner target : Stream} {w w' : World κ ε}

theorem World.waiting_congr {slots : List SlotRef}
    (h : ∀ slot ∈ slots, w'.listener? slot = w.listener? slot) :
    w'.waiting slots = w.waiting slots := List.filterMap_congr h

/-- A stream is told an outcome by announcing it, and then telling what is further inside. -/
theorem Host.Announces.tell_eq {listeners : List (Callback κ)}
    (h : host.Announces result target stream w listeners w') :
    stream.tell host result w = target.tell host result w' := by
  induction h with
  | reached => rfl
  | told hwaits htells hran _ ih =>
    have hnotified := SlotRef.notify_of_some hwaits host result
    rw [htells.eq_complete] at hran
    rw [Effect.bind_of_done hran] at hnotified
    rw [Stream.tell_listening, Effect.bind_of_done hnotified]
    exact ih
  | vacant hnone _ ih =>
    rw [Stream.tell_listening, Effect.bind_of_done (SlotRef.notify_of_none hnone host result)]
    exact ih
  | passed hsaw _ ih =>
    rw [Stream.tell_decorated, Effect.bind_of_done hsaw]
    exact ih

/-- The slots of a stream are its own: they were made before, each is that of one wrapper only, and
no stream with one of them is told another outcome. -/
structure Stream.Private (stream : Stream) (w w' : World κ ε) : Prop where
  made : ∀ slot ∈ stream.slots, slot.index < w.slots.size
  nodup : stream.slots.Nodup
  bypassed : w.Bypasses stream.slots w'

theorem Stream.Private.of_wrapped {final w₁ : World κ ε} (h : stream.Private w final)
    (hwrapped : stream.wrapped? = some inner) (h₁ : w.Minds stream.slot?.toList w₁)
    (h₂ : w₁.Minds inner.slots final) : inner.Private w₁ final := by
  have hslots := slots_of_wrapped hwrapped
  have hsub : inner.slots ⊆ stream.slots := by
    rw [hslots]
    exact List.subset_append_right _ _
  refine ⟨fun slot hslot => ?_, ?_, ?_⟩
  · exact Nat.lt_of_lt_of_le (h.made slot (hsub hslot)) h₁.size
  · have hnodup := h.nodup
    rw [hslots] at hnodup
    exact (List.nodup_append.1 hnodup).2.1
  · exact ((h.bypassed.mono hsub).split h₁ h₂).2

/-- Telling the outermost listener leaves those further inside where they are. -/
theorem Stream.Private.waiting_eq {final w₁ : World κ ε} (h : stream.Private w final)
    (hwrapped : stream.wrapped? = some inner) (h₁ : w.Minds stream.slot?.toList w₁)
    (h₂ : w₁.Minds inner.slots final) {slots : List SlotRef} (hsub : slots ⊆ inner.slots) :
    w₁.waiting slots = w.waiting slots := by
  have hslots := slots_of_wrapped hwrapped
  refine World.waiting_congr fun slot hslot => ?_
  have hinner : slot ∈ stream.slots := by
    rw [hslots]
    exact List.mem_append_right _ (hsub hslot)
  have hapart : slot ∉ stream.slot?.toList := by
    intro hown
    have hnodup := h.nodup
    rw [hslots] at hnodup
    exact (List.nodup_append.1 hnodup).2.2 slot hown slot (hsub hslot) rfl
  exact (h.bypassed.split h₁ h₂).1.listener?_eq h₁ hinner hapart (h.made slot hinner)

/-- The slots that one meets in a chain are slots of the stream. -/
theorem Stream.sublist_slots (stream : Stream) :
    (stream.chain.filterMap Stream.slot?).Sublist stream.slots := by
  induction stream with
  | transport => exact .slnil
  | listening ref slot inner ih => exact ih.cons_cons slot
  | decorated ref reported inner ih =>
    cases reported with
    | true => exact ih
    | false => exact List.nil_sublist _

/-- What an announcement comes to: everybody who waited above `target` was told, and no one else. -/
structure Host.Announced (host : Host κ ε) (result : Result) (target stream : Stream)
    (w : World κ ε) (above : List Stream) (w' : World κ ε) : Prop where
  chain : stream.chain = above ++ target.chain
  announces : host.Announces result target stream w (w.waiting (above.filterMap Stream.slot?)) w'
  empty : ∀ slot ∈ above.filterMap Stream.slot?, w'.listener? slot = none
  minds : w.Minds stream.slots w'

theorem Host.Announced.slots_subset {above : List Stream}
    (h : host.Announced result target stream w above w') :
    above.filterMap Stream.slot? ⊆ stream.slots := by
  refine List.Subset.trans ?_ stream.sublist_slots.subset
  rw [h.chain, List.filterMap_append]
  exact List.subset_append_left _ _

/-- Nobody waits on the way any more when everything is told. -/
theorem Host.Announced.vacated {above : List Stream}
    (h : host.Announced result target stream w above w')
    (hh : host.Answers fun _ m => Minding m)
    (hmade : ∀ slot ∈ stream.slots, slot.index < w.slots.size) {slot : SlotRef}
    (hslot : slot ∈ above.filterMap Stream.slot?) :
    (stream.tell host result w).2.listener? slot = none := by
  have hlt := Nat.lt_of_lt_of_le (hmade slot (h.slots_subset hslot)) h.minds.size
  rw [h.announces.tell_eq]
  exact (target.minds_tell hh result w').listener?_eq_none hlt (h.empty slot hslot)

/-- The outermost wrapper has its own listener told before the others. -/
theorem Host.Announced.wrap {final w₁ : World κ ε} {above : List Stream}
    (h : host.Announced result target inner w₁ above w') (hprivate : stream.Private w final)
    (hwrapped : stream.wrapped? = some inner) (h₁ : w.Minds stream.slot?.toList w₁)
    (h₂ : w₁.Minds inner.slots final)
    (hempty : ∀ slot, stream.slot? = some slot → w₁.listener? slot = none)
    (hannounces : ∀ rest, host.Announces result target inner w₁ rest w' →
      host.Announces result target stream w (w.waiting stream.slot?.toList ++ rest) w') :
    host.Announced result target stream w (stream :: above) w' := by
  have hslots := Stream.slots_of_wrapped hwrapped
  have habove : (stream :: above).filterMap Stream.slot? =
      stream.slot?.toList ++ above.filterMap Stream.slot? := by
    rw [List.filterMap_cons]
    cases stream.slot? <;> rfl
  refine ⟨?_, ?_, ?_, ?_⟩
  · rw [Stream.chain_of_wrapped hwrapped, h.chain]
    rfl
  · rw [habove, waiting, List.filterMap_append]
    have hrest := h.announces
    rw [hprivate.waiting_eq hwrapped h₁ h₂ h.slots_subset] at hrest
    exact hannounces _ hrest
  · intro slot hslot
    rw [habove] at hslot
    rcases List.mem_append.1 hslot with hown | hslot
    · have hmade := hprivate.made slot (by rw [hslots]; exact List.mem_append_left _ hown)
      refine h.minds.listener?_eq_none (Nat.lt_of_lt_of_le hmade h₁.size) ?_
      exact hempty slot (by simpa using hown)
    · exact h.empty slot hslot
  · rw [hslots]
    exact (h₁.mono (List.subset_append_left _ _)).trans
      (h.minds.mono (List.subset_append_right _ _))

/-- **The announcement of an outcome.** Everybody who waits on the way to a stream further inside is
told, whatever the code of those who were told before did. -/
theorem Stream.announced (hh : host.Answers fun _ m => Minding m) (hforwards : host.Forwards)
    (hover : stream.Over target) (hprivate : stream.Private w (stream.tell host result w).2)
    (hended : (stream.tell host result w).1 ≠ .halted) :
    ∃ above w', host.Announced result target stream w above w' := by
  induction hover using Relation.ReflTransGen.head_induction_on generalizing w with
  | refl => exact ⟨[], w, rfl, .reached w, nofun, .of_hearing_eq rfl⟩
  | @head stream inner hwrapped _ ih =>
    have hrest := fun w₁ => inner.minds_tell hh result w₁
    -- by what the outermost wrapper is
    cases stream with
    | transport => cases hwrapped
    | listening ref slot wrapped =>
      cases hwrapped
      have htaken := Minds.vacate w slot
      have hvacant := w.listener?_vacate_self slot
      cases hwaits : w.listener? slot with
      | none =>
        have hnobody : w.waiting (slot? (listening ref slot inner)).toList = [] :=
          List.filterMap_cons_none hwaits
        rw [tell_listening, Effect.bind_of_done (SlotRef.notify_of_none hwaits host result)]
          at hprivate hended
        obtain ⟨above, w', h⟩ := ih (hprivate.of_wrapped rfl htaken (hrest _)) hended
        refine ⟨_, w', h.wrap hprivate rfl htaken (hrest _) ?_ fun rest hann => ?_⟩
        · rintro _ ⟨⟩
          exact hvacant
        · rw [hnobody]
          exact .vacant hwaits hann
      | some listener =>
        have hsomebody : w.waiting (slot? (listening ref slot inner)).toList = [listener] :=
          List.filterMap_cons_some hwaits
        have hcomplete := (Minding.sequential.complete hh listener result).attempt (w.vacate slot)
        have hcalm := Calm.attempt (listener.complete host result) (w.vacate slot)
        have hnotified := SlotRef.notify_of_some hwaits host result
        rcases hran : Effect.attempt (listener.complete host result) (w.vacate slot) with
          ⟨ended | p | _, w₁⟩ <;> rw [hran] at hcomplete
        · have htold : w.Minds [slot] w₁ := htaken.trans (hcomplete.mono (List.nil_subset _))
          rw [Effect.bind_of_done hran] at hnotified
          rw [tell_listening, Effect.bind_of_done hnotified] at hprivate hended
          obtain ⟨above, w', h⟩ := ih (hprivate.of_wrapped rfl htold (hrest _)) hended
          refine ⟨_, w', h.wrap hprivate rfl htold (hrest _) ?_ fun rest hann => ?_⟩
          · rintro _ ⟨⟩
            have hlt : slot.index < (w.vacate slot).slots.size :=
              Nat.lt_of_lt_of_le (index_lt_of_listener hwaits) htaken.size
            exact hcomplete.listener?_eq_none hlt hvacant
          · rw [hsomebody]
            exact .told hwaits (Job.tells_perform host listener result) hran hann
        · rw [hran] at hcalm
          exact absurd rfl (hcalm p)
        · rw [Effect.bind_run, hran] at hnotified
          rw [tell_listening, Effect.bind_run, hnotified] at hended
          exact absurd rfl hended
    | decorated ref reported wrapped =>
      have hreported : reported = true ∧ wrapped = inner := by
        cases reported with
        | true => exact ⟨rfl, Option.some.inj hwrapped⟩
        | false => cases hwrapped
      obtain ⟨rfl, rfl⟩ := hreported
      have hcalm := hforwards ref result w
      have hsees := hh.observe ref (.outcome result) w
      rcases hsaw : host.observe ref (.outcome result) w with ⟨_ | p | _, w₁⟩ <;>
        rw [hsaw] at hsees
      · rw [tell_decorated, Effect.bind_of_done hsaw] at hprivate hended
        obtain ⟨above, w', h⟩ := ih (hprivate.of_wrapped rfl hsees (hrest _)) hended
        exact ⟨_, w', h.wrap hprivate rfl hsees (hrest _) nofun fun rest => .passed hsaw⟩
      · rw [hsaw] at hcalm
        exact absurd rfl (hcalm p)
      · rw [tell_decorated, Effect.bind_run, hsaw] at hended
        exact absurd rfl hended

end HttpExchange
