import HttpExchange.Proofs.Sending

/-!
# The body length

Bytes are counted when a write is admitted, the length is fixed with the head, and the check comes
after both. `Record.Measured` relates the three numbers: what was sent, what was counted, and what
was fixed. As long as no bytes were found not to fit, what was sent is what was counted; afterwards
nothing is sent any more, so what was sent stays within the fixed length.

The counter runs ahead of the bytes exactly once, when a write breaks the length: it was counted and
is withheld. So the equation of the two numbers holds only without a mismatch, and what is promised
of the bytes (`Record.Within`) must not be derived from it. It is kept by itself, along with the fact
that a success has no part with a mismatch (`Record.Succeeding`).

Numbers are unbounded here. A counter of the machine would have to pass its largest number first to
make a difference.
-/

namespace HttpExchange

variable {κ ε : Type}

/-- The bytes that a send hands to the stream of an exchange. -/
def Deed.bytesFor (e : ExchangeRef) : Deed κ → Nat
  | .sent g s => if g = e then s.chunks.flatten.length else 0
  | _ => 0

/-- The bytes of all sends of an exchange. -/
def sentBytes (e : ExchangeRef) : List (Deed κ) → Nat
  | [] => 0
  | d :: h => d.bytesFor e + sentBytes e h

/-! ## The response -/

namespace Response

variable {r r' : Response} {last commits : Bool} {head : Option ResponseHead}

/-- A head that is fixed declares the length that is counted against. -/
theorem HeadFixed.contentLength_eq {h : ResponseHead}
    (hfix : r.HeadFixed last commits r' (some h)) : h.contentLength = r'.committedLength := by
  cases hfix
  rfl

/-- A head that is fixed without a declared length for a last write declares the bytes written. -/
theorem HeadFixed.committedLength_of_overlaid {body : Octets} {fields : Fields}
    (hfix : (r.overlaid body fields).HeadFixed true true r' head) :
    r'.committedLength = some body.length := by
  have hnone : ContentLength.ofFields? ((r.fields.extend fields).remove .contentLength) = none := by
    simp [ContentLength.ofFields?, Fields.get?, Fields.values_remove]
  cases hfix
  simp [freeze, overlaid, hnone]

/-- The bytes of an error response are as many as its head declares. -/
theorem HeadFixed.lengthFault_of_overlaid {body : Octets} {fields : Fields}
    (hfix : (r.overlaid body fields).HeadFixed true true r' head) :
    r'.lengthFault true = none := by
  have hwritten : r'.written = body.length := hfix.written_eq
  refine lengthFault_eq_none.2 fun n hn => ?_
  rw [hfix.committedLength_of_overlaid] at hn
  cases hn
  rw [hwritten]
  exact ⟨Nat.le_refl _, fun _ => Nat.le_refl _⟩

end Response

namespace Record

variable {e : ExchangeRef} {closing : Prop} {ρ ρ' : Record κ} {h : List (Deed κ)} {d : Deed κ}

/-- A deed adds the bytes that it sends. -/
theorem sentBytes_cons (d : Deed κ) : sentBytes e (d :: h) = d.bytesFor e + sentBytes e h := by
  rfl

theorem sentBytes_cons_sent (s : Sending κ) :
    sentBytes e (.sent e s :: h) = s.chunks.flatten.length + sentBytes e h := by
  simp [sentBytes_cons, Deed.bytesFor]

theorem sentBytes_cons_of_ne (hd : ∀ s, d ≠ .sent e s) :
    sentBytes e (d :: h) = sentBytes e h := by
  rw [sentBytes_cons]
  cases d with
  | sent g s =>
    have hne : g ≠ e := fun heq => hd s (by rw [heq])
    simp [Deed.bytesFor, hne]
  | _ => simp [Deed.bytesFor]

/-- Without a send no byte was sent. -/
theorem sentBytes_eq_zero (hnone : ∀ s, .sent e s ∉ h) : sentBytes e h = 0 := by
  induction h with
  | nil => rfl
  | cons d h ih =>
    rw [sentBytes_cons_of_ne fun s heq => hnone s (heq ▸ List.mem_cons_self)]
    exact ih fun s hs => hnone s (List.mem_cons_of_mem _ hs)

/-! ## The invariant -/

/-- The bytes sent are within the length that the head declares, and as many in the end. -/
def Within (e : ExchangeRef) (h : List (Deed κ)) : Prop :=
  ∀ s head n, .sent e s ∈ h → s.head = some head → head.contentLength = some n →
    sentBytes e h ≤ n ∧
    ((∃ s', .sent e s' ∈ h ∧ s'.last = true) ∨ (∃ stream, .succeeded e stream ∈ h) →
      sentBytes e h = n)

/-- What is neither a send nor a success stays within the length. -/
theorem Within.cons_of_ne (hw : Within e h) (hd : ∀ s, d ≠ .sent e s)
    (hd' : ∀ stream, d ≠ .succeeded e stream) : Within e (d :: h) := by
  intro s head n hs hhead hn
  rw [sentBytes_cons_of_ne hd]
  obtain ⟨hle, heq⟩ := hw s head n (List.mem_of_ne_of_mem (hd s).symm hs) hhead hn
  refine ⟨hle, fun hend => heq ?_⟩
  rcases hend with ⟨s', hs', hl⟩ | ⟨stream, hstream⟩
  · exact .inl ⟨s', List.mem_of_ne_of_mem (hd s').symm hs', hl⟩
  · exact .inr ⟨stream, List.mem_of_ne_of_mem (hd' stream).symm hstream⟩

/-- The stream is told a success, or will be once its bytes are out. -/
def Succeeding (e : ExchangeRef) (h : List (Deed κ)) : Prop :=
  (∃ stream, .succeeded e stream ∈ h) ∨
    ∃ s stream, .sent e s ∈ h ∧ s.callback = .finalFrame e stream

/-- What was sent, what was counted and what was fixed. -/
structure Measured (e : ExchangeRef) (ρ : Record κ) : Prop where
  /-- Nothing is counted before the head is fixed. -/
  fresh : ρ.state.response.committed = false → ρ.state.response.written = 0
  /-- The head declares the fixed length. -/
  declared : Unclosed ρ.history → ∀ s head, .sent e s ∈ ρ.history → s.head = some head →
    head.contentLength = ρ.state.response.committedLength
  /-- What was counted was sent. -/
  counted : Unclosed ρ.history → .mismatched e ∉ ρ.history → (∃ s, .sent e s ∈ ρ.history) →
    sentBytes e ρ.history = ρ.state.response.written
  within : Within e ρ.history
  /-- A success has no part with bytes that do not fit. -/
  apart : Succeeding e ρ.history → .mismatched e ∉ ρ.history

/-- Nothing is counted before the head is fixed. -/
theorem Move.fresh (hm : ρ.Move e closing ρ') (hl : ρ.Measured e)
    (hc : ρ'.state.response.committed = false) : ρ'.state.response.written = 0 := by
  cases hm with
  | stay | contentAvailable | enable | demand | listenForError | complete | storeFailure | answer
  | answerFinal | succeed | fail | tellFailure | conclude => exact hl.fresh hc
  | create | recycle => rfl
  | edit hedit =>
    rw [hedit.same] at hc ⊢
    exact hl.fresh hc
  | send _ _ _ _ hfix | withhold _ _ hfix | stick _ _ _ hfix | mismatch _ _ _ _ hfix
  | tellSuccess _ _ _ hfix | sendFinal _ _ _ hfix | stickFinal _ _ _ _ hfix
  | sendError _ _ _ _ _ _ hfix | stickError _ _ _ _ _ _ hfix =>
    exact absurd hc (hfix.not_uncommitted rfl)

section Send

variable {a : Active κ} {last commits : Bool} {chunks : List Octets} {r : Response}
  {head : Option ResponseHead} {stream : Stream} {ended : Option FailureRef}

/-- Bytes that are handed over with the head, or after it, were counted. -/
theorem Measured.counted_of_used (hl : ρ.Measured e) (ho : ρ.Orderly e) (hu : Unclosed ρ.history)
    (hfits : .mismatched e ∉ ρ.history)
    (hused : ρ.state.response.committed = true → HeadUsed e ρ.history) :
    sentBytes e ρ.history = ρ.state.response.written := by
  cases hc : ρ.state.response.committed with
  | false => rw [sentBytes_eq_zero (ho.uncommitted hc), hl.fresh hc]
  | true =>
    rcases hused hc with hs | hmis
    · exact hl.counted hu hfits hs
    · exact absurd hmis hfits

/-- The fixed length is the one that the head declared, if there was a head before. -/
theorem Measured.declared_of_fixed (hl : ρ.Measured e) (ho : ρ.Orderly e)
    (hu : Unclosed ρ.history) {x : Response} (hfix : x.HeadFixed last commits r head)
    (hx : x.committedLength = ρ.state.response.committedLength)
    (hcommits : commits = !ρ.state.response.committed) {s : Sending κ} {hd : ResponseHead}
    (hs : .sent e s ∈ ρ.history) (hhead : s.head = some hd) :
    hd.contentLength = r.committedLength := by
  cases hc : ρ.state.response.committed with
  | false => exact absurd hs (ho.uncommitted hc s)
  | true =>
    rw [hc] at hcommits
    subst hcommits
    cases hfix
    exact (hl.declared hu s hd hs hhead).trans hx.symm

/-- Bytes that were counted and fit are within the length. -/
theorem within_of_fits (hdeclared : ∀ s hd, .sent e s ∈ h → s.head = some hd →
      hd.contentLength = r.committedLength)
    (hcounted : sentBytes e h = r.written) (hfits : r.lengthFault last = none)
    (hlast : (∃ s, .sent e s ∈ h ∧ s.last = true) ∨ (∃ stream, .succeeded e stream ∈ h) →
      last = true) : Within e h := by
  intro s hd n hs hhead hn
  rw [hdeclared s hd hs hhead] at hn
  obtain ⟨hle, hge⟩ := Response.lengthFault_eq_none.1 hfits n hn
  rw [hcounted]
  exact ⟨hle, fun hend => Nat.le_antisymm hle (hge (hlast hend))⟩

/-- What a write declares and counts. -/
theorem Measured.send (hl : ρ.Measured e) (ho : ρ.Orderly e) (ha : ρ.active = some a)
    (hadm : a.admission ρ.state.response last chunks = .send commits)
    (hfix : (ρ.state.response.accept last chunks).HeadFixed last commits r head)
    (hfits : r.lengthFault last = none) (ref : SendRef) :
    let h := .sent e ⟨ref, stream, head, last, .pendingWrite e, chunks⟩ :: ρ.history
    (∀ s hd, .sent e s ∈ h → s.head = some hd → hd.contentLength = r.committedLength) ∧
    sentBytes e h = r.written := by
  obtain ⟨hwrite, herror, -, hcommits⟩ := Active.admission_eq_send hadm
  have hu := ho.unclosed_of_active ha
  constructor
  · intro s hd hs hhead
    rcases List.mem_cons.1 hs with heq | hs
    · cases heq
      cases hhead
      exact hfix.contentLength_eq
    · exact hl.declared_of_fixed ho hu hfix rfl hcommits hs hhead
  · have hold := hl.counted_of_used ho hu (ho.fits_of_send ha hadm hfix hfits)
      (ho.unended.used a ha hwrite herror)
    rw [sentBytes_cons_sent, hold, hfix.written_eq, Nat.add_comm]
    rfl

/-- What the end of a response declares and counts. -/
theorem Measured.close (hl : ρ.Measured e) (ho : ρ.Orderly e)
    (hend : ρ.Ending e (some stream) none)
    (hfix : ρ.state.response.close.HeadFixed true (!ρ.state.response.committed) r head)
    (hfits : r.lengthFault true = none) :
    (∀ s hd, .sent e s ∈ ρ.history → s.head = some hd →
      hd.contentLength = r.committedLength) ∧
    sentBytes e ρ.history = r.written := by
  have hold := hl.counted_of_used ho hend.unclosed (ho.fits_of_close hend.unclosed hfix hfits)
    (hend.used rfl)
  refine ⟨fun s hd hs hhead => ?_, hold.trans hfix.written_eq.symm⟩
  exact hl.declared_of_fixed ho hend.unclosed hfix rfl rfl hs hhead

end Send

/-- The head that was sent declared the length that is counted against. -/
theorem Move.declared (hm : ρ.Move e closing ρ') (hl : ρ.Measured e) (ho : ρ.Orderly e)
    (hu : Unclosed ρ'.history) {s : Sending κ} {hd : ResponseHead} (hs : .sent e s ∈ ρ'.history)
    (hhead : s.head = some hd) : hd.contentLength = ρ'.state.response.committedLength := by
  cases hm with
  | stay | contentAvailable | storeFailure | enable | demand | listenForError | complete =>
    exact hl.declared hu s hd hs hhead
  | create => exact absurd hs List.not_mem_nil
  | edit hedit =>
    rw [hedit.same]
    exact hl.declared hu s hd hs hhead
  | answer | succeed | fail =>
    exact hl.declared hu.of_cons s hd (List.mem_of_ne_of_mem (by nofun) hs) hhead
  | send _ _ ha hadm hfix hfits => exact (hl.send ho ha hadm hfix hfits _).1 s hd hs hhead
  | withhold ha hadm hfix hfault =>
    obtain ⟨-, -, -, hcommits⟩ := Active.admission_eq_send hadm
    have hs' := List.mem_of_ne_of_mem (by nofun) hs
    exact hl.declared_of_fixed ho hu.of_cons hfix rfl hcommits hs' hhead
  | stick _ ha hadm hfix =>
    obtain ⟨-, -, -, hcommits⟩ := Active.admission_eq_send hadm
    exact hl.declared_of_fixed ho hu hfix rfl hcommits hs hhead
  | recycle _ _ _ _ hcommitted => exact absurd hs (ho.uncommitted hcommitted s)
  | stickFinal _ _ _ hcommitted => exact absurd hs (ho.uncommitted hcommitted s)
  | stickError _ _ _ _ _ hcommitted => exact absurd hs (ho.uncommitted hcommitted s)
  | answerFinal =>
    exact absurd hu (not_unclosed List.mem_cons_self (finalOutcome_closes _ _ _ _))
  | mismatch | tellSuccess | sendFinal | tellFailure | sendError =>
    exact absurd hu (not_unclosed List.mem_cons_self rfl)
  | conclude _ _ _ hd hc => exact absurd hu.of_cons (not_unclosed hd hc)

/-- The bytes that were sent are those that were counted, unless there was a mismatch. -/
theorem Move.counted (hm : ρ.Move e closing ρ') (hl : ρ.Measured e) (ho : ρ.Orderly e)
    (hu : Unclosed ρ'.history) (hfits : .mismatched e ∉ ρ'.history)
    (hs : ∃ s, .sent e s ∈ ρ'.history) :
    sentBytes e ρ'.history = ρ'.state.response.written := by
  have hcons : ∀ {d : Deed κ}, (∀ s, d ≠ .sent e s) → Unclosed (d :: ρ.history) →
      .mismatched e ∉ d :: ρ.history → (∃ s, .sent e s ∈ d :: ρ.history) →
      sentBytes e (d :: ρ.history) = ρ.state.response.written := by
    intro d hd hu hfits ⟨s, hs⟩
    rw [sentBytes_cons_of_ne hd]
    exact hl.counted hu.of_cons (fun hmis => hfits (List.mem_cons_of_mem _ hmis))
      ⟨s, List.mem_of_ne_of_mem (hd s).symm hs⟩
  cases hm with
  | stay | contentAvailable | storeFailure | enable | demand | listenForError | complete =>
    exact hl.counted hu hfits hs
  | create => exact absurd hs.choose_spec List.not_mem_nil
  | edit hedit =>
    rw [hedit.same]
    exact hl.counted hu hfits hs
  | answer | succeed | fail => exact hcons (fun _ => nofun) hu hfits hs
  | send _ _ ha hadm hfix hfit => exact (hl.send ho ha hadm hfix hfit _).2
  | withhold => exact absurd List.mem_cons_self hfits
  | stick _ ha hadm =>
    obtain ⟨-, -, -, hcommits⟩ := Active.admission_eq_send hadm
    exact absurd hs.choose_spec (ho.uncommitted (by simpa using hcommits.symm) _)
  | recycle _ _ _ _ hcommitted => exact absurd hs.choose_spec (ho.uncommitted hcommitted _)
  | stickFinal _ _ _ hcommitted => exact absurd hs.choose_spec (ho.uncommitted hcommitted _)
  | stickError _ _ _ _ _ hcommitted =>
    exact absurd hs.choose_spec (ho.uncommitted hcommitted _)
  | answerFinal =>
    exact absurd hu (not_unclosed List.mem_cons_self (finalOutcome_closes _ _ _ _))
  | mismatch | tellSuccess | sendFinal | tellFailure | sendError =>
    exact absurd hu (not_unclosed List.mem_cons_self rfl)
  | conclude _ _ _ hd hc => exact absurd hu.of_cons (not_unclosed hd hc)

/-- What was sent stays within the declared length. -/
theorem Move.within (hm : ρ.Move e closing ρ') (hl : ρ.Measured e) (ho : ρ.Orderly e) :
    Within e ρ'.history := by
  cases hm with
  | stay | edit | contentAvailable | storeFailure | enable | demand | listenForError | stick
  | complete | recycle | stickFinal | stickError => exact hl.within
  | create => exact fun _ _ _ hs => absurd hs List.not_mem_nil
  | withhold | answer | succeed | fail | tellFailure | conclude =>
    exact hl.within.cons_of_ne (fun _ => nofun) fun _ => nofun
  | mismatch =>
    refine Within.cons_of_ne ?_ (fun _ => nofun) fun _ => nofun
    exact hl.within.cons_of_ne (fun _ => nofun) fun _ => nofun
  | answerFinal result hmem hun hcb =>
    rename_i s stream cause
    have hans : Within e (.sendEnded e s.ref result :: ρ.history) :=
      hl.within.cons_of_ne (fun _ => nofun) fun _ => nofun
    -- a final frame has the last bytes, so its success says nothing new
    have hlast : s.last = true := ho.final s hmem (by rw [hcb]; cases cause <;> rfl)
    intro s' hd n hs' hhead hn
    rw [sentBytes_cons_of_ne (finalOutcome_ne_sent _ _ _)]
    have hs'' := List.mem_of_ne_of_mem (finalOutcome_ne_sent _ _ _ _).symm hs'
    obtain ⟨hle, heq⟩ := hans s' hd n hs'' hhead hn
    exact ⟨hle, fun _ => heq (.inl ⟨s, List.mem_cons_of_mem _ hmem, hlast⟩)⟩
  | send _ stream ha hadm hfix hfits =>
    obtain ⟨hdeclared, hcounted⟩ := hl.send ho ha hadm hfix hfits _
    have hallowed : Allowed e ⟨_, stream, _, _, _, _⟩ ρ.history :=
      ho.allowed_send ha hadm hfix hfits ⟨0⟩
    refine within_of_fits hdeclared hcounted hfits fun hend => ?_
    rcases hend with ⟨s, hs, hl⟩ | ⟨st, hst⟩
    · rcases List.mem_cons.1 hs with heq | hs
      · cases heq
        exact hl
      · rw [hallowed.notLast s hs] at hl
        cases hl
    · -- no success is told while the exchange is active
      have hst' := List.mem_of_ne_of_mem (by nofun) hst
      exact absurd (ho.unclosed_of_active ha) (not_unclosed hst' rfl)
  | tellSuccess _ hend _ hfix hfits =>
    obtain ⟨hdeclared, hcounted⟩ := hl.close ho hend hfix hfits
    refine within_of_fits (fun s hd hs => ?_) ?_ hfits fun _ => rfl
    · exact hdeclared s hd (List.mem_of_ne_of_mem (by nofun) hs)
    · refine (sentBytes_cons_of_ne ?_).trans hcounted
      exact fun _ => nofun
  | sendFinal _ hend _ hfix hfits hlast =>
    obtain ⟨hdeclared, hcounted⟩ := hl.close ho hend hfix hfits
    refine within_of_fits (fun s hd hs hhead => ?_) ?_ hfits fun _ => rfl
    · rcases List.mem_cons.1 hs with heq | hs
      · cases heq
        cases hhead
        exact hfix.contentLength_eq
      · exact hdeclared s hd hs hhead
    · rw [sentBytes_cons_sent, hcounted]
      exact Nat.zero_add _
  | sendError body _ _ hend _ hcommitted hfix =>
    -- nothing was sent before, and the length is that of the page
    rename_i stream cause fields r head ref _ _ _
    have hnone := ho.uncommitted hcommitted
    have hwritten : r.written = body.length := hfix.written_eq
    refine within_of_fits (fun s hd hs hhead => ?_) ?_ hfix.lengthFault_of_overlaid fun _ => rfl
    · rcases List.mem_cons.1 hs with heq | hs
      · cases heq
        cases hhead
        exact hfix.contentLength_eq
      · exact absurd hs (hnone s)
    · rw [sentBytes_cons_sent, sentBytes_eq_zero hnone, hwritten]
      simp

theorem Succeeding.of_cons (hs : Succeeding e (d :: h)) (hd : ∀ stream, d ≠ .succeeded e stream)
    (hd' : ∀ s stream, d = .sent e s → s.callback ≠ .finalFrame e stream) : Succeeding e h := by
  rcases hs with ⟨stream, hmem⟩ | ⟨s, stream, hmem, hcb⟩
  · exact .inl ⟨stream, List.mem_of_ne_of_mem (hd stream).symm hmem⟩
  · refine .inr ⟨s, stream, List.mem_of_ne_of_mem (fun heq => ?_) hmem, hcb⟩
    exact hd' s stream heq.symm hcb

/-- An exchange that succeeds has closed. -/
theorem Succeeding.not_unclosed (hs : Succeeding e h) : ¬Unclosed h := by
  rcases hs with ⟨stream, hmem⟩ | ⟨s, stream, hmem, hcb⟩
  · exact Record.not_unclosed hmem rfl
  · exact Record.not_unclosed hmem (by simp [Deed.closes, hcb, SendCallback.isFinal])

/-- An exchange that succeeds had no mismatch. -/
theorem Move.apart (hm : ρ.Move e closing ρ') (hl : ρ.Measured e) (ho : ρ.Orderly e)
    (hs : Succeeding e ρ'.history) : .mismatched e ∉ ρ'.history := by
  have hcons : ∀ {d : Deed κ}, Succeeding e (d :: ρ.history) →
      (∀ stream, d ≠ .succeeded e stream) →
      (∀ s stream, d = .sent e s → s.callback ≠ .finalFrame e stream) → d ≠ .mismatched e →
      .mismatched e ∉ d :: ρ.history :=
    fun hs hd hd' hne hmis =>
      hl.apart (hs.of_cons hd hd') (List.mem_of_ne_of_mem hne.symm hmis)
  have hfresh : ∀ {d : Deed κ}, .mismatched e ∉ ρ.history → d ≠ .mismatched e →
      .mismatched e ∉ d :: ρ.history :=
    fun hfits hne hmis => hfits (List.mem_of_ne_of_mem hne.symm hmis)
  cases hm with
  | stay | edit | contentAvailable | storeFailure | enable | demand | listenForError | stick
  | complete | recycle | stickFinal | stickError => exact hl.apart hs
  | create => exact List.not_mem_nil
  | answer | succeed | fail | tellFailure | conclude =>
    exact hcons hs (fun _ => nofun) (fun _ _ => nofun) nofun
  | send =>
    refine hcons hs (fun _ => nofun) (fun s stream heq => ?_) nofun
    cases heq
    nofun
  | sendError =>
    refine hcons hs (fun _ => nofun) (fun s stream heq => ?_) nofun
    cases heq
    nofun
  | withhold ha =>
    have hs' := hs.of_cons (fun _ => nofun) (fun _ _ => nofun)
    exact absurd (ho.unclosed_of_active ha) hs'.not_unclosed
  | mismatch _ _ hend =>
    have hs' := (hs.of_cons (fun _ => nofun) (fun _ _ => nofun)).of_cons (fun _ => nofun)
      (fun _ _ => nofun)
    exact absurd hend.unclosed hs'.not_unclosed
  | tellSuccess _ hend _ hfix hfits =>
    exact hfresh (ho.fits_of_close hend.unclosed hfix hfits) nofun
  | sendFinal _ hend _ hfix hfits =>
    exact hfresh (ho.fits_of_close hend.unclosed hfix hfits) nofun
  | answerFinal result hmem hun hcb =>
    rename_i s stream cause
    have hold : Succeeding e ρ.history := by
      cases cause with
      | none => exact .inr ⟨s, stream, hmem, hcb⟩
      | some told =>
        refine (hs.of_cons ?_ ?_).of_cons (fun _ => nofun) (fun _ _ => nofun)
        · intro stream heq
          cases heq
        · intro s stream heq
          cases heq
    intro hmis
    have hne : (.mismatched e : Deed κ) ≠ finalOutcome e stream cause result := by
      cases cause <;> cases result <;> simp [finalOutcome]
    have hmis' := List.mem_of_ne_of_mem hne hmis
    rcases List.mem_cons.1 hmis' with heq | hmis'
    · cases heq
    · exact hl.apart hold hmis'

/-- Every move measures what it sends. -/
theorem Move.measured (hm : ρ.Move e closing ρ') (hl : ρ.Measured e) (ho : ρ.Orderly e) :
    ρ'.Measured e where
  fresh := hm.fresh hl
  declared hu _ _ := hm.declared hl ho hu
  counted := hm.counted hl ho
  within := hm.within hl ho
  apart := hm.apart hl ho

theorem measured_new (e : ExchangeRef) : Measured e (⟨default, none, []⟩ : Record κ) where
  fresh _ := rfl
  declared _ _ _ h := absurd h List.not_mem_nil
  counted _ _ h := absurd h.choose_spec List.not_mem_nil
  within _ _ _ h := absurd h List.not_mem_nil
  apart _ := List.not_mem_nil

end Record

/-- Every exchange is measured in every state of a run. -/
theorem World.Possible.measured {w : World κ ε} (h : w.Possible) (e : ExchangeRef) :
    (w.record e).Measured e :=
  (h.record_induct (P := fun ρ => ρ.Orderly e ∧ ρ.Measured e) e
    ⟨Record.orderly_new e _, Record.measured_new e⟩
    fun _ _ ⟨ho, hl⟩ hm => ⟨hm.orderly ho, hm.measured hl ho⟩).2

/-- **The body length is kept.** If the head of an exchange declares a length, the bytes of its
sends are never more, and exactly as many once the last bytes were sent or the stream was told the
success. Once bytes were found not to fit, nothing more is sent for the exchange, and its stream
is not told a success at any time. -/
theorem length_kept {w : World κ ε} (hw : Reachable w) (e : ExchangeRef) :
    (∀ s head n, .sent e s ∈ w.history e → s.head = some head → head.contentLength = some n →
      sentBytes e (w.history e) ≤ n ∧
      ((∃ s', .sent e s' ∈ w.history e ∧ s'.last = true) ∨
          (∃ stream, .succeeded e stream ∈ w.history e) →
        sentBytes e (w.history e) = n)) ∧
    ∀ late earlier, w.history e = late ++ .mismatched e :: earlier →
      (∀ s, .sent e s ∉ late) ∧ ∀ stream, .succeeded e stream ∉ w.history e := by
  have ho := hw.possible.orderly e
  have hl := hw.possible.measured e
  refine ⟨hl.within, fun late earlier hsplit => ⟨fun s hs => ?_, fun stream hstream => ?_⟩⟩
  · obtain ⟨late₁, late₂, rfl⟩ := List.append_of_mem hs
    have hsuffix : .sent e s :: (late₂ ++ .mismatched e :: earlier) <:+ w.history e := by
      rw [hsplit, List.append_assoc]
      exact List.suffix_append _ _
    exact (ho.regular s _ hsuffix).fits (List.mem_append_right _ List.mem_cons_self)
  · refine hl.apart (.inl ⟨stream, hstream⟩) ?_
    show _ ∈ w.history e
    rw [hsplit]
    exact List.mem_append_right _ List.mem_cons_self

/-- A response of two bytes that declares so. -/
theorem length_kept_wholeResponse :
    sentBytes ⟨0⟩ ((World.after wholeResponse).history ⟨0⟩) = 2 := by
  let head : ResponseHead :=
    ⟨.ok, .http11, (({} : Config).standardFields .close).insert .contentLength (.ofNat 2), some 2⟩
  let first : Sending Unit :=
    ⟨⟨0⟩, .transport ⟨0⟩, some head, false, .pendingWrite ⟨0⟩, [[104, 105]]⟩
  let final : Sending Unit :=
    ⟨⟨1⟩, .transport ⟨0⟩, none, true, .finalFrame ⟨0⟩ (.transport ⟨0⟩), []⟩
  have hfirst : .sent ⟨0⟩ first ∈ (World.after wholeResponse).history ⟨0⟩ := by decide +kernel
  have hfinal : .sent ⟨0⟩ final ∈ (World.after wholeResponse).history ⟨0⟩ := by decide +kernel
  have hkept := (length_kept permitted_wholeResponse.reachable ⟨0⟩).1 first head 2 hfirst rfl rfl
  exact hkept.2 (.inl ⟨final, hfinal, rfl⟩)

end HttpExchange
