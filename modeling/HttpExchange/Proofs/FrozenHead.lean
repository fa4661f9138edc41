import HttpExchange.Proofs.Sending

/-!
# The fixed head

Once a head was handed to the stream, the response shows that head and no other: its status and its
fields are those of the head, for good. Edits work on copies and store them later, a failure starts
the response over, unread content puts in a field, and the stream changes the fields when the head
is fixed; none of them gets past the flag of the response that says that its head is fixed.

`Record.Frozen` is the invariant of a single exchange. What carries it is the grammar of the sends:
while the head is open nothing was sent (`Orderly.uncommitted`), and what is sent with the head
fixed has none.
-/

namespace HttpExchange

variable {κ ε : Type}

namespace Response

/-- A response whose head is fixed and is this one: what is read off it is the status and the fields
of the head. -/
structure Shows (r : Response) (head : ResponseHead) : Prop where
  committed : r.committed = true
  status : r.status = some head.status
  fields : r.fields = head.fields

variable {r r' : Response} {last commits : Bool} {head : ResponseHead} {fresh : Option ResponseHead}

theorem status_freeze (r : Response) (last : Bool) :
    (r.freeze last).status = some (r.status.getD .ok) := by
  unfold freeze
  split <;> rfl

/-- A head that is fixed is shown from then on. -/
theorem HeadFixed.shows (hfix : r.HeadFixed last commits r' (some head))
    (hr : r.committed = true) : r'.Shows head := by
  have hcommitted : r'.committed = true := hfix.committed_eq.trans hr
  cases hfix with
  | now version fields =>
    refine ⟨hcommitted, ?_, rfl⟩
    show (r.freeze last).status = some ((r.freeze last).status.getD .ok)
    rw [status_freeze, Option.getD_some]

/-- A head that was fixed before is still shown. -/
theorem Shows.headFixed (h : r.Shows head)
    (hfix : r.HeadFixed last (!r.committed) r' fresh) : r'.Shows head := by
  rw [h.committed] at hfix
  cases hfix
  exact h

/-- What is counted is not seen in the head. -/
theorem Shows.accept (h : r.Shows head) (last : Bool) (chunks : List Octets) :
    (r.accept last chunks).Shows head := ⟨rfl, h.status, h.fields⟩

theorem Shows.close (h : r.Shows head) : r.close.Shows head := ⟨rfl, h.status, h.fields⟩

end Response

namespace Record

variable {e : ExchangeRef} {closing : Prop} {ρ ρ' : Record κ}

/-- The response shows every head that was sent. -/
def Frozen (e : ExchangeRef) (ρ : Record κ) : Prop :=
  ∀ s head, .sent e s ∈ ρ.history → s.head = some head → ρ.state.response.Shows head

section Moves

variable {r : Response} {last commits : Bool} {chunks : List Octets} {head : ResponseHead}
  {fresh : Option ResponseHead} {s : Sending κ}

/-- An admitted write leaves the head alone that was sent before. -/
theorem Frozen.accept {a : Active κ} (hf : ρ.Frozen e)
    (hadm : a.admission ρ.state.response last chunks = .send commits)
    (hfix : (ρ.state.response.accept last chunks).HeadFixed last commits r fresh)
    (hs : .sent e s ∈ ρ.history) (hhead : s.head = some head) : r.Shows head := by
  have hshows := hf s head hs hhead
  obtain ⟨-, -, -, rfl⟩ := Active.admission_eq_send hadm
  rw [hshows.committed] at hfix
  exact (hshows.accept last chunks).headFixed hfix

/-- The end of a response leaves the head alone that was sent before. -/
theorem Frozen.close (hf : ρ.Frozen e)
    (hfix : ρ.state.response.close.HeadFixed true (!ρ.state.response.committed) r fresh)
    (hs : .sent e s ∈ ρ.history) (hhead : s.head = some head) : r.Shows head := by
  have hshows := hf s head hs hhead
  rw [hshows.committed] at hfix
  exact hshows.close.headFixed hfix

end Moves

/-- Every move leaves a response with the head that was sent. -/
theorem Move.frozen (hm : ρ.Move e closing ρ') (hf : ρ.Frozen e) (ho : ρ.Orderly e) :
    ρ'.Frozen e := by
  intro s head hs hhead
  cases hm with
  | stay | contentAvailable | storeFailure | enable | demand | listenForError | complete =>
    exact hf s head hs hhead
  | create => exact absurd hs List.not_mem_nil
  | edit hedit =>
    have hshows := hf s head hs hhead
    rw [hedit.fixed hshows.committed]
    exact hshows
  | answer | succeed | fail | tellFailure | conclude =>
    exact hf s head (List.mem_of_ne_of_mem (by nofun) hs) hhead
  | answerFinal =>
    have hs' := List.mem_of_ne_of_mem (finalOutcome_ne_sent _ _ _ _).symm hs
    exact hf s head (List.mem_of_ne_of_mem (by nofun) hs') hhead
  | send _ _ ha hadm hfix =>
    rcases List.mem_cons.1 hs with heq | hs
    · cases heq
      cases hhead
      exact hfix.shows rfl
    · exact hf.accept hadm hfix hs hhead
  | withhold ha hadm hfix =>
    exact hf.accept hadm hfix (List.mem_of_ne_of_mem (by nofun) hs) hhead
  | stick _ ha hadm hfix => exact hf.accept hadm hfix hs hhead
  | mismatch _ _ _ _ hfix =>
    have hs' := List.mem_of_ne_of_mem (by nofun) (List.mem_of_ne_of_mem (by nofun) hs)
    exact hf.close hfix hs' hhead
  | tellSuccess _ _ _ hfix =>
    exact hf.close hfix (List.mem_of_ne_of_mem (by nofun) hs) hhead
  | sendFinal _ _ _ hfix =>
    rcases List.mem_cons.1 hs with heq | hs
    · cases heq
      cases hhead
      exact hfix.shows rfl
    · exact hf.close hfix hs hhead
  | sendError _ _ _ _ _ hopen hfix =>
    rcases List.mem_cons.1 hs with heq | hs
    · cases heq
      cases hhead
      exact hfix.shows rfl
    · exact absurd hs (ho.uncommitted hopen s)
  -- these start with an open head, so nothing was sent before
  | recycle _ _ _ _ hopen => exact absurd hs (ho.uncommitted hopen s)
  | stickFinal _ _ _ hopen => exact absurd hs (ho.uncommitted hopen s)
  | stickError _ _ _ _ _ hopen => exact absurd hs (ho.uncommitted hopen s)

theorem frozen_new (e : ExchangeRef) (x : Exchange) : Frozen e (⟨x, none, []⟩ : Record κ) :=
  fun _ _ hs _ => absurd hs List.not_mem_nil

end Record

open Record in
theorem World.Possible.frozen {w : World κ ε} (h : w.Possible) (e : ExchangeRef) :
    (w.record e).Frozen e :=
  (h.record_induct (P := fun ρ => ρ.Orderly e ∧ ρ.Frozen e) e ⟨orderly_new e _, frozen_new e _⟩
    fun _ _ ⟨ho, hf⟩ hm => ⟨hm.orderly ho, hm.frozen hf ho⟩).2

open World in
/-- **The head is fixed.** At some moment of some run a head was handed to the stream of an
exchange: by a write, by the end of a success, or as an error response. Whatever follows, the status
and the fields of the response are those of that head. The moments inside of calls count as well, so
this also speaks of an edit that began before the head was fixed and is stored after it. -/
theorem head_frozen {α : Type} {w : World κ ε} (hw : Reachable w) {e : ExchangeRef} {s : Sending κ}
    {head : ResponseHead} (hsent : .sent e s ∈ w.deeds) (hhead : s.head = some head)
    {m : Engine κ ε α} (hm : Permitted m) :
    ((m w).2.exchange e).response.status = some head.status ∧
      ((m w).2.exchange e).response.fields = head.fields := by
  have h := hw.possible
  have hcourse := hm.runs w h.sound
  have hkept : .sent e s ∈ (m w).2.history e :=
    (World.mem_history _).2 ⟨(Course.deeds_suffix hcourse).subset hsent, rfl⟩
  have hshows := (h.course hcourse).frozen e s head hkept hhead
  exact ⟨hshows.status, hshows.fields⟩

/-- The application changes its mind about a response whose head was sent, and then fails the
exchange. -/
def lateChanges : Engine Unit Unit Unit := do
  ExchangeRef.setStatus ⟨0⟩ .noContent
  let _ ← ExchangeRef.setContentLength ⟨0⟩ 7
  let _ ← ExchangeRef.reset ⟨0⟩
  let lost ← Engine.newFailure (.transport "lost")
  ExchangeRef.fail (Host.idle 2) ⟨0⟩ lost

theorem permitted_lateChanges : Permitted lateChanges :=
  .bind (.setStatus _ _) fun _ => .bind (.setContentLength _ _) fun _ => .bind (.reset _) fun _ =>
    .bind (.newFailure _) fun _ => .fail _ _ ⟨2, surroundings_idle 2⟩

/-- The status and the declared length stay what they were. -/
theorem head_frozen_lateChanges :
    let fields := (Fields.empty.insert .date .close).insert .contentLength (.ofNat 2)
    let sending : Sending Unit :=
      ⟨⟨0⟩, .transport ⟨0⟩, some ⟨.ok, .http11, fields, some 2⟩, false, .pendingWrite ⟨0⟩,
        [[104, 105]]⟩
    let w := (lateChanges (World.after wholeBody)).2
    .sent ⟨0⟩ sending ∈ (World.after wholeBody).deeds ∧ w.activeFor? ⟨0⟩ = none ∧
      (w.exchange ⟨0⟩).response.status = some .ok ∧ (w.exchange ⟨0⟩).response.fields = fields := by
  intro fields sending w
  have hsent : .sent ⟨0⟩ sending ∈ (World.after wholeBody).deeds := by decide +kernel
  have hended : w.activeFor? ⟨0⟩ = none := by
    rw [← Option.isNone_iff_eq_none]
    decide +kernel
  obtain ⟨hstatus, hfields⟩ :=
    head_frozen permitted_wholeBody.reachable hsent rfl permitted_lateChanges
  exact ⟨hsent, hended, hstatus, hfields⟩

end HttpExchange
