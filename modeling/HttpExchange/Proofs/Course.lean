import HttpExchange.Proofs.Move

/-!
# Sequences of steps

A call of the engine changes the state by steps, with calls of the surroundings in between, which
change it by steps of their own. An exchange that is open when a call begins may be ended by it; one
that was ended before is none of its business. So the steps of a call from the state `w` form a
course with `w.Open`.

The set of exchanges that a course may end only ever shrinks: an exchange that is open at the end of
a course was open, or not there yet, at its beginning (`Course.open_anti`). So courses can follow each
other, the later ones with less to end, and a course may be taken for one that was allowed more
(`Course.mono`).

What such a course leaves alone is what the call that ended the exchange relies on:
`Course.ending` and `Course.closed`. Between detaching an exchange and handing its end to the stream
the engine calls a renderer, streams and wakers, and these may call the engine again. They find the
exchange detached. Its response can still be edited, and its sends be answered, but nobody else sends
for it or ends it.
-/

namespace HttpExchange

variable {κ ε : Type}

open World Record

namespace World

variable {w w₁ w' : World κ ε} {A B : ExchangeRef → Prop} {e : ExchangeRef}

/-- An exchange that has not been ended. It need not exist yet. -/
def Open (w : World κ ε) (e : ExchangeRef) : Prop :=
  e.index < w.exchanges.size → (w.activeFor? e).isSome = true

/-- An active exchange is open. -/
theorem open_of_active {a : Active κ} (h : w.activeFor? e = some a) : w.Open e :=
  fun _ => by rw [h]; rfl

/-- More exchanges may be ended by the call. -/
theorem Step.mono (hAB : ∀ e, A e → B e) (h : Step A w w') : Step B w w' := by
  cases h with
  | aside _ _ _ _ _ hpromises hsize => exact .aside _ _ _ _ _ hpromises hsize
  | tell => exact .tell ..
  | addFailure => exact .addFailure ..
  | suppress => exact .suppress ..
  | offer => exact .offer ..
  | next => exact .next ..
  | attach _ h => exact .attach _ h
  | wrap _ h h' => exact .wrap _ h h'
  | listen => exact .listen ..
  | close => exact .close ..
  | unpersist => exact .unpersist
  | count => exact .count
  | activate _ _ _ h h' => exact .activate _ _ _ h h'
  | contentAvailable => exact .contentAvailable
  | storeFailure _ h h' h'' => exact .storeFailure _ h h' h''
  | enable h => exact .enable h
  | demand _ h he hp hd => exact .demand _ h he hp hd
  | demandNow => exact .demandNow ..
  | listenForError _ h h' => exact .listenForError _ h h'
  | listenLate _ h => exact .listenLate _ h
  | ignore _ hlt ha hf => exact .ignore _ hlt ha hf
  | edit _ _ h => exact .edit _ _ h
  | flush => exact .flush ..
  | refuse => exact .refuse ..
  | refuseFailed _ _ _ ha he => exact .refuseFailed _ _ _ ha he
  | send _ hs ha hadm hfix hfits => exact .send _ hs ha hadm hfix hfits
  | withhold _ hs ha hadm hfix hfault => exact .withhold _ hs ha hadm hfix hfault
  | stick _ hs ha hadm hfix => exact .stick _ hs ha hadm hfix
  | answerWrite _ hcb ha hw => exact .answerWrite _ hcb ha hw
  | answerLate _ hcb hw => exact .answerLate _ hcb hw
  | answerFinal _ hcb => exact .answerFinal _ hcb
  | answerError _ hcb => exact .answerError _ hcb
  | succeed ha hp hd hw he => exact .succeed ha hp hd hw he
  | fail _ ha => exact .fail _ ha
  | complete hc hend => exact .complete (hAB _ hc) hend
  | recycle _ hc hend hcom => exact .recycle _ (hAB _ hc) hend hcom
  | mismatch hc hend hph hfix hf => exact .mismatch (hAB _ hc) hend hph hfix hf
  | tellSuccess hc hend hph hfix hf hl => exact .tellSuccess (hAB _ hc) hend hph hfix hf hl
  | sendFinal hc hend hph hfix hf hl => exact .sendFinal (hAB _ hc) hend hph hfix hf hl
  | stickFinal hc hend hph hcom hfix => exact .stickFinal (hAB _ hc) hend hph hcom hfix
  | tellFailure _ hc hend hph ht => exact .tellFailure _ (hAB _ hc) hend hph ht
  | sendError _ _ hc hend hph hcom hfix => exact .sendError _ _ (hAB _ hc) hend hph hcom hfix
  | stickError _ _ hc hend hph hcom hfix => exact .stickError _ _ (hAB _ hc) hend hph hcom hfix
  | conclude hc ha hph hmem hcl => exact .conclude (hAB _ hc) ha hph hmem hcl

theorem Course.mono (hAB : ∀ e, A e → B e) (h : Course A w w') : Course B w w' :=
  Relation.ReflTransGen.mono (fun _ _ => Step.mono hAB) _ _ h

/-- An ended exchange stays ended. -/
theorem Step.open_anti (h : Step A w w') (hs : w.Sound) (ho : w'.Open e) : w.Open e := by
  intro hlt
  have hb := h.bounded hs.bounded
  have hact := ho (Nat.lt_of_lt_of_le hlt hb.1)
  obtain ⟨a, ha⟩ := Option.isSome_iff_exists.1 hact
  obtain ⟨ha', rfl⟩ := (activeFor?_eq_some w').1 ha
  rcases (hb.2 a ha').2.1 with h | h
  · exact h
  · exact absurd hlt (Nat.not_lt_of_le h)

/-- What is open at the end was open before. -/
theorem Course.open_anti (h : Course A w w') (hs : w.Sound) (ho : w'.Open e) : w.Open e := by
  induction h with
  | refl => exact ho
  | tail hc hstep ih => exact ih (hstep.open_anti (Course.sound hc hs) ho)

end World

/-! ## What others leave alone after the end of an exchange -/

namespace Record

variable {e : ExchangeRef} {ρ ρ' : Record κ} {stream : Option Stream} {cause : Option FailureRef}

/-- The end of an exchange was handed to its stream, and only the call that ended it can go on. -/
structure Closed (ρ : Record κ) (d : Deed κ) : Prop where
  detached : ρ.active = none
  completing : ρ.state.phase = .completing
  closed : d ∈ ρ.history ∧ d.closes = true

/-- What others can do about an exchange that was detached: take note of how its sends ended, and
change what can be prepared of a response that is not fixed. -/
structure Rest (ρ ρ' : Record κ) : Prop where
  detached : ρ'.active = none
  phase : ρ'.state.phase = ρ.state.phase
  committed : ρ'.state.response.committed = ρ.state.response.committed
  history : ∃ late, ρ'.history = late ++ ρ.history ∧
    ((∀ d ∈ ρ.history, d.closes = false) → ∀ d ∈ late, d.isAnswer = true)

/-- The data of an exchange may change apart from what its end depends on. -/
theorem Rest.of_state {x : Exchange} (ha : ρ.active = none) (hp : x.phase = ρ.state.phase)
    (hc : x.response.committed = ρ.state.response.committed) : Rest ρ { ρ with state := x } :=
  ⟨ha, hp, hc, [], rfl, fun _ _ h => nomatch h⟩

/-- A move of somebody else leaves what was ended at rest. -/
theorem Move.rest (h : ρ.Move e False ρ') (ha : ρ.active = none) (hh : ρ.history ≠ []) :
    Rest ρ ρ' := by
  cases h with
  | stay => exact .of_state ha rfl rfl
  | create _ _ _ _ hnil => exact absurd hnil hh
  | edit hedit =>
    exact .of_state ha (by rw [hedit.same]) (by rw [hedit.same])
  | contentAvailable h | storeFailure _ h | enable h | demand _ h | listenForError _ h
  | send _ _ h | withhold h | stick _ h | succeed _ h | fail _ _ h => cases ha.symm.trans h
  | answer result hmem hun hcb =>
    refine ⟨by simp [ha], rfl, rfl, [_], rfl, fun _ d hd => ?_⟩
    cases List.mem_singleton.1 hd
    rfl
  | answerFinal result hmem hun hcb =>
    -- the send that is answered closes, so there is nothing to show for an unclosed history
    refine ⟨ha, rfl, rfl, [_, _], rfl, fun hclosed => ?_⟩
    have hc := hclosed _ hmem
    rename_i s stream cause
    cases cause <;> simp [Deed.closes, hcb, finalCallback, SendCallback.isFinal] at hc
  | complete hf | recycle _ _ hf | mismatch _ hf | tellSuccess hf | sendFinal hf | stickFinal hf
  | tellFailure _ hf | sendError _ _ hf | stickError _ _ hf | conclude hf => exact hf.elim

/-- An exchange that is about to end stays so. -/
theorem Rest.ending (h : Rest ρ ρ') (hend : ρ.Ending e stream cause) :
    ρ'.Ending e stream cause := by
  obtain ⟨late, hlate, hans⟩ := h.history
  have hans' := hans hend.unclosed
  obtain ⟨late₁, earlier, hearlier, hlate₁⟩ := hend.latest
  refine ⟨h.detached, ⟨late ++ late₁, earlier, ?_, fun d hd => ?_⟩, fun d hd => ?_,
    fun hc hcommitted => ?_⟩
  · rw [hlate, hearlier, List.append_assoc]
  · exact (List.mem_append.1 hd).elim (hans' d) (hlate₁ d)
  · rw [hlate] at hd
    rcases List.mem_append.1 hd with hd | hd
    · exact Deed.closes_of_isAnswer (hans' d hd)
    · exact hend.unclosed d hd
  · rw [hlate]
    exact (hend.used hc (h.committed ▸ hcommitted)).mono (List.subset_append_right _ _)

/-- What closed an exchange stays noted. -/
theorem Rest.closed {d : Deed κ} (h : Rest ρ ρ') (hcl : ρ.Closed d) : ρ'.Closed d := by
  obtain ⟨late, hlate, -⟩ := h.history
  refine ⟨h.detached, h.phase.trans hcl.completing, ?_, hcl.closed.2⟩
  rw [hlate]
  exact List.mem_append_right _ hcl.closed.1

theorem Closed.history_ne_nil {d : Deed κ} (h : ρ.Closed d) : ρ.history ≠ [] :=
  List.ne_nil_of_mem h.closed.1

end Record

namespace World

variable {w w' : World κ ε} {A : ExchangeRef → Prop} {e : ExchangeRef}

/-- A step of somebody else leaves what was ended at rest. -/
theorem Step.rest (h : Step A w w') (hs : w.Sound) (hA : ¬A e) (ha : w.activeFor? e = none)
    (hh : w.history e ≠ []) : Rest (w.record e) (w'.record e) := by
  have hmove := h.move hs e
  rw [eq_false hA] at hmove
  exact hmove.rest ha hh

/-- Others leave an exchange alone that was ended, and have no part in its end. -/
theorem Course.ending {stream : Option Stream} {cause : Option FailureRef} (h : Course A w w')
    (hs : w.Sound) (hA : ¬A e) (hend : (w.record e).Ending e stream cause) :
    (w'.record e).Ending e stream cause ∧
      (w'.exchange e).phase = (w.exchange e).phase ∧
      (w'.exchange e).response.committed = (w.exchange e).response.committed := by
  -- along the course; `Ending` itself says that the next step finds the exchange detached
  induction h with
  | refl => exact ⟨hend, rfl, rfl⟩
  | tail hc hstep ih =>
    obtain ⟨hend₁, hphase, hcommitted⟩ := ih
    have hrest := hstep.rest (Course.sound hc hs) hA hend₁.detached hend₁.history_ne_nil
    exact ⟨hrest.ending hend₁, hrest.phase.trans hphase, hrest.committed.trans hcommitted⟩

/-- In a run of others it stays noted as well. -/
theorem Course.closed {d : Deed κ} (h : Course A w w') (hs : w.Sound) (hA : ¬A e)
    (hcl : (w.record e).Closed d) : (w'.record e).Closed d := by
  induction h with
  | refl => exact hcl
  | tail hc hstep ih =>
    exact (hstep.rest (Course.sound hc hs) hA ih.detached ih.history_ne_nil).closed ih

end World

end HttpExchange
