import HttpExchange.Proofs.Writing

/-!
# Heads with prepared fields

A stream may change the fields of a head before they are sent. As long as it gives any
(`Host.GivesFields`), fixing a head is an equation: status and length come from the response alone,
and the fields are what the stream makes of those of the response (`Stream.Makes`). If streams do so
by a fixed function (`Host.Prepares`), they make of the fields what that function gives.

The length is the declared one, if one is declared. Laying fields over others takes over their
declaration, and a removed declaration is none.
-/

namespace HttpExchange

variable {κ ε : Type} {host : Host κ ε} {edit : StreamRef → Fields → Fields}

open World

/-! ## Declared lengths -/

namespace Fields

theorem get?_remove_self (fs : Fields) (name : FieldName) : (fs.remove name).get? name = none := by
  rw [get?, values_remove, if_pos rfl]
  rfl

/-- What is laid over fields without a name decides about that name. -/
theorem get?_extend_remove (fs new : Fields) (name : FieldName) :
    ((fs.remove name).extend new).get? name = new.get? name := by
  rw [get?, get?, values_extend, values_remove, if_pos rfl]
  split
  next hnone => rw [hnone]
  next => rfl

/-- A value that becomes the only one of its name need not find the others removed. -/
theorem insert_remove (fs : Fields) (name : FieldName) (value : FieldValue) :
    (fs.remove name).insert name value = fs.insert name value := by
  have hidem : (fs.remove name).remove name = fs.remove name := by simp [remove]
  rw [insert, hidem, insert]

end Fields

namespace ContentLength

theorem ofFields?_remove (fs : Fields) : ofFields? (fs.remove .contentLength) = none := by
  rw [ofFields?, Fields.get?_remove_self]
  rfl

theorem ofFields?_extend_remove (fs new : Fields) :
    ofFields? ((fs.remove .contentLength).extend new) = ofFields? new := by
  rw [ofFields?, ofFields?, Fields.get?_extend_remove]

end ContentLength

namespace Response

variable {r : Response}

/-- A last write declares the bytes written if nothing else is declared. -/
theorem freeze_of_undeclared (h : ContentLength.ofFields? r.fields = none) :
    r.freeze true =
      { r with
        status := some (r.status.getD .ok), committedLength := some r.written,
        fields := r.fields.insert .contentLength (.ofNat r.written) } := by
  unfold freeze
  split
  next hnone => rfl
  next hother => exact absurd rfl (hother h)

theorem freeze_of_declared {n : Nat} (h : ContentLength.ofFields? r.fields = some n)
    (last : Bool) :
    r.freeze last = { r with status := some (r.status.getD .ok), committedLength := some n } := by
  unfold freeze
  split
  next hnone => cases hnone.symm.trans h
  next => rw [h]

end Response

/-! ## Fixing a head -/

/-- Streams that prepare every head by a fixed function of the transport's stream, with wrappers
that let it pass. -/
structure Host.Prepares (host : Host κ ε) (edit : StreamRef → Fields → Fields) : Prop where
  transport : ∀ ref fields (w : World κ ε), ∃ outside,
    host.transport.prepare ref fields w = (.done (edit ref fields, none), { w with outside })
  observe : ∀ ref (w : World κ ε), ∃ outside,
    host.observe ref .prepare w = (.done (), { w with outside })

/-- The wrappers have no part in what is prepared. -/
theorem Stream.prepare_run (h : host.Prepares edit) (fields : Fields) (stream : Stream)
    (w : World κ ε) :
    ∃ outside, stream.prepare host fields w =
      (.done (edit stream.base fields, none), { w with outside }) := by
  induction stream generalizing w with
  | transport ref => exact h.transport ref fields w
  | listening _ _ inner ih => exact ih w
  | decorated ref _ inner ih =>
    obtain ⟨out, hseen⟩ := h.observe ref w
    obtain ⟨outside, hprep⟩ := ih { w with outside := out }
    exact ⟨outside, (Effect.bind_of_done hseen).trans hprep⟩

/-- A stream that gives fields for a head if it is shown these, whatever it makes of them. -/
def Stream.GivesFields (stream : Stream) (host : Host κ ε) (fields : Fields) (before : ε) : Prop :=
  ∀ w : World κ ε, w.outside = before → ∃ prepared outside,
    stream.prepare host fields w = (.done (prepared, none), { w with outside })

/-- Streams that always give fields for a head. -/
def Host.GivesFields (host : Host κ ε) : Prop :=
  ∀ (stream : Stream) fields before, stream.GivesFields host fields before

/-- At some moment the stream gives these fields for a head, of those that it is shown. -/
def Stream.Makes (stream : Stream) (host : Host κ ε) (shown made : Fields) : Prop :=
  ∃ (w : World κ ε) (outside : ε),
    stream.prepare host shown w = (.done (made, none), { w with outside })

theorem Host.Prepares.givesFields (h : host.Prepares edit) : host.GivesFields := by
  intro stream fields before w _
  exact ⟨edit stream.base fields, stream.prepare_run h fields w⟩

/-- A stream that prepares heads by a fixed function makes of the fields what that gives. -/
theorem Stream.Makes.eq_edit {stream : Stream} {shown made : Fields}
    (h : stream.Makes host shown made) (hprepare : host.Prepares edit) :
    made = edit stream.base shown := by
  obtain ⟨w, outside, hmade⟩ := h
  obtain ⟨outside', hedited⟩ := stream.prepare_run hprepare shown w
  cases hmade.symm.trans hedited
  rfl

/-- Fixing a head gives status and length of the frozen response, with the fields that the stream
makes of the frozen ones. -/
theorem Engine.freezeHead_run (h : host.GivesFields) {w : World κ ε} {e : ExchangeRef}
    (hlt : e.index < w.exchanges.size) (stream : Stream) (last : Bool) :
    let frozen := (w.exchange e).response.freeze last
    ∃ made w₁, stream.Makes host frozen.fields made ∧
      let head : ResponseHead := ⟨frozen.status.getD .ok, w.channel.version, made,
        frozen.committedLength⟩
      freezeHead host e stream last w = (.done head, w₁) ∧
      w.HeadFixed e last true w₁ (some head) ∧
      w₁.exchange e = { w.exchange e with response := { frozen with fields := made } } := by
  intro frozen
  obtain ⟨made, outside, hprep⟩ :=
    h stream frozen.fields _ (w.modifyResponse e (·.freeze last)) rfl
  let head : ResponseHead := ⟨frozen.status.getD .ok, w.channel.version, made,
    frozen.committedLength⟩
  have hhead : (w.fixHead e last outside made).headOf e = head := headOf_fixHead hlt last outside _
  have hfix : w.HeadFixed e last true _ _ := .now outside made
  have hrun := freezeHead_of_prepared hlt hprep
  rw [hhead] at hfix hrun
  exact ⟨made, _, ⟨_, outside, hprep⟩, hrun, hfix, exchange_modifyExchange_self w hlt _⟩

/-- Streams that change nothing. -/
theorem Host.prepares_idle (depth : Nat) :
    (Host.idle depth : Host κ ε).Prepares fun _ fields => fields := by
  cases depth <;> exact ⟨fun _ _ w => ⟨w.outside, rfl⟩, fun _ w => ⟨w.outside, rfl⟩⟩

end HttpExchange
