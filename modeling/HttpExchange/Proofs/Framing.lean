import HttpExchange.Proofs.Length

/-!
# Framing and bytes

Status and fixed length of a head decide how the transport frames the body
(`ResponseHead.payloadSize`). Whether bytes are handed to it is decided elsewhere, by the admission
of writes and by the check against the fixed length, and neither looks at the status. So the bytes
keep to the framing where it follows from the length. Where it follows from the status alone they do
not, and no status without a body is an exception.

Both halves are in one statement, `framing_kept_unless_bodiless`. The first is for every exchange of
every run, and comes from the account of the bytes in `Proofs.Length`: a length of zero leaves room
for none. The second is for every status without a body and all chunks. It has a run that sets the
status and writes the chunks, and what that run hands to the stream is computed once for all of them
(`history_statusWithBytes`).
-/

namespace HttpExchange

variable {κ ε : Type}

/-- A status whose responses have no body: interim responses, 204 and 304. -/
def Status.isBodiless (status : Status) : Bool :=
  status.isInformational || status = .noContent || status = .notModified

/-- A body has no framing because of the status, or because its length is fixed to zero. -/
theorem ResponseHead.payloadSize_eq_empty {head : ResponseHead} :
    head.payloadSize = .empty ↔
      head.status.isBodiless = true ∨ head.contentLength = some 0 := by
  unfold payloadSize Status.isBodiless
  by_cases hstatus : (head.status.isInformational || head.status = .noContent ||
      head.status = .notModified) = true
  · rw [if_pos hstatus]
    exact ⟨fun _ => .inl hstatus, fun _ => rfl⟩
  · rw [if_neg hstatus]
    cases head.contentLength with
    | none => simp [hstatus]
    | some n => cases n <;> simp [hstatus]

/-- A body whose length is fixed to zero has no bytes. -/
theorem Record.Within.sentBytes_eq_zero {e : ExchangeRef} {h : List (Deed κ)} {s : Sending κ}
    {head : ResponseHead} (hw : Record.Within e h) (hs : .sent e s ∈ h)
    (hhead : s.head = some head) (hzero : head.contentLength = some 0) : sentBytes e h = 0 :=
  Nat.le_zero.1 (hw s head 0 hs hhead hzero).1

/-- A request arrives and is handled, and a response with this status and with these bytes, which
are not the last, is written. -/
def statusWithBytes (status : Status) (chunks : List Octets) : Engine Unit Unit Unit := do
  let _ ← Channel.setStream (.transport ⟨0⟩)
  let _ ← Channel.onRequest (Host.idle 2) .bare
  Job.perform (Host.idle 2) (.dispatch ⟨0⟩)
  ExchangeRef.setStatus ⟨0⟩ status
  ExchangeRef.write (Host.idle 2) ⟨0⟩ false .ignore chunks

theorem permitted_statusWithBytes (status : Status) (chunks : List Octets) :
    Permitted (statusWithBytes status chunks) := by
  have hidle : ∃ depth, Surroundings depth (Host.idle 2 : Host Unit Unit) :=
    ⟨2, surroundings_idle 2⟩
  exact .bind (.setStream _) fun _ => .bind (.onRequest _ hidle) fun _ =>
    .bind (.perform _ hidle) fun _ => .bind (.setStatus _ _) fun _ => .write _ _ _ _ hidle

/-- The bytes are handed to the stream as they are, whatever the status is. -/
theorem history_statusWithBytes (status : Status) (chunks : List Octets) :
    (World.after (statusWithBytes status chunks)).history ⟨0⟩ =
      [.sent ⟨0⟩ ⟨⟨0⟩, .transport ⟨0⟩,
        some ⟨status, .http11, ({} : Config).standardFields .close, none⟩, false,
        .pendingWrite ⟨0⟩, chunks⟩] := by
  -- only the admission looks at the chunks, to tell a write that has nothing to send
  cases chunks <;> rfl

/-- **Framing and bytes.** If the head of an exchange says that its body has no framing, all sends
of the exchange together carry no bytes, unless it is the status alone that says so. Then there is
no such guarantee: under each status without a body the stream is handed whatever bytes are
written. -/
theorem framing_kept_unless_bodiless :
    (∀ w : World κ ε, Reachable w → ∀ e s head, .sent e s ∈ w.history e → s.head = some head →
      head.payloadSize = .empty → sentBytes e (w.history e) ≠ 0 →
      head.status.isBodiless = true ∧ head.contentLength ≠ some 0) ∧
    ∀ status : Status, status.isBodiless = true → ∀ chunks : List Octets,
      ∃ w : World Unit Unit, Reachable w ∧ ∃ e s head, .sent e s ∈ w.history e ∧
        s.head = some head ∧ head.status = status ∧ head.payloadSize = .empty ∧
        s.chunks = chunks ∧ sentBytes e (w.history e) = chunks.flatten.length := by
  constructor
  · intro w hw e s head hs hhead hempty hbytes
    have hwithin := (hw.possible.measured e).within
    have hlength : head.contentLength ≠ some 0 :=
      fun hzero => hbytes (hwithin.sentBytes_eq_zero hs hhead hzero)
    exact ⟨(ResponseHead.payloadSize_eq_empty.1 hempty).resolve_right hlength, hlength⟩
  · intro status hstatus chunks
    have hhistory := history_statusWithBytes status chunks
    refine ⟨_, (permitted_statusWithBytes status chunks).reachable, ⟨0⟩, _, _,
      hhistory ▸ List.mem_cons_self, rfl, rfl, ResponseHead.payloadSize_eq_empty.2 (.inl hstatus),
      rfl, ?_⟩
    rw [hhistory, Record.sentBytes_cons_sent]
    rfl

/-- A response of status 204 whose stream is handed two bytes. -/
theorem framing_kept_unless_bodiless_noContent :
    let w := World.after (statusWithBytes .noContent [[104, 105]])
    let head : ResponseHead := ⟨.noContent, .http11, ({} : Config).standardFields .close, none⟩
    sentBytes ⟨0⟩ (w.history ⟨0⟩) = 2 ∧ head.payloadSize = .empty ∧
      head.status.isBodiless = true ∧ head.contentLength ≠ some 0 := by
  intro w head
  have hsent : .sent ⟨0⟩ ⟨⟨0⟩, .transport ⟨0⟩, some head, false, .pendingWrite ⟨0⟩, [[104, 105]]⟩ ∈
      w.history ⟨0⟩ := by decide +kernel
  have hbytes : sentBytes ⟨0⟩ (w.history ⟨0⟩) = 2 := by decide +kernel
  have hreachable : Reachable w := (permitted_statusWithBytes _ _).reachable
  refine ⟨hbytes, rfl, framing_kept_unless_bodiless.1 w hreachable ⟨0⟩ _ head hsent rfl rfl ?_⟩
  rw [hbytes]
  nofun

end HttpExchange
