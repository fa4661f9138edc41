import HttpExchange.Proofs.Finale

/-!
# Unread request bodies

When an exchange succeeds, the rest of its request body is discarded. If the stream says that some
content is left unread, the connection cannot be used again; if the head of the response is open, it
says so (`Engine.forbidReuse`). Nothing else about the end of the exchange differs from that of one
whose body was read: what is written into the head has no part in its length or its status, so both
come to the same finale (`Response.finale_alike`).

Two runs are compared that begin in the same state and differ in what the stream answers. They do not
come to the same state, but what is handed to the stream and told to it is the same up to one field of
one head (`Finale.Alike`). A transport that prepares the head could make anything of that field. That
it neither reads nor writes it is assumed (`IgnoresConnection`).

That a connection which cannot be used again stays so is a fact about all runs, and not about these
two.
-/

namespace HttpExchange

variable {κ ε : Type} {host : Host κ ε}

open World Record

/-! ## Fields that differ in one name -/

namespace Fields

variable {fs fs' : Fields} {name : FieldName}

/-- The values of all names but one are the same. -/
def SameBut (name : FieldName) (fs fs' : Fields) : Prop :=
  ∀ other, other ≠ name → fs'.values other = fs.values other

theorem sameBut_insert (fs : Fields) (name : FieldName) (value : FieldValue) :
    fs.SameBut name (fs.insert name value) := by
  intro other hother
  rw [values_insert, if_neg (Ne.symm hother)]

theorem SameBut.insert (h : fs.SameBut name fs') (other : FieldName) (value : FieldValue) :
    (fs.insert other value).SameBut name (fs'.insert other value) := by
  intro third hthird
  rw [values_insert, values_insert, h third hthird]

theorem SameBut.get?_eq (h : fs.SameBut name fs') {other : FieldName} (hother : other ≠ name) :
    fs'.get? other = fs.get? other := by
  rw [get?, h other hother, get?]

theorem SameBut.ofFields?_eq (h : fs.SameBut .connection fs') :
    ContentLength.ofFields? fs' = ContentLength.ofFields? fs := by
  rw [ContentLength.ofFields?, h.get?_eq (by decide), ContentLength.ofFields?]

end Fields

/-- A stream that prepares heads like this neither reads the `Connection` field nor writes it. -/
structure IgnoresConnection (edit : Fields → Fields) : Prop where
  others : ∀ fs fs' : Fields, fs.SameBut .connection fs' → (edit fs).SameBut .connection (edit fs')
  kept : ∀ fs : Fields, (edit fs).values .connection = fs.values .connection

/-- The second head is the first one but for the `Connection` field. If `closing` is set, the value of
that is `close` and nothing else. -/
structure ResponseHead.Alike (closing : Bool) (head head' : ResponseHead) : Prop where
  status : head'.status = head.status
  version : head'.version = head.version
  contentLength : head'.contentLength = head.contentLength
  others : head.fields.SameBut .connection head'.fields
  connection : head'.fields.values .connection =
    if closing = true then [.close] else head.fields.values .connection

/-- Two responses end in the same way, but for the `Connection` field of a head that is sent then. -/
inductive Finale.Alike (closing : Bool) : Finale → Finale → Prop
  | misfit (length written : Nat) : Alike closing (.misfit length written) (.misfit length written)
  | told : Alike closing .told .told
  | fixed : Alike closing (.framed none) (.framed none)
  | open {head head' : ResponseHead} : head.Alike closing head' →
      Alike closing (.framed (some head)) (.framed (some head'))

namespace Response

variable {r : Response} {edit : Fields → Fields}

/-- The response once unread content is noted: it says that the connection closes, if it was to be
used again and the head is open. -/
def unread (r : Response) (closing : Bool) : Response :=
  if closing = true ∧ r.committed = false then
    { r with fields := r.fields.insert .connection .close }
  else r

theorem unread_eq (r : Response) (closing : Bool) :
    ∃ fields, r.unread closing = { r with fields } ∧ r.fields.SameBut .connection fields := by
  unfold unread
  split
  · exact ⟨_, rfl, Fields.sameBut_insert _ _ _⟩
  · exact ⟨r.fields, rfl, fun _ _ => rfl⟩

theorem fieldsAfter_of_sameBut {fields : Fields} (h : r.fields.SameBut .connection fields)
    (last : Bool) (written : Nat) :
    let after := { r with fields }.fieldsAfter last written
    (r.fieldsAfter last written).SameBut .connection after ∧
      after.values .connection = fields.values .connection := by
  unfold fieldsAfter
  dsimp only
  rw [h.ofFields?_eq]
  by_cases hinserts : r.committed = false ∧ last = true ∧ ContentLength.ofFields? r.fields = none
  · rw [if_pos hinserts, if_pos hinserts]
    refine ⟨h.insert _ _, ?_⟩
    rw [Fields.values_insert, if_neg (by decide)]
  · rw [if_neg hinserts, if_neg hinserts]
    exact ⟨h, rfl⟩

/-- The `Connection` field has no part in the end of a response. -/
theorem ended_of_sameBut {fields : Fields} (h : r.fields.SameBut .connection fields) :
    ∃ fields', { r with fields }.ended = { r.ended with fields := fields' } ∧
      r.ended.fields.SameBut .connection fields' ∧
      fields'.values .connection = fields.values .connection := by
  obtain ⟨hsame, hvalues⟩ := fieldsAfter_of_sameBut h true r.written
  refine ⟨_, ?_, hsame, hvalues⟩
  unfold ended after lengthAfter
  dsimp only
  rw [h.ofFields?_eq]
  rfl

/-- The heads that go with the ends of two responses that unread content tells apart. -/
theorem endHead_alike (hedit : IgnoresConnection edit) (closing : Bool) (version : Version)
    (hopen : r.committed = false) :
    ∃ head head', r.endHead version edit = some head ∧
      (r.unread closing).endHead version edit = some head' ∧ head.Alike closing head' := by
  obtain ⟨fields, hunread, hsame⟩ := r.unread_eq closing
  obtain ⟨fields', hended, hsame', hvalues⟩ := ended_of_sameBut hsame
  have hsafe : r.fields.SameBut .connection r.fields := fun _ _ => rfl
  have hkept : r.ended.fields.values .connection = r.fields.values .connection :=
    (fieldsAfter_of_sameBut hsafe true r.written).2
  have hnot : ¬r.committed = true := by
    rw [hopen]
    exact Bool.false_ne_true
  let head : ResponseHead := ⟨r.ended.status.getD .ok, version, edit r.ended.fields,
    r.ended.committedLength⟩
  refine ⟨head, { head with fields := edit fields' }, if_neg hnot, ?_, ?_⟩
  · rw [hunread]
    refine (if_neg hnot).trans ?_
    rw [hended]
  · refine ⟨rfl, rfl, rfl, hedit.others _ _ hsame', ?_⟩
    show (edit fields').values .connection = _
    have hfields : fields = (r.unread closing).fields := by rw [hunread]
    rw [hedit.kept, hvalues, hfields]
    unfold unread
    cases closing with
    | true =>
      rw [if_pos ⟨rfl, hopen⟩, if_pos rfl]
      exact (Fields.values_insert _ _ _ _).trans (if_pos rfl)
    | false => exact ((hedit.kept r.ended.fields).trans hkept).symm

/-- Unread content makes no difference to the end of a response but in the `Connection` field. -/
theorem finale_alike (hedit : IgnoresConnection edit) (r : Response) (closing : Bool)
    (version : Version) :
    (r.finale version edit).Alike closing ((r.unread closing).finale version edit) := by
  obtain ⟨fields, hunread, hsame⟩ := r.unread_eq closing
  obtain ⟨fields', hended, -⟩ := ended_of_sameBut hsame
  have hfate : (r.unread closing).ended.fate true = r.ended.fate true := by
    rw [hunread, hended]
    rfl
  have hlast : (r.unread closing).lastWritten = r.lastWritten := by rw [hunread]
  unfold finale
  rw [hfate]
  rcases r.ended.fate_cases true with hsent | ⟨length, written, hmisfit⟩
  · rw [hsent]
    dsimp only
    rw [hlast]
    cases r.lastWritten with
    | true => exact .told
    | false =>
      cases hcommitted : r.committed with
      | true =>
        have hnone : r.endHead version edit = none := if_pos hcommitted
        have hnone' : (r.unread closing).endHead version edit = none := by
          rw [hunread]
          exact if_pos hcommitted
        rw [hnone, hnone']
        exact .fixed
      | false =>
        obtain ⟨head, head', hhead, hhead', halike⟩ := endHead_alike hedit closing version hcommitted
        rw [hhead, hhead']
        exact .open halike
  · rw [hmisfit]
    exact .misfit length written

end Response

/-! ## Discarding the rest of a body -/

/-- A call that ends an exchange with success has discarded the rest of the request body, and the
stream has said whether something is left unread. -/
structure World.Discards (w : World κ ε) (e : ExchangeRef) (stream : Stream) (host : Host κ ε)
    (unread : Option FailureRef) (v : World κ ε) : Prop where
  active : ∃ a, w.activeFor? e = some a ∧ a.Ready
  attached : w.channel.stream = some stream
  surroundings : ∃ depth, Surroundings depth host
  run : stream.consumeAll host ((w.detach e none).setPhase e .completing) = (.done unread, v)

/-- Unread content is noted in the channel, and in the response if its head is open. -/
theorem Engine.forbidReuse_run {w : World κ ε} {e : ExchangeRef}
    (hlt : e.index < w.exchanges.size) :
    ∃ w₁, forbidReuse e w = (.done (), w₁) ∧
      (w₁.exchange e).response = (w.exchange e).response.unread w.channel.persistent ∧
      w₁.channel.persistent = false ∧ w₁.outside = w.outside := by
  have hread : ∀ flag, w.channel.persistent = flag →
      (Effect.gets fun w => w.channel.persistent : Engine κ ε Bool) w = (.done flag, w) :=
    fun _ hflag => congrArg (fun flag => (Outcome.done flag, w)) hflag
  unfold forbidReuse
  cases hpersistent : w.channel.persistent with
  | false => exact ⟨w, Effect.bind_of_done (hread _ hpersistent), rfl, hpersistent, rfl⟩
  | true =>
    let w₁ := w.modifyChannel fun c => { c with persistent := false }
    let close : Response → Response := fun r =>
      if r.committed then r else { r with fields := r.fields.insert .connection .close }
    have hresponse : ((w₁.modifyResponse e close).exchange e).response =
        close (w.exchange e).response :=
      congrArg (·.response) (exchange_modifyExchange_self w₁ hlt _)
    refine ⟨w₁.modifyResponse e close, Effect.bind_of_done (hread _ hpersistent), ?_, rfl, rfl⟩
    rw [hresponse]
    unfold Response.unread
    cases hcommitted : (w.exchange e).response.committed <;> simp [close, hcommitted]

namespace World.Discards

variable {w v x : World κ ε} {e : ExchangeRef} {stream : Stream} {edit : Fields → Fields}
  {unread : Option FailureRef}

/-- The exchange is detached when the rest of its body was discarded, and nothing was sent. -/
theorem closing (h : w.Discards e stream host unread v) (hw : w.Possible) :
    Closing w.Open w v e stream none ∧ v.emissions e = w.emissions e := by
  obtain ⟨a, ha, hready⟩ := h.active
  obtain ⟨depth, hh⟩ := h.surroundings
  have hclosing := closing_succeed hw.sound ha hready h.attached
  have hconsume := Runs.compositional.consumeAll hh.lawful.answers stream
  have hcourse := hconsume _ hclosing.sound₁
  have hsame := Course.emissions_of_ending hcourse hclosing.sound₁ hclosing.not_open
    hclosing.ending
  have hdetached : ((w.detach e none).setPhase e .completing).emissions e = w.emissions e := by
    show ((w.detach e none).history e).filterMap _ = _
    have hhistory : (w.detach e none).history e =
        .ended e w.channel.stream none :: w.history e :=
      congrArg Record.history (record_detach_self w e none)
    rw [hhistory]
    rfl
  have hafter := (hclosing.run hconsume).1
  rw [h.run] at hsame hafter
  exact ⟨hafter, hsame.trans hdetached⟩

/-- How the call goes on. -/
theorem succeed_eq (h : w.Discards e stream host unread v) :
    e.succeed host w = ((match unread with
      | none => Engine.sendEnd host e stream
      | some unread => do
        if (← Engine.errorOf unread).isUnconsumedBody then
          Engine.forbidReuse e
          Engine.sendEnd host e stream
        else Engine.terminate host e stream unread) >>= fun _ => pure (Except.ok ())) v := by
  obtain ⟨a, ha, hready⟩ := h.active
  have hrun : Engine.succeedStream host e stream ((w.detach e none).setPhase e .completing) =
      (match unread with
      | none => Engine.sendEnd host e stream
      | some unread => do
        if (← Engine.errorOf unread).isUnconsumedBody then
          Engine.forbidReuse e
          Engine.sendEnd host e stream
        else Engine.terminate host e stream unread) v := by
    refine (Effect.bind_of_done h.run).trans ?_
    cases unread with
    | none | some => exact rfl
  refine (ExchangeRef.succeed_run ha hready h.attached).trans ((Effect.bind_run ..).trans ?_)
  rw [hrun, Effect.bind_run]

/-- If nothing is left unread, the response ends as it is. -/
theorem closes (h : w.Discards e stream host none v) (hw : w.Possible)
    (hprepares : stream.Prepares host edit (· = v.outside) fun _ => True)
    (hx : Course (fun _ => True) (e.succeed host w).2 x) :
    x.Closes w e stream ((v.exchange e).response.finale w.channel.version edit) := by
  obtain ⟨depth, hh⟩ := h.surroundings
  obtain ⟨hclosing, hemissions⟩ := h.closing hw
  rw [h.succeed_eq, Effect.snd_bind_pure] at hx
  exact (closes_sendEnd hh.lawful hclosing hw hprepares rfl hx).of_emissions hemissions

/-- If content is left unread, the response ends as it is then, and the connection is not used
again. -/
theorem closes_unread {unread : FailureRef} (h : w.Discards e stream host (some unread) v)
    (hw : w.Possible) (hprepares : stream.Prepares host edit (· = v.outside) fun _ => True)
    (hunread : (v.failures.get unread).error.isUnconsumedBody = true)
    (hx : Course (fun _ => True) (e.succeed host w).2 x) :
    x.Closes w e stream (((v.exchange e).response.unread v.channel.persistent).finale
        w.channel.version edit) ∧
      x.channel.persistent = false := by
  obtain ⟨depth, hh⟩ := h.surroundings
  obtain ⟨hclosing, hemissions⟩ := h.closing hw
  obtain ⟨v₁, hrun, hresponse, hpersistent, houtside⟩ :=
    Engine.forbidReuse_run (w := v) hclosing.index_lt
  have hcourse := Engine.runs_forbidReuse e v hclosing.sound₁
  have hclosing₁ := (hclosing.run (Engine.runs_forbidReuse e)).1
  have hkept := Course.emissions_of_ending hcourse hclosing.sound₁ hclosing.not_open
    hclosing.ending
  rw [hrun] at hclosing₁ hkept
  have hrun' : (e.succeed host w).2 = (Engine.sendEnd host e stream v₁).2 := by
    rw [h.succeed_eq, Effect.snd_bind_pure]
    refine congrArg Prod.snd ((Effect.bind_of_done rfl).trans ?_)
    dsimp only
    rw [if_pos hunread]
    exact Effect.bind_of_done hrun
  rw [hrun'] at hx
  have hcloses := closes_sendEnd hh.lawful hclosing₁ hw hprepares houtside hx
  rw [hresponse] at hcloses
  refine ⟨hcloses.of_emissions (hkept.trans hemissions), ?_⟩
  have hself : Closing (fun _ => True) v₁ v₁ e stream none :=
    ⟨hclosing₁.sound₁, fun _ _ => trivial, trivial, .refl, hclosing₁.ending, hclosing₁.completing⟩
  have hend := Engine.course_sendEnd hh.lawful hself
  exact Course.persistent_eq_false (Relation.ReflTransGen.trans hend hx) hpersistent

/-- If the stream cannot discard the rest, nothing is sent, and it is told what it has said. -/
theorem fails {unread : FailureRef} (h : w.Discards e stream host (some unread) v)
    (hw : w.Possible) (hother : (v.failures.get unread).error.isUnconsumedBody = false)
    (hx : Course (fun _ => True) (e.succeed host w).2 x) :
    x.emissions e = w.emissions e ∧
      (x.history e).filter Deed.isOutcome = [.failed e stream unread] := by
  obtain ⟨depth, hh⟩ := h.surroundings
  obtain ⟨hclosing, hemissions⟩ := h.closing hw
  have hrun : (e.succeed host w).2 = (Engine.terminate host e stream unread v).2 := by
    rw [h.succeed_eq, Effect.snd_bind_pure]
    refine congrArg Prod.snd ((Effect.bind_of_done rfl).trans ?_)
    dsimp only
    rw [hother]
    rfl
  rw [hrun] at hx
  obtain ⟨hsame, houtcomes⟩ := closes_terminate hh.lawful hclosing hw unread hx
  exact ⟨hsame.trans hemissions, houtcomes⟩

end World.Discards

/-- **Unread content costs the connection, and nothing else.** Compare two calls that end an exchange
with success in the same reachable state, one that finds the request body read and one that finds some
of it left unread, all else being equal. From then on, whatever runs, the same is sent for the exchange
in both cases, and the stream is told the same, with the following exceptions in the second case: the
connection cannot be used again, and if it could and the head is sent now, its `Connection` field is
`close` and nothing else. If the stream cannot discard the body for another reason, nothing is sent, and
the stream is told that failure. A connection that cannot be used again stays so in every run. -/
theorem unread_body_costs_reuse {w : World κ ε} (hw : Reachable w) :
    (∀ e stream host v host' unread v' edit, w.Discards e stream host none v →
      w.Discards e stream host' (some unread) v' →
      (v'.failures.get unread).error.isUnconsumedBody = true →
      (v'.exchange e).response = (v.exchange e).response →
      v'.channel.persistent = v.channel.persistent → IgnoresConnection edit →
      stream.Prepares host edit (· = v.outside) (fun _ => True) →
      stream.Prepares host' edit (· = v'.outside) (fun _ => True) →
      ∃ finale finale', finale.Alike v.channel.persistent finale' ∧
        (∀ (β : Type) (m : Engine κ ε β), Permitted m →
          (m (e.succeed host w).2).2.Closes w e stream finale) ∧
        ∀ (β : Type) (m : Engine κ ε β), Permitted m →
          (m (e.succeed host' w).2).2.Closes w e stream finale' ∧
          (m (e.succeed host' w).2).2.channel.persistent = false) ∧
    (∀ e stream host unread v, w.Discards e stream host (some unread) v →
      (v.failures.get unread).error.isUnconsumedBody = false →
      ∀ (β : Type) (m : Engine κ ε β), Permitted m →
        (m (e.succeed host w).2).2.emissions e = w.emissions e ∧
        ((m (e.succeed host w).2).2.history e).filter Deed.isOutcome =
          [.failed e stream unread]) ∧
    ∀ (β : Type) (m : Engine κ ε β), Permitted m → w.channel.persistent = false →
      (m w).2.channel.persistent = false := by
  have h := hw.possible
  have hlater : ∀ {e host v stream unread}, w.Discards e stream host unread v →
      ∀ (β : Type) (m : Engine κ ε β), Permitted m →
        Course (fun _ => True) (e.succeed host w).2 (m (e.succeed host w).2).2 := by
    intro e host v stream unread hdiscards β m hm
    obtain ⟨depth, hh⟩ := hdiscards.surroundings
    have hsound := Course.sound (e.runs_succeed hh.lawful w h.sound) h.sound
    exact Course.mono (fun _ _ => trivial) (hm.runs _ hsound)
  refine ⟨?_, ?_, fun β m hm => Course.persistent_eq_false (hm.runs w h.sound)⟩
  · intro e stream host v host' unread v' edit hread hleft hunread hresponse hpersistent hedit
      hprepares hprepares'
    refine ⟨_, _, Response.finale_alike hedit (v.exchange e).response v.channel.persistent
      w.channel.version, fun β m hm => ?_, fun β m hm => ?_⟩
    · exact hread.closes h hprepares (hlater hread β m hm)
    · have hcloses := hleft.closes_unread h hprepares' hunread (hlater hleft β m hm)
      rwa [hresponse, hpersistent] at hcloses
  · intro e stream host unread v hleft hother β m hm
    exact hleft.fails h hother (hlater hleft β m hm)

/-- Whether nothing keeps an exchange from ending with success can be computed. -/
theorem World.exists_ready {w : World κ ε} {e : ExchangeRef}
    (h : (w.activeFor? e).any
      (fun a => a.processing && a.demand.isNone && a.write.isNone && a.error.isNone) = true) :
    ∃ a, w.activeFor? e = some a ∧ a.Ready := by
  obtain ⟨a, ha, hflags⟩ := (Option.any_eq_true ..).1 h
  simp only [Bool.and_eq_true, Option.isNone_iff_eq_none] at hflags
  obtain ⟨⟨⟨hprocessing, hdemand⟩, hwrite⟩, herror⟩ := hflags
  exact ⟨a, ha, hprocessing, hdemand, hwrite, herror⟩

/-- The same surroundings with streams that discard a body like this. -/
def Host.discarding (host : Host κ ε) (discard : StreamRef → Engine κ ε (Option FailureRef)) :
    Host κ ε :=
  { host with transport := { host.transport with consumeAll := discard } }

theorem Surroundings.discarding {depth : Nat} (h : Surroundings (depth + 1) host)
    {discard : StreamRef → Engine κ ε (Option FailureRef)}
    (hdiscard : ∀ ref, Client (Surroundings depth) _ (discard ref)) :
    Surroundings (depth + 1) (host.discarding discard) := by
  obtain ⟨⟨hrun, hread, hdemand, hprepare, hsend, hpush, -, hsucceeded, hfailed, hobserve, hquiet,
    hhandle, hrender, htask⟩, hperform⟩ := h
  exact ⟨⟨hrun, hread, hdemand, hprepare, hsend, hpush, hdiscard, hsucceeded, hfailed, hobserve,
    hquiet, hhandle, hrender, htask⟩, hperform⟩

/-- Streams that do not discard a body, and say so with this error. -/
def leaving (error : ExchangeError) : Host Unit Unit :=
  (Host.idle 2).discarding fun _ => do return some (← Engine.newFailure error)

theorem surroundings_leaving (error : ExchangeError) : Surroundings 2 (leaving error) :=
  (surroundings_idle 2).discarding fun _ => .bind (.newFailure error) fun _ => .pure _

def FieldValue.keepAlive : FieldValue := ⟨Octets.ofString "keep-alive", by decide⟩

/-- A request arrives and is handled, and its response is to say that the connection stays. -/
def keptAlive : Engine Unit Unit Unit := do
  let _ ← Channel.setStream (.transport ⟨0⟩)
  let _ ← Channel.onRequest (Host.idle 2) .bare
  Job.perform (Host.idle 2) (.dispatch ⟨0⟩)
  let _ ← ExchangeRef.editFields ⟨0⟩ fun fields =>
    pure ((), fields.insert .connection .keepAlive)

theorem permitted_keptAlive : Permitted keptAlive := by
  have hidle : ∃ depth, Surroundings depth (Host.idle 2 : Host Unit Unit) :=
    ⟨2, surroundings_idle 2⟩
  exact .bind (.setStream _) fun _ => .bind (.onRequest _ hidle) fun _ =>
    .bind (.perform _ hidle) fun _ => .bind (.editFields _ fun _ => .pure _) fun _ => .pure ()

/-- The same with the end of the exchange, whose body is left unread. -/
def leftUnread : Engine Unit Unit Unit := do
  keptAlive
  let _ ← ExchangeRef.succeed (leaving (.unconsumedBody "left")) ⟨0⟩

theorem permitted_leftUnread : Permitted leftUnread :=
  .bind permitted_keptAlive fun _ =>
    .bind (.succeed _ ⟨2, surroundings_leaving _⟩) fun _ => .pure ()

/-- If the body is left unread the head says `close` in place of `keep-alive`, and the connection
cannot be used again, and another stream does not change that. If the body cannot be discarded nothing
is sent. -/
theorem unread_body_costs_reuse_keptAlive :
    let w := World.after keptAlive
    let read := (ExchangeRef.succeed (Host.idle 2) ⟨0⟩ w).2
    let left := (ExchangeRef.succeed (leaving (.unconsumedBody "left")) ⟨0⟩ w).2
    let broken := (ExchangeRef.succeed (leaving (.transport "broken")) ⟨0⟩ w).2
    (∃ finale finale', finale.Alike true finale' ∧
      read.Closes w ⟨0⟩ (.transport ⟨0⟩) finale ∧ left.Closes w ⟨0⟩ (.transport ⟨0⟩) finale' ∧
      left.channel.persistent = false) ∧
    broken.emissions ⟨0⟩ = [] ∧
    (broken.history ⟨0⟩).filter Deed.isOutcome = [.failed ⟨0⟩ (.transport ⟨0⟩) ⟨0⟩] ∧
    (Channel.setStream (.transport ⟨1⟩) (World.after leftUnread)).2.channel.persistent = false := by
  intro w read left broken
  let v := (w.detach ⟨0⟩ none).setPhase ⟨0⟩ .completing
  have hw := permitted_keptAlive.reachable
  obtain ⟨a, ha, hready⟩ : ∃ a, w.activeFor? ⟨0⟩ = some a ∧ a.Ready :=
    World.exists_ready (by decide +kernel)
  have hstream : w.channel.stream = some (.transport ⟨0⟩) := by decide +kernel
  have hread : w.Discards ⟨0⟩ (.transport ⟨0⟩) (Host.idle 2) none v :=
    ⟨⟨a, ha, hready⟩, hstream, ⟨2, surroundings_idle 2⟩, rfl⟩
  have hleft : ∀ error, w.Discards ⟨0⟩ (.transport ⟨0⟩) (leaving error) (some v.failures.next)
      (v.addFailure error) :=
    fun error => ⟨⟨a, ha, hready⟩, hstream, ⟨2, surroundings_leaving error⟩, rfl⟩
  have hprepares : ∀ error, (leaving error).Prepares fun _ fields => fields :=
    fun _ => ⟨fun _ _ w => ⟨w.outside, rfl⟩, fun _ w => ⟨w.outside, rfl⟩⟩
  have hignores : IgnoresConnection fun fields => fields := ⟨fun _ _ hsame => hsame, fun _ => rfl⟩
  obtain ⟨halike, hbroken, -⟩ := unread_body_costs_reuse hw
  obtain ⟨finale, finale', halike, hcloses, hcloses'⟩ := halike ⟨0⟩ (.transport ⟨0⟩) _ v _ _ _ _
    hread (hleft (.unconsumedBody "left")) (by decide +kernel) rfl rfl hignores
    ((Host.prepares_idle 2).stream _ _) ((hprepares _).stream _ _)
  have hsent := hbroken ⟨0⟩ (.transport ⟨0⟩) _ _ _ (hleft (.transport "broken"))
    (by decide +kernel) Unit (pure ()) (.pure ())
  replace hcloses := hcloses Unit (pure ()) (.pure ())
  replace hcloses' := hcloses' Unit (pure ()) (.pure ())
  simp only [Effect.pure_run] at hsent hcloses hcloses'
  have hpersistent : v.channel.persistent = true := by decide +kernel
  rw [hpersistent] at halike
  obtain ⟨-, -, hstays⟩ := unread_body_costs_reuse permitted_leftUnread.reachable
  have hlost : (World.after leftUnread).channel.persistent = false := by decide +kernel
  have hempty : w.emissions ⟨0⟩ = [] := by decide +kernel
  dsimp only [w, read, left, broken]
  exact ⟨⟨finale, finale', halike, hcloses, hcloses'⟩, hsent.1.trans hempty, hsent.2,
    hstays _ _ (.setStream _) hlost⟩

end HttpExchange
