import HttpExchange.Http.Parsed
import Mathlib.Data.List.Forall2

/-!
# Heads made of what a parser found

What a parser found forms a head exactly if nothing is missing and every part is acceptable
(`ParsedRequest.Acceptable`). The head has everything that was given (`ParsedRequest.Yields`): as
many field values as there were, and for each name, in whatever letter case it was given, its values
in their order. Otherwise the answer names the first part that is at fault
(`ParsedRequest.Faulty`). The main statement is `head_yields_all_or_first_fault`.

Success and failure are described apart from each other and from the order of the checks: what is
acceptable is a conjunction, and what is at fault first is one constructor for each reason, each with
all that comes before it in order. That exactly one of the two holds is part of what is proved.

The fields are taken one after the other into an entry each, related to what was given by
`List.Forall₂`. So nothing can be dropped or made up on the way, and what the head has for a name is
read off the entries.
-/

namespace HttpExchange

/-! ## Fields -/

namespace RawField

/-- The name is a token that is not too long. -/
def ValidName (field : RawField) : Prop :=
  isToken field.1 = true ∧ field.1.length ≤ FieldName.maxLength

/-- Every octet of the value may stand in a value. -/
def ValidValue (field : RawField) : Prop := field.2.all isValueOctet = true

/-- A field with an acceptable name and an acceptable value. -/
def Valid (field : RawField) : Prop := field.ValidName ∧ field.ValidValue

/-- The entry that a field becomes: the name in small letters, and the value as it is. -/
structure Gives (field : RawField) (entry : FieldName × FieldValue) : Prop where
  name : entry.1.octets = field.1.toLower
  value : entry.2.octets = field.2

variable {field : RawField}

theorem exists_check (h : field.Valid) : ∃ entry, field.check = .ok entry ∧ field.Gives entry := by
  obtain ⟨hname, hvalue⟩ := h
  have hlower : field.1.toLower.toLower = field.1.toLower := by
    simp [Octets.toLower, Octets.lower_lower]
  have hsomeName : FieldName.ofOctets? field.1 =
      some ⟨field.1.toLower, isToken_toLower hname.1, hlower⟩ := dif_pos hname
  have hsomeValue : FieldValue.ofOctets? field.2 = some ⟨field.2, hvalue⟩ := dif_pos hvalue
  let entry : FieldName × FieldValue :=
    (⟨field.1.toLower, isToken_toLower hname.1, hlower⟩, ⟨field.2, hvalue⟩)
  refine ⟨entry, ?_, ⟨rfl, rfl⟩⟩
  rw [check, hsomeName, hsomeValue]

theorem check_of_not_validName (h : ¬field.ValidName) : field.check = .error .invalidName := by
  have hnone : FieldName.ofOctets? field.1 = none := dif_neg h
  rw [check, hnone]

theorem check_of_not_validValue (hname : field.ValidName) (h : ¬field.ValidValue) :
    field.check = .error .invalidValue := by
  have hsome : ∃ name, FieldName.ofOctets? field.1 = some name := ⟨_, dif_pos hname⟩
  obtain ⟨name, hsome⟩ := hsome
  have hnone : FieldValue.ofOctets? field.2 = none := dif_neg h
  rw [check, hsome, hnone]

end RawField

namespace Fields

variable {raw before after : List RawField} {field : RawField}

theorem ofRaw_cons_of_ok {entry : FieldName × FieldValue} (h : field.check = .ok entry)
    (raw : List RawField) :
    ofRaw (field :: raw) = (ofRaw raw).map fun fields => ⟨entry :: fields.entries⟩ := by
  rw [ofRaw, List.mapM_cons, h, ofRaw]
  cases raw.mapM RawField.check <;> rfl

theorem ofRaw_cons_of_error {fault : HeadError} (h : field.check = .error fault)
    (raw : List RawField) : ofRaw (field :: raw) = .error fault := by
  rw [ofRaw, List.mapM_cons, h]
  rfl

/-- Valid fields become entries, one by one. -/
theorem exists_ofRaw (h : ∀ field ∈ raw, field.Valid) :
    ∃ fields, ofRaw raw = .ok fields ∧ List.Forall₂ RawField.Gives raw fields.entries := by
  induction raw with
  | nil => exact ⟨empty, rfl, .nil⟩
  | cons field raw ih =>
    obtain ⟨hfield, hraw⟩ := List.forall_mem_cons.1 h
    obtain ⟨entry, hentry, hgives⟩ := RawField.exists_check hfield
    obtain ⟨fields, hfields, hall⟩ := ih hraw
    refine ⟨⟨entry :: fields.entries⟩, ?_, .cons hgives hall⟩
    rw [ofRaw_cons_of_ok hentry, hfields]
    rfl

/-- The first field at fault is the answer. -/
theorem ofRaw_eq_error {fault : HeadError} (hbefore : ∀ field ∈ before, field.Valid)
    (h : field.check = .error fault) : ofRaw (before ++ field :: after) = .error fault := by
  induction before with
  | nil => exact ofRaw_cons_of_error h after
  | cons first before ih =>
    obtain ⟨hfirst, hbefore⟩ := List.forall_mem_cons.1 hbefore
    obtain ⟨entry, hentry, -⟩ := RawField.exists_check hfirst
    rw [List.cons_append, ofRaw_cons_of_ok hentry, ih hbefore]
    rfl

/-- Fields are all valid, or there is a first one that is not. -/
theorem valid_or_first_fault (raw : List RawField) :
    (∀ field ∈ raw, field.Valid) ∨
      ∃ before field after, raw = before ++ field :: after ∧ (∀ f ∈ before, RawField.Valid f) ∧
        ¬field.Valid := by
  induction raw with
  | nil => exact .inl nofun
  | cons first raw ih =>
    by_cases hfirst : first.Valid
    · rcases ih with hall | ⟨before, field, after, rfl, hbefore, hfield⟩
      · exact .inl (List.forall_mem_cons.2 ⟨hfirst, hall⟩)
      · exact .inr ⟨first :: before, field, after, rfl,
          List.forall_mem_cons.2 ⟨hfirst, hbefore⟩, hfield⟩
    · exact .inr ⟨[], first, raw, rfl, nofun, hfirst⟩

/-- The values of a name are those that were given for it, in any letter case and in this order. -/
theorem values_of_gives {entries : List (FieldName × FieldValue)}
    (h : List.Forall₂ RawField.Gives raw entries) (name : FieldName) :
    ((Fields.mk entries).values name).map (·.octets) =
      (raw.filter fun field => field.1.toLower = name.octets).map (·.2) := by
  induction h with
  | nil => rfl
  | @cons field entry raw entries hgives hall ih =>
    have hname : entry.1 = name ↔ field.1.toLower = name.octets := by
      rw [← hgives.name, FieldName.mk.injEq]
    simp only [values] at ih
    by_cases hsame : entry.1 = name
    · simp [values, hsame, hname.1 hsame, hgives.value, ih]
    · simp [values, hsame, mt hname.2 hsame, ih]

end Fields

/-! ## Heads -/

namespace ParsedRequest

/-- Nothing is missing, and the version is one of the two that there are. -/
structure Present (parsed : ParsedRequest) (method target : Octets) (version : Version) :
    Prop where
  method : parsed.method = some method
  target : parsed.target = some target
  version : (parsed.minorVersion = some 0 ∧ version = .http10) ∨
    (parsed.minorVersion = some 1 ∧ version = .http11)

/-- Nothing is missing, and every part is acceptable. -/
def Acceptable (parsed : ParsedRequest) : Prop :=
  ∃ method target version, parsed.Present method target version ∧ isToken method = true ∧
    (∃ t, Target.parse target = .ok t) ∧ ∀ field ∈ parsed.fields, field.Valid

/-- The head has everything that the parser found. -/
structure Yields (parsed : ParsedRequest) (head : RequestHead) : Prop where
  present : ∃ target, parsed.Present head.method.octets target head.version ∧
    Target.parse target = .ok head.target
  values : ∀ name : FieldName, (head.fields.values name).map (·.octets) =
    (parsed.fields.filter fun field => field.1.toLower = name.octets).map (·.2)
  size : head.fields.size = parsed.fields.length
  bare : head.attachment = none

/-- Why there is no head: the reason of the first part that is missing or at fault, in the order
method, target and version as far as they are there, then method, target and fields as far as they
are acceptable, the fields from left to right and each name before its value. -/
inductive Faulty (parsed : ParsedRequest) : (reason : String) → Prop
  | noMethod : parsed.method = none → Faulty parsed "missing method"
  | noTarget : parsed.method ≠ none → parsed.target = none →
      Faulty parsed "missing request target"
  | noVersion : parsed.method ≠ none → parsed.target ≠ none → parsed.minorVersion ≠ some 0 →
      parsed.minorVersion ≠ some 1 → Faulty parsed "unsupported http version"
  | method {method target : Octets} {version : Version} :
      parsed.Present method target version → isToken method = false →
      Faulty parsed "invalid HTTP method"
  | target {method target : Octets} {version : Version} {fault : TargetError} :
      parsed.Present method target version → isToken method = true →
      Target.parse target = .error fault → Faulty parsed fault.message
  | name {method target : Octets} {version : Version} {t : Target}
      {before after : List RawField} {field : RawField} :
      parsed.Present method target version → isToken method = true →
      Target.parse target = .ok t → parsed.fields = before ++ field :: after →
      (∀ f ∈ before, f.Valid) → ¬field.ValidName → Faulty parsed "invalid HTTP header name"
  | value {method target : Octets} {version : Version} {t : Target}
      {before after : List RawField} {field : RawField} :
      parsed.Present method target version → isToken method = true →
      Target.parse target = .ok t → parsed.fields = before ++ field :: after →
      (∀ f ∈ before, f.Valid) → field.ValidName → ¬field.ValidValue →
      Faulty parsed "failed to parse header value"

variable {parsed : ParsedRequest} {method target : Octets} {version : Version}

/-- With nothing missing, the parts are checked. -/
theorem Present.ofParsed_eq (h : parsed.Present method target version) :
    RequestHead.ofParsed parsed =
      (RequestHead.build method target version parsed.fields none).mapError
        (.badRequest ·.message) := by
  rw [RequestHead.ofParsed, h.method, h.target]
  rcases h.version with ⟨hminor, rfl⟩ | ⟨hminor, rfl⟩ <;> rw [hminor] <;> rfl

/-- Parts that are acceptable so far leave the fields to be checked. -/
theorem build_of_ok {t : Target} (hmethod : isToken method = true)
    (htarget : Target.parse target = .ok t) (raw : List RawField) :
    RequestHead.build method target version raw none =
      (Fields.ofRaw raw).map fun fields => ⟨⟨method, hmethod⟩, t, version, fields, none⟩ := by
  have hsome : Method.ofOctets? method = some ⟨method, hmethod⟩ := dif_pos hmethod
  rw [RequestHead.build, hsome, htarget]
  cases Fields.ofRaw raw <;> rfl

theorem Acceptable.exists_head (h : parsed.Acceptable) :
    ∃ head, RequestHead.ofParsed parsed = .ok head ∧ parsed.Yields head := by
  obtain ⟨method, target, version, hpresent, hmethod, ⟨t, htarget⟩, hfields⟩ := h
  obtain ⟨fields, hraw, hgives⟩ := Fields.exists_ofRaw hfields
  refine ⟨⟨⟨method, hmethod⟩, t, version, fields, none⟩, ?_, ⟨target, hpresent, htarget⟩,
    Fields.values_of_gives hgives, hgives.length_eq.symm, rfl⟩
  rw [hpresent.ofParsed_eq, build_of_ok hmethod htarget, hraw]
  rfl

/-- The first fault is the answer. -/
theorem Faulty.ofParsed_eq {reason : String} (h : parsed.Faulty reason) :
    RequestHead.ofParsed parsed = .error (.badRequest reason) := by
  cases h with
  | noMethod hmethod =>
    rw [RequestHead.ofParsed, hmethod]
  | noTarget hmethod htarget =>
    obtain ⟨method, hmethod⟩ := Option.ne_none_iff_exists'.1 hmethod
    rw [RequestHead.ofParsed, hmethod, htarget]
  | noVersion hmethod htarget hzero hone =>
    obtain ⟨method, hmethod⟩ := Option.ne_none_iff_exists'.1 hmethod
    obtain ⟨target, htarget⟩ := Option.ne_none_iff_exists'.1 htarget
    rw [RequestHead.ofParsed, hmethod, htarget]
    dsimp only
    split
    next hminor => exact absurd hminor hone
    next hminor => exact absurd hminor hzero
    next => rfl
  | method hpresent hmethod =>
    rename_i method target version
    have hnone : Method.ofOctets? method = none := dif_neg (by simp [hmethod])
    rw [hpresent.ofParsed_eq, RequestHead.build, hnone]
    rfl
  | target hpresent hmethod htarget =>
    rename_i method target version fault
    have hsome : Method.ofOctets? method = some ⟨method, hmethod⟩ := dif_pos hmethod
    rw [hpresent.ofParsed_eq, RequestHead.build, hsome, htarget]
    rfl
  | name hpresent hmethod htarget hfields hbefore hname =>
    rw [hpresent.ofParsed_eq, build_of_ok hmethod htarget, hfields,
      Fields.ofRaw_eq_error hbefore (RawField.check_of_not_validName hname)]
    rfl
  | value hpresent hmethod htarget hfields hbefore hname hvalue =>
    rw [hpresent.ofParsed_eq, build_of_ok hmethod htarget, hfields,
      Fields.ofRaw_eq_error hbefore (RawField.check_of_not_validValue hname hvalue)]
    rfl

/-- Whatever is found is acceptable, or something in it is the first fault. -/
theorem acceptable_or_faulty (parsed : ParsedRequest) :
    parsed.Acceptable ∨ ∃ reason, parsed.Faulty reason := by
  cases hmethod : parsed.method with
  | none => exact .inr ⟨_, .noMethod hmethod⟩
  | some method =>
    have hmethod' : parsed.method ≠ none := by simp [hmethod]
    cases htarget : parsed.target with
    | none => exact .inr ⟨_, .noTarget hmethod' htarget⟩
    | some target =>
      have htarget' : parsed.target ≠ none := by simp [htarget]
      have hversion : (∃ version, parsed.Present method target version) ∨
          (parsed.minorVersion ≠ some 0 ∧ parsed.minorVersion ≠ some 1) := by
        by_cases hzero : parsed.minorVersion = some 0
        · exact .inl ⟨_, hmethod, htarget, .inl ⟨hzero, rfl⟩⟩
        · by_cases hone : parsed.minorVersion = some 1
          · exact .inl ⟨_, hmethod, htarget, .inr ⟨hone, rfl⟩⟩
          · exact .inr ⟨hzero, hone⟩
      rcases hversion with ⟨version, hpresent⟩ | ⟨hzero, hone⟩
      · cases htoken : isToken method with
        | false => exact .inr ⟨_, .method hpresent htoken⟩
        | true =>
          cases hparse : Target.parse target with
          | error fault => exact .inr ⟨_, .target hpresent htoken hparse⟩
          | ok t =>
            rcases Fields.valid_or_first_fault parsed.fields with
              hall | ⟨before, field, after, hfields, hbefore, hfield⟩
            · exact .inl ⟨method, target, version, hpresent, htoken, ⟨t, hparse⟩, hall⟩
            · by_cases hname : field.ValidName
              · refine .inr ⟨_, .value hpresent htoken hparse hfields hbefore hname ?_⟩
                exact fun hvalue => hfield ⟨hname, hvalue⟩
              · exact .inr ⟨_, .name hpresent htoken hparse hfields hbefore hname⟩
      · exact .inr ⟨_, .noVersion hmethod' htarget' hzero hone⟩

end ParsedRequest

/-- **All or the first fault.** What a parser found forms a head exactly if the method and the
target are there, the minor version is zero or one, and every part is acceptable. The head then has
the method, the target and the version that were found, as many field values as were found, and for
each name those that were given for it in any letter case, in their order. Otherwise the answer is a
bad request, and its reason is that of the first part that is missing or at fault. -/
theorem head_yields_all_or_first_fault (parsed : ParsedRequest) :
    ((∃ head, RequestHead.ofParsed parsed = .ok head) ↔ parsed.Acceptable) ∧
    (∀ head, RequestHead.ofParsed parsed = .ok head → parsed.Yields head) ∧
    ∀ error, RequestHead.ofParsed parsed = .error error ↔
      ∃ reason, parsed.Faulty reason ∧ error = .protocol .badRequest reason := by
  rcases parsed.acceptable_or_faulty with haccepted | ⟨reason, hfaulty⟩
  · obtain ⟨head, hhead, hyields⟩ := haccepted.exists_head
    rw [hhead]
    refine ⟨⟨fun _ => haccepted, fun _ => ⟨head, rfl⟩⟩, ?_, fun error => ⟨nofun, ?_⟩⟩
    · rintro _ ⟨⟩
      exact hyields
    · rintro ⟨reason, hfaulty, -⟩
      cases hhead.symm.trans hfaulty.ofParsed_eq
  · have hanswer := hfaulty.ofParsed_eq
    refine ⟨⟨?_, fun haccepted => ?_⟩, ?_, fun error => ⟨fun herror => ?_, ?_⟩⟩
    · rintro ⟨head, hhead⟩
      cases hhead.symm.trans hanswer
    · obtain ⟨head, hhead, -⟩ := haccepted.exists_head
      exact ⟨head, hhead⟩
    · intro head hhead
      cases hhead.symm.trans hanswer
    · cases herror.symm.trans hanswer
      exact ⟨reason, hfaulty, rfl⟩
    · rintro ⟨other, hother, rfl⟩
      exact hother.ofParsed_eq

/-- A name that is given twice, in two letter cases and with another one in between. -/
theorem head_yields_all_or_first_fault_mixedCase :
    let name : FieldName := ⟨Octets.ofString "accept", by decide, by decide⟩
    let parsed : ParsedRequest :=
      ⟨some (Octets.ofString "POST"), some (Octets.ofString "/upload?name=a"), some 1,
        [(Octets.ofString "Accept", [97]), (Octets.ofString "Host", [104]),
          (Octets.ofString "ACCEPT", [98])]⟩
    ∃ head, RequestHead.ofParsed parsed = .ok head ∧ parsed.Yields head ∧
      (head.fields.values name).map (·.octets) = [[97], [98]] ∧ head.fields.size = 3 := by
  intro name parsed
  have hfound : ∃ head, RequestHead.ofParsed parsed = .ok head := ⟨_, rfl⟩
  obtain ⟨head, hhead⟩ := hfound
  have hyields := (head_yields_all_or_first_fault parsed).2.1 head hhead
  exact ⟨head, hhead, hyields, hyields.values name, hyields.size⟩

end HttpExchange
