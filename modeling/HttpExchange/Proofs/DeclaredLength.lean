import HttpExchange.Engine.Writing
import HttpExchange.Http.RequestHead
import HttpExchange.Proofs.Update
import Mathlib.Data.List.Induction
import Mathlib.Data.List.TakeWhile

/-!
# Declared body lengths

The length that a `Content-Length` field declares is a matter of grammar: digits, with nothing but
blanks and tabs around them, whose number fits 64 bits (`Fields.Declares`). The reader of such
fields also takes numbers with a plus sign in front, which the grammar does not have
(`Fields.DeclaresSigned`). So it finds a length exactly if the first value is of one form or the
other, no value is of both, and each number can be declared in the form that should not count
(`length_read_iff_declared_or_signed`). The same reader decides about requests and about the length
that is fixed with the head of a response.
-/

namespace HttpExchange

variable {κ ε : Type}

/-! ## Numerals -/

namespace Octets

/-- Digits, at least one, and the number that they stand for. -/
inductive Numeral : Octets → Nat → Prop
  | digit {b : UInt8} : isDigit b = true → Numeral [b] (b.toNat - 48)
  | concat {bs : Octets} {n : Nat} {b : UInt8} : Numeral bs n → isDigit b = true →
      Numeral (bs ++ [b]) (10 * n + (b.toNat - 48))

theorem Numeral.isDigit_of_mem {bs : Octets} {n : Nat} (h : Numeral bs n) :
    ∀ b ∈ bs, isDigit b = true := by
  induction h with
  | digit hb =>
    intro b hmem
    rw [List.mem_singleton.1 hmem]
    exact hb
  | concat _ hb ih =>
    intro b hmem
    rcases List.mem_append.1 hmem with hmem | hmem
    · exact ih b hmem
    · rw [List.mem_singleton.1 hmem]
      exact hb

theorem Numeral.value_eq {bs : Octets} {n : Nat} (h : Numeral bs n) : valueFrom 0 bs = n := by
  induction h with
  | digit =>
    show 0 * 10 + _ = _
    omega
  | concat _ _ ih =>
    rw [valueFrom_concat, ih, withDigit]
    omega

theorem numeral_valueFrom {bs : Octets} (hne : bs ≠ []) (hdigits : ∀ b ∈ bs, isDigit b = true) :
    Numeral bs (valueFrom 0 bs) := by
  induction bs using List.reverseRecOn with
  | nil => exact absurd rfl hne
  | append_singleton bs b ih =>
    have hb : isDigit b = true := hdigits b (by simp)
    rw [valueFrom_concat, withDigit]
    by_cases hnil : bs = []
    · subst hnil
      have hzero : valueFrom 0 [] * 10 + (b.toNat - 48) = b.toNat - 48 := by
        show 0 * 10 + (b.toNat - 48) = b.toNat - 48
        omega
      rw [hzero]
      exact .digit hb
    · rw [Nat.mul_comm]
      exact .concat (ih hnil fun b hmem => hdigits b (List.mem_append_left _ hmem)) hb

/-- A numeral is a nonempty text of digits, read from the left. -/
theorem numeral_iff {bs : Octets} {n : Nat} :
    Numeral bs n ↔ bs ≠ [] ∧ (∀ b ∈ bs, isDigit b = true) ∧ valueFrom 0 bs = n := by
  constructor
  · intro h
    refine ⟨?_, h.isDigit_of_mem, h.value_eq⟩
    cases h <;> simp
  · rintro ⟨hne, hdigits, rfl⟩
    exact numeral_valueFrom hne hdigits

end Octets

open Octets

/-! ## Texts with blanks around them -/

namespace ContentLength

/-- The text is `core` with nothing but blanks and tabs around it. -/
def Padded (core text : Octets) : Prop :=
  ∃ before after, text = before ++ core ++ after ∧
    (∀ b ∈ before, isBlank b = true) ∧ ∀ b ∈ after, isBlank b = true

/-- A text is what is left of it without the blanks at its ends, and those blanks. -/
theorem padded_trim (text : Octets) : Padded (trim text) text := by
  let inner := text.dropWhile isBlank
  refine ⟨text.takeWhile isBlank, (inner.reverse.takeWhile isBlank).reverse, ?_, ?_, ?_⟩
  · have hinner : trim text ++ (inner.reverse.takeWhile isBlank).reverse = inner := by
      rw [trim, ← List.reverse_append, List.takeWhile_append_dropWhile, List.reverse_reverse]
    rw [List.append_assoc, hinner, List.takeWhile_append_dropWhile]
  · exact fun b hb => List.mem_takeWhile_imp hb
  · exact fun b hb => List.mem_takeWhile_imp (List.mem_reverse.1 hb)

/-- Nothing is dropped from a text without blanks. -/
theorem dropWhile_isBlank_append {core rest : Octets} (hcore : ∀ b ∈ core, isBlank b = false)
    (hrest : ∀ b ∈ rest, isBlank b = true) :
    (core ++ rest).dropWhile isBlank = if core = [] then [] else core ++ rest := by
  cases core with
  | nil => exact (List.dropWhile_eq_nil_iff).2 hrest
  | cons b bs => simp [hcore b List.mem_cons_self]

/-- The blanks around a text without any are found exactly. -/
theorem Padded.trim_eq {core text : Octets} (h : Padded core text)
    (hcore : ∀ b ∈ core, isBlank b = false) : trim text = core := by
  obtain ⟨before, after, rfl, hbefore, hafter⟩ := h
  have hafter' : ∀ b ∈ after.reverse, isBlank b = true := fun b hb =>
    hafter b (List.mem_reverse.1 hb)
  have hcore' : ∀ b ∈ core.reverse, isBlank b = false := fun b hb =>
    hcore b (List.mem_reverse.1 hb)
  unfold trim
  rw [List.append_assoc, List.dropWhile_append_of_pos hbefore,
    dropWhile_isBlank_append hcore hafter]
  by_cases hnil : core = []
  · rw [if_pos hnil, hnil]
    rfl
  · have hstops : core.reverse.dropWhile isBlank = core.reverse := by
      have hwhole := dropWhile_isBlank_append hcore' (List.forall_mem_nil _)
      rwa [List.append_nil, if_neg (List.reverse_ne_nil_iff.2 hnil)] at hwhole
    rw [if_neg hnil, List.reverse_append, List.dropWhile_append_of_pos hafter', hstops,
      List.reverse_reverse]

theorem isBlank_of_isDigit {b : UInt8} (h : isDigit b = true) : isBlank b = false := by
  simp only [isDigit, Bool.and_eq_true, decide_eq_true_eq] at h
  simp only [isBlank, Bool.or_eq_false_iff, decide_eq_false_iff_not]
  omega

theorem isPlain_of_isBlank {b : UInt8} (h : isBlank b = true) : isPlain b = true := by
  simp only [isBlank, Bool.or_eq_true, decide_eq_true_eq] at h
  simp only [isPlain, Bool.or_eq_true, Bool.and_eq_true, decide_eq_true_eq]
  omega

theorem isPlain_of_isDigit {b : UInt8} (h : isDigit b = true) : isPlain b = true := by
  simp only [isDigit, Bool.and_eq_true, decide_eq_true_eq] at h
  simp only [isPlain, Bool.or_eq_true, Bool.and_eq_true, decide_eq_true_eq]
  omega

theorem Padded.isPlain {core text : Octets} (h : Padded core text)
    (hcore : ∀ b ∈ core, isPlain b = true) : text.all ContentLength.isPlain = true := by
  obtain ⟨before, after, rfl, hbefore, hafter⟩ := h
  rw [List.all_eq_true]
  intro b hb
  rcases List.mem_append.1 hb with hb | hb
  · rcases List.mem_append.1 hb with hb | hb
    · exact isPlain_of_isBlank (hbefore b hb)
    · exact hcore b hb
  · exact isPlain_of_isBlank (hafter b hb)

/-! ## What is read -/

/-- A plus sign. -/
def plus : UInt8 := 43

/-- A text without one plus sign in front had none, or was nothing else. -/
theorem dropPlus_eq_iff {text digits : Octets} (hdigits : ∀ b ∈ digits, isDigit b = true) :
    dropPlus text = digits ↔ text = digits ∨ text = plus :: digits := by
  cases text with
  | nil =>
    refine ⟨fun h => .inl h, fun h => ?_⟩
    rcases h with h | h
    · exact h
    · cases h
  | cons b bs =>
    by_cases hplus : b.toNat = 43
    · have hb : b = plus := UInt8.toNat_inj.1 hplus
      rw [show dropPlus (b :: bs) = bs from if_pos hplus, hb]
      refine ⟨fun h => .inr (h ▸ rfl), fun h => ?_⟩
      rcases h with h | h
      · -- a plus sign is no digit
        have := hdigits plus (h ▸ List.mem_cons_self)
        cases this
      · exact (List.cons.inj h).2
    · rw [show dropPlus (b :: bs) = b :: bs from if_neg hplus]
      refine ⟨.inl, fun h => ?_⟩
      rcases h with h | h
      · exact h
      · exact absurd (congrArg UInt8.toNat (List.cons.inj h).1) hplus

theorem digits?_eq_some_iff {bs : Octets} {n : Nat} :
    digits? bs = some n ↔ Numeral bs n ∧ n < lengthLimit := by
  unfold digits?
  rw [numeral_iff]
  by_cases h : (!bs.isEmpty && bs.all isDigit) = true
  · rw [if_pos h, valueBelow?_eq_some_iff]
    simp only [Bool.and_eq_true, Bool.not_eq_true', List.isEmpty_eq_false_iff,
      List.all_eq_true] at h
    tauto
  · rw [if_neg h]
    simp only [Bool.and_eq_true, Bool.not_eq_true', List.isEmpty_eq_false_iff,
      List.all_eq_true] at h
    constructor
    · nofun
    · tauto

/-- A text declares a length if it is a numeral that fits, with blanks around it. Such a numeral
with a plus sign in front is read as well. -/
theorem ofOctets?_eq_some_iff {text : Octets} {n : Nat} :
    ofOctets? text = some n ↔
      ∃ digits, Numeral digits n ∧ n < lengthLimit ∧
        (Padded digits text ∨ Padded (plus :: digits) text) := by
  unfold ofOctets?
  constructor
  · intro h
    by_cases hplain : text.all isPlain = true
    · rw [if_pos hplain] at h
      obtain ⟨hnumeral, hfits⟩ := digits?_eq_some_iff.1 h
      refine ⟨_, hnumeral, hfits, ?_⟩
      have hpadded := padded_trim text
      rcases (dropPlus_eq_iff hnumeral.isDigit_of_mem).1 rfl with htrim | htrim
      · rw [← htrim]
        exact .inl hpadded
      · rw [← htrim]
        exact .inr hpadded
    · rw [if_neg hplain] at h
      cases h
  · rintro ⟨digits, hnumeral, hfits, hpadded⟩
    have hdigits := hnumeral.isDigit_of_mem
    have hread : text.all isPlain = true ∧ dropPlus (trim text) = digits := by
      rw [dropPlus_eq_iff hdigits]
      rcases hpadded with hpadded | hpadded
      · exact ⟨hpadded.isPlain fun b hb => isPlain_of_isDigit (hdigits b hb),
          .inl (hpadded.trim_eq fun b hb => isBlank_of_isDigit (hdigits b hb))⟩
      · refine ⟨hpadded.isPlain fun b hb => ?_, .inr (hpadded.trim_eq fun b hb => ?_)⟩ <;>
          rcases List.mem_cons.1 hb with rfl | hb
        · rfl
        · exact isPlain_of_isDigit (hdigits b hb)
        · rfl
        · exact isBlank_of_isDigit (hdigits b hb)
    rw [if_pos hread.1, hread.2]
    exact digits?_eq_some_iff.2 ⟨hnumeral, hfits⟩

end ContentLength

open ContentLength

/-! ## What fields declare -/

namespace Fields

/-- The first `Content-Length` value is a numeral below the limit, with blanks around it. -/
def Declares (fields : Fields) (n : Nat) : Prop :=
  ∃ value digits, fields.get? .contentLength = some value ∧ Numeral digits n ∧ n < lengthLimit ∧
    Padded digits value.octets

/-- The first `Content-Length` value is such a numeral with a plus sign in front. -/
def DeclaresSigned (fields : Fields) (n : Nat) : Prop :=
  ∃ value digits, fields.get? .contentLength = some value ∧ Numeral digits n ∧ n < lengthLimit ∧
    Padded (plus :: digits) value.octets

variable {fields : Fields} {n m : Nat}

theorem ofFields?_eq_some_iff :
    ContentLength.ofFields? fields = some n ↔ fields.Declares n ∨ fields.DeclaresSigned n := by
  have hbind : ContentLength.ofFields? fields = some n ↔
      ∃ value, fields.get? .contentLength = some value ∧ ofOctets? value.octets = some n :=
    Option.bind_eq_some_iff
  rw [hbind]
  simp only [ofOctets?_eq_some_iff, Declares, DeclaresSigned]
  constructor
  · rintro ⟨value, hvalue, digits, hnumeral, hfits, hpadded | hpadded⟩
    · exact .inl ⟨value, digits, hvalue, hnumeral, hfits, hpadded⟩
    · exact .inr ⟨value, digits, hvalue, hnumeral, hfits, hpadded⟩
  · rintro (⟨value, digits, hvalue, hnumeral, hfits, hpadded⟩ |
      ⟨value, digits, hvalue, hnumeral, hfits, hpadded⟩)
    · exact ⟨value, hvalue, digits, hnumeral, hfits, .inl hpadded⟩
    · exact ⟨value, hvalue, digits, hnumeral, hfits, .inr hpadded⟩

/-- A sign is none of the blanks around a numeral, and no part of it. -/
theorem Declares.not_signed (h : fields.Declares n) : ¬fields.DeclaresSigned m := by
  rintro ⟨value', digits', hvalue', hnumeral', -, hpadded'⟩
  obtain ⟨value, digits, hvalue, hnumeral, -, hpadded⟩ := h
  cases hvalue.symm.trans hvalue'
  have hdigits := hnumeral.isDigit_of_mem
  have htrim := hpadded.trim_eq fun b hb => isBlank_of_isDigit (hdigits b hb)
  have htrim' := hpadded'.trim_eq fun b hb => by
    rcases List.mem_cons.1 hb with rfl | hb
    · rfl
    · exact isBlank_of_isDigit (hnumeral'.isDigit_of_mem b hb)
  have hmem : plus ∈ digits := by
    rw [← htrim, htrim']
    exact List.mem_cons_self
  cases hdigits plus hmem

/-- The decimal notation of a number with a plus sign in front. -/
def signed (n : Nat) : Fields :=
  ⟨[(.contentLength, ⟨plus :: decimal n, (FieldValue.ofNat n).isValue⟩)]⟩

theorem declaresSigned_signed (hfits : n < lengthLimit) : (signed n).DeclaresSigned n := by
  have hnumeral : Numeral (decimal n) n :=
    numeral_iff.2 ⟨decimal_ne_nil n, fun b hb => isDigit_of_mem_decimal hb, valueFrom_decimal n⟩
  refine ⟨_, decimal n, rfl, hnumeral, hfits, [], [], ?_, nofun, nofun⟩
  rw [List.nil_append, List.append_nil]

end Fields

/-- The length that is fixed is the one that is read from the fields, or else for a last write what
was written. -/
theorem Response.committedLength_freeze (r : Response) (last : Bool) :
    (r.freeze last).committedLength =
      (ContentLength.ofFields? r.fields).or (if last = true then some r.written else none) := by
  unfold freeze
  cases ContentLength.ofFields? r.fields <;> cases last <;> rfl

/-- A head that is fixed names the length that is fixed with it. -/
theorem Engine.contentLength_freezeHead {host : Host κ ε} {e : ExchangeRef} {stream : Stream}
    {last : Bool} {w w' : World κ ε} {head : ResponseHead} (hlt : e.index < w.exchanges.size)
    (hrun : freezeHead host e stream last w = (.done head, w')) :
    head.contentLength = ((w.exchange e).response.freeze last).committedLength := by
  have hfrozen : ((w.modifyResponse e (·.freeze last)).exchange e).response =
      (w.exchange e).response.freeze last :=
    congrArg (·.response) (World.exchange_modifyExchange_self w hlt _)
  obtain ⟨_, _, hmodify, hrun⟩ := Effect.bind_eq_done.1 hrun
  cases hmodify
  obtain ⟨r, _, hread, hrun⟩ := Effect.bind_eq_done.1 hrun
  cases hread
  obtain ⟨⟨fields, panic⟩, _, -, hrun⟩ := Effect.bind_eq_done.1 hrun
  obtain ⟨_, _, -, hrun⟩ := Effect.bind_eq_done.1 hrun
  obtain ⟨_, _, -, hrun⟩ := Effect.bind_eq_done.1 hrun
  obtain ⟨version, _, -, hrun⟩ := Effect.bind_eq_done.1 hrun
  cases hrun
  exact congrArg Response.committedLength hfrozen

/-- **Declared lengths.** The length of a request is `n` exactly if its first `Content-Length` value
is a numeral for `n` below the limit with blanks around it, or such a numeral with a plus sign in
front; no fields are of both forms. The same goes for the length that is fixed with the head of a
response, which is otherwise that of the bytes written if the write is the last. The sign is the
only thing that is read beyond the grammar, and it can be put in front of every number. -/
theorem length_read_iff_declared_or_signed (n : Nat) :
    (∀ head : RequestHead, head.contentLength? = some n ↔
      head.fields.Declares n ∨ head.fields.DeclaresSigned n) ∧
    (∀ (fields : Fields) (m : Nat), fields.Declares n → ¬fields.DeclaresSigned m) ∧
    (∀ (host : Host κ ε) (e : ExchangeRef) (stream : Stream) (last : Bool) (w w' : World κ ε)
      (head : ResponseHead), e.index < w.exchanges.size →
      Engine.freezeHead host e stream last w = (.done head, w') →
      let r := (w.exchange e).response
      (head.contentLength = some n ↔ r.fields.Declares n ∨ r.fields.DeclaresSigned n ∨
        (last = true ∧ r.written = n ∧
          ∀ m, ¬r.fields.Declares m ∧ ¬r.fields.DeclaresSigned m))) ∧
    (n < lengthLimit → ∃ fields : Fields, (∀ m, ¬fields.Declares m) ∧
      ContentLength.ofFields? fields = some n) := by
  refine ⟨fun head => Fields.ofFields?_eq_some_iff, fun fields m h => h.not_signed, ?_, ?_⟩
  · intro host e stream last w w' head hlt hrun r
    rw [Engine.contentLength_freezeHead hlt hrun, Response.committedLength_freeze]
    rw [← or_assoc, ← Fields.ofFields?_eq_some_iff]
    cases hread : ContentLength.ofFields? r.fields with
    | some length =>
      -- what is written makes no difference then
      have hdeclared := Fields.ofFields?_eq_some_iff.1 hread
      rw [Option.some_or]
      refine ⟨.inl, fun h => h.resolve_right ?_⟩
      rintro ⟨-, -, hnone⟩
      rcases hdeclared with hdeclared | hdeclared
      · exact (hnone length).1 hdeclared
      · exact (hnone length).2 hdeclared
    | none =>
      have hnone : ∀ m, ¬r.fields.Declares m ∧ ¬r.fields.DeclaresSigned m := by
        intro m
        rw [← not_or, ← Fields.ofFields?_eq_some_iff, hread]
        exact nofun
      rw [Option.none_or]
      cases last with
      | true =>
        rw [if_pos rfl, Option.some_inj]
        exact ⟨fun h => .inr ⟨rfl, h, hnone⟩, fun h => (h.resolve_left nofun).2.1⟩
      | false =>
        rw [if_neg Bool.false_ne_true]
        exact ⟨nofun, fun h => by rcases h with h | ⟨h, -⟩ <;> cases h⟩
  · intro hfits
    have hsigned := Fields.declaresSigned_signed hfits
    refine ⟨Fields.signed n, fun m h => h.not_signed hsigned, ?_⟩
    exact Fields.ofFields?_eq_some_iff.2 (.inr hsigned)

/-- The value `+5` is read as five, and does not declare it. -/
theorem length_read_iff_declared_or_signed_plusFive :
    let value : FieldValue := ⟨Octets.ofString "+5", by decide⟩
    let head : RequestHead := { RequestHead.bare with fields := ⟨[(.contentLength, value)]⟩ }
    head.contentLength? = some 5 ∧ head.fields.DeclaresSigned 5 ∧ ∀ m, ¬head.fields.Declares m := by
  intro value head
  have hread : head.contentLength? = some 5 := by decide
  have hsigned : head.fields.DeclaresSigned 5 :=
    ⟨value, [53], rfl, .digit (b := 53) rfl, by decide, [], [], by decide, nofun, nofun⟩
  refine ⟨hread, hsigned, fun m hdeclared => ?_⟩
  exact (length_read_iff_declared_or_signed (κ := Unit) (ε := Unit) m).2.1 head.fields 5 hdeclared
    hsigned

end HttpExchange
