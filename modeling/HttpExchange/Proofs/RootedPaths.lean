import HttpExchange.Http.Compliance
import Mathlib.Data.List.Infix

/-!
# Paths below their root

What it means that a path is compliant is said here without the checks. A path that starts with a
slash is made of segments, in one way only (`Octets.Joins`). Resolving walks the segments with a
stack of those that it went down (`Compliance.resolve`). Decoding reads every escape once
(`Octets.decode`).

The main statement is `compliant_iff_resolves`. The lenient level accepts the paths that resolve,
the strict level those of them that hold nothing ambiguous (`Octets.Ambiguous`). Decoding such a
path afterwards does no harm: no escape stands for a slash or for a dot, so the segments and the dot
segments among them stay where they are.
-/

namespace HttpExchange

namespace Octets

open Target (slash)

/-! ## Segments -/

/-- The path is made of these segments: a slash stands in front of each, and in none of them. -/
structure Joins (path : Octets) (segments : List Octets) : Prop where
  path_eq : path = segments.flatMap (slash :: ·)
  whole : ∀ s ∈ segments, slash ∉ s

/-- What holds no separator lengthens the first piece behind it. -/
theorem splitAt_append_of_notMem {sep : UInt8} {first bs piece : Octets} {rest : List Octets}
    (hfirst : sep ∉ first) (h : splitAt sep bs = piece :: rest) :
    splitAt sep (first ++ bs) = (first ++ piece) :: rest := by
  induction first with
  | nil => exact h
  | cons c cs ih =>
    obtain ⟨hc, hcs⟩ := not_or.1 (List.mem_cons.not.1 hfirst)
    rw [List.cons_append, splitAt, if_neg (Ne.symm hc), ih hcs]
    rfl

/-- A text is cut where the separators are. -/
theorem splitAt_append {sep : UInt8} {first : Octets} (hfirst : sep ∉ first)
    {rest : List Octets} (hrest : ∀ s ∈ rest, sep ∉ s) :
    splitAt sep (first ++ rest.flatMap (sep :: ·)) = first :: rest := by
  have hcut : splitAt sep (rest.flatMap (sep :: ·)) = [] :: rest := by
    induction rest with
    | nil => rfl
    | cons s rest ih =>
      obtain ⟨hs, hrest⟩ := List.forall_mem_cons.1 hrest
      have hpiece := splitAt_append_of_notMem hs (ih hrest)
      rw [List.append_nil] at hpiece
      rw [List.flatMap_cons, List.cons_append, splitAt, if_pos rfl, hpiece]
  have hpiece := splitAt_append_of_notMem hfirst hcut
  rwa [List.append_nil] at hpiece

/-- The segments that a path is made of are those that are found. -/
theorem Joins.segments_eq {path : Octets} {segments : List Octets} (h : path.Joins segments) :
    Compliance.segments path = segments := by
  have hsplit := splitAt_append (List.not_mem_nil (a := slash)) h.whole
  rw [List.nil_append, ← h.path_eq] at hsplit
  rw [Compliance.segments, hsplit, List.tail_cons]

/-- Every text is cut by a separator. -/
theorem exists_cut (sep : UInt8) (bs : Octets) :
    ∃ (first : Octets) (rest : List Octets), bs = first ++ rest.flatMap (sep :: ·) ∧
      sep ∉ first ∧ ∀ s ∈ rest, sep ∉ s := by
  induction bs with
  | nil => exact ⟨[], [], rfl, List.not_mem_nil, nofun⟩
  | cons b bs ih =>
    obtain ⟨first, rest, rfl, hfirst, hrest⟩ := ih
    by_cases hb : b = sep
    · subst hb
      refine ⟨[], first :: rest, rfl, List.not_mem_nil, ?_⟩
      exact List.forall_mem_cons.2 ⟨hfirst, hrest⟩
    · refine ⟨b :: first, rest, rfl, ?_, hrest⟩
      exact List.mem_cons.not.2 (not_or.2 ⟨Ne.symm hb, hfirst⟩)

/-- A path that starts with a slash is made of segments. -/
theorem joins_segments {path : Octets} (hroot : path.head? = some slash) :
    path.Joins (Compliance.segments path) := by
  obtain ⟨first, rest, hpath, hfirst, hrest⟩ := exists_cut slash path
  cases first with
  | nil =>
    have hjoins : path.Joins rest := ⟨hpath, hrest⟩
    rwa [hjoins.segments_eq]
  | cons b bs =>
    rw [hpath] at hroot
    obtain rfl : b = slash := Option.some.inj hroot
    exact absurd List.mem_cons_self hfirst

/-! ## Decoding -/

/-- A percent sign. -/
def percent : UInt8 := 37

/-- The value of a hexadecimal digit. -/
def hexValue? (b : UInt8) : Option Nat :=
  if isDigit b then some (b.toNat - 48)
  else if 97 ≤ (lower b).toNat ∧ (lower b).toNat ≤ 102 then some ((lower b).toNat - 87)
  else none

/-- The octet that an escape stands for: a percent sign and two hexadecimal digits. -/
def escaped? (mark high low : UInt8) : Option UInt8 :=
  if mark = percent then
    match hexValue? high, hexValue? low with
    | some h, some l => some (UInt8.ofNat (16 * h + l))
    | _, _ => none
  else none

/-- The text with every escape read once, from the left. What is no escape stands for itself. -/
def decode : Octets → Octets
  | mark :: high :: low :: rest =>
    match escaped? mark high low with
    | some b => b :: decode rest
    | none => mark :: decode (high :: low :: rest)
  | bs => bs
termination_by structural bs => bs

/-- The octets that spell an escape. -/
theorem escaped?_eq_some {mark high low b : UInt8} (h : escaped? mark high low = some b) :
    mark = percent ∧ ∃ m n, hexValue? high = some m ∧ hexValue? low = some n ∧
      b = UInt8.ofNat (16 * m + n) := by
  unfold escaped? at h
  split at h
  next hmark =>
    split at h
    next m n hm hn => exact ⟨hmark, m, n, hm, hn, (Option.some.inj h).symm⟩
    next => cases h
  next => cases h

theorem hexValue?_slash : hexValue? slash = none := by decide

theorem escaped?_slash_left (mark low : UInt8) : escaped? mark slash low = none := by
  simp [escaped?, hexValue?_slash]

theorem escaped?_slash_right (mark high : UInt8) : escaped? mark high slash = none := by
  simp [escaped?, hexValue?_slash]

/-- An octet that begins no escape stands for itself. -/
theorem decode_cons {b : UInt8} {bs : Octets}
    (h : ∀ high low rest, bs = high :: low :: rest → escaped? b high low = none) :
    decode (b :: bs) = b :: decode bs := by
  match bs with
  | [] | [_] => rfl
  | high :: low :: rest => rw [decode, h high low rest rfl]

theorem decode_slash_cons (bs : Octets) : decode (slash :: bs) = slash :: decode bs :=
  decode_cons fun high low _ _ => if_neg (by decide : slash ≠ percent)

/-- No escape reaches beyond a slash. -/
theorem decode_append_slash (before after : Octets) :
    decode (before ++ slash :: after) = decode before ++ slash :: decode after := by
  have hlast : ∀ b : UInt8, decode (b :: slash :: after) = b :: slash :: decode after := by
    intro b
    rw [decode_cons, decode_slash_cons]
    rintro high low rest ⟨⟩
    exact escaped?_slash_left b _
  induction before using decode.induct with
  | case1 mark high low rest b hb ih =>
    show decode (mark :: high :: low :: (rest ++ slash :: after)) = _
    rw [decode, decode, hb]
    exact congrArg (b :: ·) ih
  | case2 mark high low rest hnone ih =>
    show decode (mark :: high :: low :: (rest ++ slash :: after)) = _
    rw [decode, decode, hnone]
    exact congrArg (mark :: ·) ih
  | case3 bs hshort =>
    match bs with
    | [] => exact decode_slash_cons after
    | [b] => exact hlast b
    | [b, c] =>
      show decode (b :: c :: slash :: after) = b :: c :: slash :: decode after
      rw [decode_cons, hlast]
      rintro high low rest ⟨⟩
      exact escaped?_slash_right b c
    | mark :: high :: low :: rest => exact absurd rfl (hshort mark high low rest)

theorem decode_append_flatMap (first : Octets) (rest : List Octets) :
    decode (first ++ rest.flatMap (slash :: ·)) =
      decode first ++ (rest.map decode).flatMap (slash :: ·) := by
  induction rest generalizing first with
  | nil => simp
  | cons s rest ih =>
    rw [List.flatMap_cons, List.cons_append, decode_append_slash, ih]
    rfl

/-- Decoding and cutting at the slashes can be done in either order. -/
theorem decode_flatMap (segments : List Octets) :
    decode (segments.flatMap (slash :: ·)) = (segments.map decode).flatMap (slash :: ·) := by
  cases segments with
  | nil => rfl
  | cons s rest =>
    rw [List.flatMap_cons, List.cons_append, decode_slash_cons, decode_append_flatMap]
    rfl

/-- What decoding gives stood in the text, or is what an escape in it stands for. -/
theorem mem_decode {b : UInt8} {bs : Octets} (h : b ∈ decode bs) :
    b ∈ bs ∨ ∃ mark high low, [mark, high, low] <:+: bs ∧ escaped? mark high low = some b := by
  induction bs using decode.induct with
  | case1 mark high low rest c hc ih =>
    rw [decode, hc] at h
    rcases List.mem_cons.1 h with rfl | h
    · exact .inr ⟨mark, high, low, ⟨[], rest, rfl⟩, hc⟩
    · rcases ih h with hmem | ⟨m, i, l, hpart, hb⟩
      · exact .inl (List.mem_cons_of_mem _ (List.mem_cons_of_mem _ (List.mem_cons_of_mem _ hmem)))
      · exact .inr ⟨m, i, l, hpart.trans ⟨[mark, high, low], [], by simp⟩, hb⟩
  | case2 mark high low rest hnone ih =>
    rw [decode, hnone] at h
    rcases List.mem_cons.1 h with rfl | h
    · exact .inl List.mem_cons_self
    · rcases ih h with hmem | ⟨m, i, l, hpart, hb⟩
      · exact .inl (List.mem_cons_of_mem _ hmem)
      · exact .inr ⟨m, i, l, List.infix_cons hpart, hb⟩
  | case3 bs hshort =>
    rw [decode.eq_2 bs hshort] at h
    exact .inl h

/-! ## Ambiguous spellings -/

/-- The text holds the escape of a two and this letter, be it small or capital. -/
def HoldsEscape (small : UInt8) (text : Octets) : Prop :=
  ∃ letter, (letter = small ∨ letter = small - 32) ∧ [percent, 50, letter] <:+: text

/-- A path that a reader who decodes it, merges slashes or cuts off parameters may take for another
one: it holds `%2f` or `%2e` in any letter case, two slashes in a row, or a semicolon. -/
def Ambiguous (path : Octets) : Prop :=
  HoldsEscape 102 path ∨ HoldsEscape 101 path ∨ [slash, slash] <:+: path ∨ 59 ∈ path

theorem hasInfix_eq_true_iff {pattern bs : Octets} :
    hasInfix pattern bs = true ↔ pattern <:+: bs := by
  induction bs with
  | nil => rw [hasInfix, List.isEmpty_iff, List.infix_nil]
  | cons b bs ih =>
    rw [hasInfix, Bool.or_eq_true, List.isPrefixOf_iff_prefix, ih, List.infix_cons_iff]

/-- Only capital letters become something else in small letters. -/
theorem lower_eq_iff {b c : UInt8} :
    lower b = c ↔
      (isUpper b = false ∧ b = c) ∨ (isUpper b = true ∧ b.toNat + 32 = c.toNat) := by
  have hn := lower_toNat b
  rw [← UInt8.toNat_inj, hn, ← UInt8.toNat_inj]
  cases isUpper b <;> simp

theorem lower_eq_of_isLower {b small : UInt8} (hsmall : isLower small = true) :
    lower b = small ↔ b = small ∨ b = small - 32 := by
  simp only [isLower, Bool.and_eq_true, decide_eq_true_eq] at hsmall
  have hcapital : (small - 32).toNat = small.toNat - 32 :=
    UInt8.toNat_sub_of_le _ _ (UInt8.le_iff_toNat_le.2 (show 32 ≤ small.toNat by omega))
  rw [lower_eq_iff]
  simp only [isUpper, Bool.and_eq_true, Bool.and_eq_false_iff, decide_eq_true_eq,
    decide_eq_false_iff_not, ← UInt8.toNat_inj, hcapital]
  omega

/-- An octet below the letters is the small letter of nothing but itself. -/
theorem lower_eq_of_lt {b c : UInt8} (hc : c.toNat < 65) : lower b = c ↔ b = c := by
  rw [lower_eq_iff]
  simp only [isUpper, Bool.and_eq_true, Bool.and_eq_false_iff, decide_eq_true_eq,
    decide_eq_false_iff_not, ← UInt8.toNat_inj]
  omega

/-- Looking for the escape in small letters finds it in any letter case. -/
theorem infix_toLower_iff {small : UInt8} (hsmall : isLower small = true) (path : Octets) :
    [percent, 50, small] <:+: path.toLower ↔ path.HoldsEscape small := by
  rw [toLower, List.infix_map_iff, HoldsEscape]
  constructor
  · rintro ⟨l, hpart, hl⟩
    obtain ⟨mark, l, rfl, hmark, hl⟩ := List.map_eq_cons_iff.1 hl.symm
    obtain ⟨two, l, rfl, htwo, hl⟩ := List.map_eq_cons_iff.1 hl
    obtain ⟨letter, l, rfl, hletter, hl⟩ := List.map_eq_cons_iff.1 hl
    obtain rfl := List.map_eq_nil_iff.1 hl
    rw [(lower_eq_of_lt (by decide)).1 hmark, (lower_eq_of_lt (by decide)).1 htwo] at hpart
    exact ⟨letter, (lower_eq_of_isLower hsmall).1 hletter, hpart⟩
  · rintro ⟨letter, hletter, hpart⟩
    refine ⟨_, hpart, ?_⟩
    rw [List.map_cons, List.map_cons, List.map_cons, (lower_eq_of_isLower hsmall).2 hletter]
    rfl

theorem hexValue?_eq_some {b : UInt8} {n : Nat} (h : hexValue? b = some n) :
    (n < 10 ∧ b.toNat = 48 + n) ∨ (10 ≤ n ∧ n < 16 ∧ (lower b).toNat = 87 + n) := by
  unfold hexValue? at h
  split at h
  next hdigit =>
    simp only [isDigit, Bool.and_eq_true, decide_eq_true_eq] at hdigit
    cases h
    omega
  next =>
    split at h
    next hletter =>
      cases h
      omega
    next => cases h

/-- An octet between `*` and `/` is escaped by a two and a letter. -/
theorem HoldsEscape.of_escaped {text : Octets} {mark high low b small : UInt8}
    (hpart : [mark, high, low] <:+: text) (h : escaped? mark high low = some b)
    (hb : 42 ≤ b.toNat ∧ b.toNat < 48) (hsmall : b.toNat + 55 = small.toNat) :
    text.HoldsEscape small := by
  obtain ⟨rfl, m, n, hm, hn, rfl⟩ := escaped?_eq_some h
  have hm := hexValue?_eq_some hm
  have hn := hexValue?_eq_some hn
  have hvalue : (UInt8.ofNat (16 * m + n)).toNat = 16 * m + n := by
    rw [UInt8.toNat_ofNat']
    exact Nat.mod_eq_of_lt (by omega)
  rw [hvalue] at hb hsmall
  have htwo : high = 50 := by
    rw [← UInt8.toNat_inj]
    show high.toNat = 50
    omega
  have hletter : lower low = small := by
    rw [← UInt8.toNat_inj]
    omega
  have hlower : isLower small = true := by
    simp only [isLower, Bool.and_eq_true, decide_eq_true_eq]
    omega
  rw [htwo] at hpart
  exact ⟨low, (lower_eq_of_isLower hlower).1 hletter, hpart⟩

/-! ## Decoding a path that is not ambiguous -/

/-- Without escaped slashes, decoding makes no slashes. -/
theorem slash_notMem_decode {s : Octets} (hescape : ¬s.HoldsEscape 102) (hs : slash ∉ s) :
    slash ∉ decode s := by
  intro hmem
  rcases mem_decode hmem with hmem | ⟨mark, high, low, hpart, hslash⟩
  · exact hs hmem
  · exact hescape (.of_escaped hpart hslash (by decide) (by decide))

/-- Without escaped dots, what decodes to dots are those dots. -/
theorem eq_of_decode_dots {s : Octets} (hescape : ¬s.HoldsEscape 101)
    (hdots : ∀ b ∈ decode s, b = 46) : decode s = s := by
  induction s using decode.induct with
  | case1 mark high low rest b hb ih =>
    rw [decode, hb] at hdots
    obtain rfl := hdots b List.mem_cons_self
    exact absurd (.of_escaped ⟨[], rest, rfl⟩ hb (by decide) (by decide)) hescape
  | case2 mark high low rest hnone ih =>
    rw [decode, hnone] at hdots ⊢
    refine congrArg (mark :: ·) (ih ?_ fun b hmem => hdots b (List.mem_cons_of_mem mark hmem))
    rintro ⟨letter, hletter, hpart⟩
    exact hescape ⟨letter, hletter, List.infix_cons hpart⟩
  | case3 bs hshort => rw [decode.eq_2 bs hshort]

theorem HoldsEscape.mono {small : UInt8} {s text : Octets} (h : s.HoldsEscape small)
    (hpart : s <:+: text) : text.HoldsEscape small := by
  obtain ⟨letter, hletter, hescape⟩ := h
  exact ⟨letter, hletter, hescape.trans hpart⟩

/-- Each segment stands in the path. -/
theorem Joins.infix_of_mem {path : Octets} {segments : List Octets} (h : path.Joins segments)
    {s : Octets} (hs : s ∈ segments) : s <:+: path := by
  obtain ⟨before, after, rfl⟩ := List.append_of_mem hs
  refine ⟨before.flatMap (slash :: ·) ++ [slash], after.flatMap (slash :: ·), ?_⟩
  simp [h.path_eq]

variable {path : Octets} {segments : List Octets}

/-- Decoding leaves the segments where they are. -/
theorem Joins.decode (h : path.Joins segments) (hclear : ¬path.Ambiguous) :
    path.decode.Joins (segments.map Octets.decode) := by
  refine ⟨?_, fun s hs => ?_⟩
  · rw [h.path_eq, decode_flatMap]
  · obtain ⟨t, ht, rfl⟩ := List.mem_map.1 hs
    exact slash_notMem_decode (fun hescape => hclear (.inl (hescape.mono (h.infix_of_mem ht))))
      (h.whole t ht)

/-- Decoding makes no dot segments, and loses none. -/
theorem Joins.decode_eq_iff (h : path.Joins segments) (hclear : ¬path.Ambiguous) {s dots : Octets}
    (hs : s ∈ segments) (hdots : dots ∈ [Compliance.currentSegment, Compliance.parentSegment]) :
    Octets.decode s = dots ↔ s = dots := by
  have hshown : (∀ b ∈ dots, b = 46) ∧ Octets.decode dots = dots := by
    have hspelled : Compliance.currentSegment = [46] ∧ Compliance.parentSegment = [46, 46] := by
      decide
    rw [hspelled.1, hspelled.2] at hdots
    rcases List.mem_pair.1 hdots with rfl | rfl <;> exact ⟨by simp, rfl⟩
  constructor
  · intro heq
    have hescape : ¬s.HoldsEscape 101 := fun hescape =>
      hclear (.inr (.inl (hescape.mono (h.infix_of_mem hs))))
    rw [← eq_of_decode_dots hescape (heq ▸ hshown.1), heq]
  · rintro rfl
    exact hshown.2

end Octets

namespace Compliance

open Octets

open Target (slash)

/-! ## Resolving -/

/-- Walks the segments: a parent segment goes back up from the segment on top of the stack, a
current segment stays, and every other one is put on the stack. Nothing if it would have to go up
from the root. -/
def resolve : (stack : List Octets) → List Octets → Option (List Octets)
  | stack, [] => some stack
  | stack, segment :: rest =>
    if segment = parentSegment then
      match stack with
      | [] => none
      | _ :: below => resolve below rest
    else if segment = currentSegment then resolve stack rest
    else resolve (segment :: stack) rest

/-- Only the height of the stack matters for whether a walk climbs out. -/
theorem climbsOut_eq_false_iff (stack segments : List Octets) :
    climbsOut stack.length segments = false ↔ (resolve stack segments).isSome = true := by
  induction segments generalizing stack with
  | nil => simp [climbsOut, resolve]
  | cons segment rest ih =>
    unfold climbsOut resolve
    by_cases hparent : segment = parentSegment
    · rw [if_pos hparent, if_pos hparent]
      cases stack with
      | nil => simp
      | cons top below => exact ih below
    · rw [if_neg hparent, if_neg hparent]
      by_cases hcurrent : segment = currentSegment
      · rw [if_pos hcurrent, if_pos hcurrent]
        exact ih stack
      · rw [if_neg hcurrent, if_neg hcurrent]
        exact ih (segment :: stack)

/-- A change of the segments that leaves the dot segments where they are makes no difference. -/
theorem climbsOut_map {f : Octets → Octets} {segments : List Octets}
    (hf : ∀ s ∈ segments, ∀ dots ∈ [currentSegment, parentSegment], f s = dots ↔ s = dots)
    (depth : Nat) : climbsOut depth (segments.map f) = climbsOut depth segments := by
  induction segments generalizing depth with
  | nil => rfl
  | cons s rest ih =>
    obtain ⟨hs, hrest⟩ := List.forall_mem_cons.1 hf
    have hparent := hs parentSegment (List.mem_cons_of_mem _ List.mem_cons_self)
    have hcurrent := hs currentSegment List.mem_cons_self
    unfold climbsOut
    simp only [List.map_cons, hparent, hcurrent, ih hrest]

theorem legacy_check_eq_none_iff (path : Octets) :
    legacy.check path = none ↔ climbsOut 0 (segments path) = false := by
  unfold check
  cases climbsOut 0 (segments path) <;> simp

theorem strict_check_eq_none_iff (path : Octets) :
    strict.check path = none ↔ legacy.check path = none ∧ ¬path.Ambiguous := by
  have hslash : hasInfix [percent, 50, 102] path.toLower = true ↔ path.HoldsEscape 102 :=
    hasInfix_eq_true_iff.trans (infix_toLower_iff rfl path)
  have hdot : hasInfix [percent, 50, 101] path.toLower = true ↔ path.HoldsEscape 101 :=
    hasInfix_eq_true_iff.trans (infix_toLower_iff rfl path)
  have hempty : hasInfix [slash, slash] path = true ↔ [slash, slash] <:+: path :=
    hasInfix_eq_true_iff
  have hparameter : hasInfix [59] path = true ↔ 59 ∈ path :=
    hasInfix_eq_true_iff.trans (List.singleton_infix_iff 59 path)
  have hspelled : Octets.ofString "%2f" = [percent, 50, 102] ∧
      Octets.ofString "%2e" = [percent, 50, 101] ∧ Octets.ofString "//" = [slash, slash] ∧
      Octets.ofString ";" = [59] := by decide
  obtain ⟨h₁, h₂, h₃, h₄⟩ := hspelled
  rw [legacy_check_eq_none_iff, Ambiguous, ← hslash, ← hdot, ← hempty, ← hparameter, check, h₁,
    h₂, h₃, h₄]
  cases climbsOut 0 (segments path) with
  | true => simp
  | false => grind

/-- **What compliance means.** A path that starts with a slash is made of segments in one way. The
lenient level accepts it exactly if its segments resolve without going up from the root, the strict
level exactly if the lenient one does and nothing in the path is ambiguous. A path that the strict
level accepts may be decoded before or after it is cut at the slashes: the segments are the same,
the dot segments among them are those that were there before, and so the decoded path stays below
the root as well. -/
theorem compliant_iff_resolves {path : Octets} (hroot : path.head? = some slash) :
    ∃ segments : List Octets, path.Joins segments ∧ (∀ other, path.Joins other → other = segments) ∧
      (legacy.check path = none ↔ (resolve [] segments).isSome = true) ∧
      (strict.check path = none ↔ legacy.check path = none ∧ ¬path.Ambiguous) ∧
      (strict.check path = none →
        path.decode.Joins (segments.map decode) ∧
        (∀ i : Nat, ∀ dots ∈ [currentSegment, parentSegment],
          (segments.map decode)[i]? = some dots ↔ segments[i]? = some dots) ∧
        (resolve [] (segments.map decode)).isSome = true ∧ legacy.check path.decode = none) := by
  have hjoins := joins_segments hroot
  refine ⟨segments path, hjoins, fun other h => h.segments_eq.symm, ?_,
    strict_check_eq_none_iff path, fun haccepted => ?_⟩
  · rw [legacy_check_eq_none_iff]
    exact climbsOut_eq_false_iff [] _
  · obtain ⟨hstays, hclear⟩ := (strict_check_eq_none_iff path).1 haccepted
    have hdecoded := hjoins.decode hclear
    have hdots : ∀ s ∈ segments path, ∀ dots ∈ [currentSegment, parentSegment],
        decode s = dots ↔ s = dots := fun s hs dots hdots => hjoins.decode_eq_iff hclear hs hdots
    have hbelow : climbsOut 0 ((segments path).map decode) = false := by
      rw [climbsOut_map hdots]
      exact (legacy_check_eq_none_iff path).1 hstays
    refine ⟨hdecoded, fun i dots hmem => ?_, (climbsOut_eq_false_iff [] _).1 hbelow, ?_⟩
    · rw [List.getElem?_map]
      cases hs : (segments path)[i]? with
      | none => simp
      | some s =>
        have hiff := hdots s (List.mem_of_getElem? hs) dots hmem
        simpa using hiff
    · rw [legacy_check_eq_none_iff, hdecoded.segments_eq]
      exact hbelow

/-- Escapes that are read once, one that is cut off by a slash, and dot segments at the end. -/
theorem compliant_iff_resolves_readOnce :
    let path := ofString "/%252f/%41%2/./.."
    let segments := [ofString "%252f", ofString "%41%2", currentSegment, parentSegment]
    path.head? = some slash ∧ strict.check path = none ∧ path.Joins segments ∧
      path.decode = ofString "/%2f/A%2/./.." ∧ path.decode.Joins (segments.map decode) ∧
      resolve [] (segments.map decode) = some [ofString "%2f"] ∧
      legacy.check path.decode = none := by
  intro path segments
  have hroot : path.head? = some slash := by decide
  have haccepted : strict.check path = none := by decide
  have hjoins : path.Joins segments := ⟨by decide, by decide⟩
  obtain ⟨found, -, hunique, -, -, hdecoding⟩ := compliant_iff_resolves hroot
  obtain rfl := hunique segments hjoins
  obtain ⟨hdecoded, -, -, hstays⟩ := hdecoding haccepted
  exact ⟨hroot, haccepted, hjoins, by decide, hdecoded, by decide, hstays⟩

end Compliance

end HttpExchange
