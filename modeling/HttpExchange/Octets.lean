/-!
# Octets

Text on the wire is a list of octets: methods, request targets, header fields and bodies are
handled as they travel, and become characters only where a person reads them.

The character classes here are the ASCII ones of the protocol; every octet from 128 on belongs to
none of them.
-/

namespace HttpExchange

/-- Octets as they travel on the wire. -/
abbrev Octets := List UInt8

namespace Octets

/-- The UTF-8 encoding of a text. -/
def ofString (s : String) : Octets := s.toUTF8.data.toList

/-- The text that the octets encode, if they are valid UTF-8. -/
def toString? (bs : Octets) : Option String := String.fromUTF8? ⟨bs.toArray⟩

/-- Whether the octets are valid UTF-8. -/
def isText (bs : Octets) : Bool := bs.toString?.isSome

/-- An ASCII digit. -/
def isDigit (b : UInt8) : Bool := 48 ≤ b.toNat && b.toNat ≤ 57

/-- An ASCII capital letter. -/
def isUpper (b : UInt8) : Bool := 65 ≤ b.toNat && b.toNat ≤ 90

/-- An ASCII small letter. -/
def isLower (b : UInt8) : Bool := 97 ≤ b.toNat && b.toNat ≤ 122

/-- An ASCII letter. -/
def isLetter (b : UInt8) : Bool := isUpper b || isLower b

/-- The small letter of a capital one; every other octet stays as it is. -/
def lower (b : UInt8) : UInt8 := if isUpper b then b + 32 else b

theorem lower_toNat (b : UInt8) :
    (lower b).toNat = if isUpper b then b.toNat + 32 else b.toNat := by
  unfold lower
  split
  · next h =>
    simp only [isUpper, Bool.and_eq_true, decide_eq_true_eq] at h
    rw [UInt8.toNat_add, Nat.mod_eq_of_lt (by simp; omega)]
    rfl
  · rfl

/-- Lowering leaves no capital letter. -/
theorem isUpper_lower (b : UInt8) : isUpper (lower b) = false := by
  cases h : isUpper b with
  | false => simp [lower, h]
  | true =>
    have hn := lower_toNat b
    simp only [isUpper, Bool.and_eq_true, decide_eq_true_eq] at h hn
    simp only [isUpper, Bool.and_eq_false_iff, decide_eq_false_iff_not]
    split at hn <;> omega

/-- Folding case once is enough. -/
theorem lower_lower (b : UInt8) : lower (lower b) = lower b := by
  simp [lower, show isUpper (if isUpper b then b + 32 else b) = false from isUpper_lower b]

/-- The text in small letters. -/
def toLower (bs : Octets) : Octets := bs.map lower

/-- Whether `pattern` stands somewhere in the text. -/
def hasInfix (pattern : Octets) : Octets → Bool
  | [] => pattern.isEmpty
  | b :: bs => pattern.isPrefixOf (b :: bs) || hasInfix pattern bs

/-- The pieces between the separators: one more than there are separators. -/
def splitAt (sep : UInt8) : Octets → List Octets
  | [] => [[]]
  | b :: bs =>
    if b = sep then [] :: splitAt sep bs
    else match splitAt sep bs with
      | [] => [[b]]
      | piece :: rest => (b :: piece) :: rest

/-- A text before and after the first octet that satisfies `p`; nothing if there is none. -/
def cutAt? (p : UInt8 → Bool) (bs : Octets) : Option (Octets × Octets) :=
  match bs.dropWhile (!p ·) with
  | [] => none
  | _ :: rest => some (bs.takeWhile (!p ·), rest)

/-- The ASCII digit of a number below ten. -/
def digit (n : Nat) : UInt8 := UInt8.ofNat (48 + n)

/-- The last `width` decimal digits of a number, fewer if the others are leading zeros. -/
def lastDigits : (width : Nat) → Nat → Octets
  | 0, _ => []
  | width + 1, n => if n < 10 then [digit n] else lastDigits width (n / 10) ++ [digit (n % 10)]

/-- Decimal notation without leading zeros. -/
def decimal (n : Nat) : Octets := lastDigits (n + 1) n

/-- A number with one more digit at its end. -/
def withDigit (n : Nat) (b : UInt8) : Nat := n * 10 + (b.toNat - 48)

/-- The value of a digit string, read from the left on top of `acc`. -/
def valueFrom (acc : Nat) (bs : Octets) : Nat := bs.foldl withDigit acc

/-- The value of a digit string on top of `acc`, read as long as it stays below `limit`. -/
def valueBelow? (limit acc : Nat) : Octets → Option Nat
  | [] => if acc < limit then some acc else none
  | b :: bs => if acc < limit then valueBelow? limit (withDigit acc b) bs else none

theorem le_withDigit (n : Nat) (b : UInt8) : n ≤ withDigit n b := by
  unfold withDigit
  omega

/-- Digits that follow do not make a value smaller. -/
theorem le_valueFrom (acc : Nat) (bs : Octets) : acc ≤ valueFrom acc bs := by
  induction bs generalizing acc with
  | nil => exact Nat.le_refl acc
  | cons b bs ih => exact Nat.le_trans (le_withDigit acc b) (ih (withDigit acc b))

/-- Further digits never make a number smaller, so reading may end at the limit. -/
theorem valueBelow?_eq_some_iff {limit acc n : Nat} {bs : Octets} :
    valueBelow? limit acc bs = some n ↔ valueFrom acc bs = n ∧ n < limit := by
  fun_induction valueBelow? limit acc bs with
  | case1 acc h => grind [valueFrom]
  | case2 acc h => grind [valueFrom]
  | case3 acc b bs h ih => exact ih
  | case4 acc b bs h =>
    have := le_valueFrom acc (b :: bs)
    constructor
    · intro h'
      cases h'
    · omega

theorem digit_toNat {n : Nat} (h : n < 10) : (digit n).toNat = 48 + n := by
  simp only [digit, UInt8.toNat_ofNat']
  omega

theorem isDigit_digit {n : Nat} (h : n < 10) : isDigit (digit n) = true := by
  simp only [isDigit, digit_toNat h, Bool.and_eq_true, decide_eq_true_eq]
  omega

/-- Decimal notation holds digits only. -/
theorem isDigit_of_mem_lastDigits {width n : Nat} {b : UInt8} (h : b ∈ lastDigits width n) :
    isDigit b = true := by
  fun_induction lastDigits width n with
  | case1 n => simp at h
  | case2 width n hn => simp_all [isDigit_digit]
  | case3 width n hn ih =>
    rcases List.mem_append.1 h with h | h
    · exact ih h
    · rw [List.mem_singleton.1 h]
      exact isDigit_digit (Nat.mod_lt n (by omega))

/-- A numeral has digits only. -/
theorem isDigit_of_mem_decimal {n : Nat} {b : UInt8} (h : b ∈ decimal n) : isDigit b = true :=
  isDigit_of_mem_lastDigits h

/-- A numeral has a digit at least. -/
theorem decimal_ne_nil (n : Nat) : decimal n ≠ [] := by
  unfold decimal lastDigits
  split <;> simp

/-- The last digit counts in the ones place. -/
theorem valueFrom_concat (acc : Nat) (bs : Octets) (b : UInt8) :
    valueFrom acc (bs ++ [b]) = withDigit (valueFrom acc bs) b := by
  simp [valueFrom]

theorem withDigit_digit (m : Nat) {n : Nat} (h : n < 10) : withDigit m (digit n) = m * 10 + n := by
  rw [withDigit, digit_toNat h, Nat.add_sub_cancel_left]

theorem valueFrom_digit {n : Nat} (h : n < 10) : valueFrom 0 [digit n] = n := by
  show withDigit 0 (digit n) = n
  rw [withDigit_digit 0 h, Nat.zero_mul, Nat.zero_add]

/-- Digits enough to hold the number read back as it. -/
theorem valueFrom_lastDigits {width n : Nat} (h : n < width) :
    valueFrom 0 (lastDigits width n) = n := by
  fun_induction lastDigits width n with
  | case1 n => omega
  | case2 width n hn => exact valueFrom_digit hn
  | case3 width n hn ih =>
    rw [valueFrom_concat, ih (by omega), withDigit_digit _ (Nat.mod_lt n (by omega)),
      Nat.mul_comm, Nat.div_add_mod]

/-- Decimal notation reads back. -/
theorem valueFrom_decimal (n : Nat) : valueFrom 0 (decimal n) = n :=
  valueFrom_lastDigits (Nat.lt_succ_self n)

end Octets

end HttpExchange
