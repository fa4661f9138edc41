import HttpExchange.Http.Token

/-!
# Header fields

`Fields` is a multimap from field names to values. The view is `values`: what each operation does
to the values of every name is one lemma (`values_insert`, `values_append`, `values_remove`,
`values_extend`). The order of different names is not part of a header's meaning, the order of
the values of one name is.
-/

namespace HttpExchange

/-- An octet of a field value: visible, blank, tab, or outside ASCII. -/
def isValueOctet (b : UInt8) : Bool := 32 ≤ b.toNat && b.toNat ≠ 127 || b.toNat = 9

/-- A field value. -/
structure FieldValue where
  octets : Octets
  isValue : octets.all isValueOctet = true
  deriving DecidableEq

namespace FieldValue

/-- The value with these octets, if all of them may stand in a value. -/
def ofOctets? (bs : Octets) : Option FieldValue :=
  if h : bs.all isValueOctet = true then some ⟨bs, h⟩ else none

/-- A number in decimal notation. -/
def ofNat (n : Nat) : FieldValue where
  octets := Octets.decimal n
  isValue := by
    rw [List.all_eq_true]
    intro b hb
    have := Octets.isDigit_of_mem_decimal hb
    simp only [Octets.isDigit, Bool.and_eq_true, decide_eq_true_eq] at this
    simp only [isValueOctet, Bool.or_eq_true, Bool.and_eq_true, decide_eq_true_eq]
    omega

/-- The value that ends a connection after the current response. -/
def close : FieldValue := ⟨Octets.ofString "close", by decide⟩

end FieldValue

/-- The fields of a header, in the order in which they arrived. -/
structure Fields where
  entries : List (FieldName × FieldValue)
  deriving DecidableEq

namespace Fields

/-- No fields. -/
def empty : Fields := ⟨[]⟩

instance : Inhabited Fields := ⟨empty⟩

/-- The values of a name, in their order. -/
def values (fs : Fields) (name : FieldName) : List FieldValue :=
  fs.entries.filterMap fun e => if e.1 = name then some e.2 else none

/-- The first value of a name. -/
def get? (fs : Fields) (name : FieldName) : Option FieldValue := (fs.values name).head?

/-- The number of values of all names. -/
def size (fs : Fields) : Nat := fs.entries.length

/-- Drops every value of a name. -/
def remove (fs : Fields) (name : FieldName) : Fields := ⟨fs.entries.filter (·.1 ≠ name)⟩

/-- Adds a value behind those that the name has. -/
def append (fs : Fields) (name : FieldName) (value : FieldValue) : Fields :=
  ⟨fs.entries ++ [(name, value)]⟩

/-- Makes a value the only one of its name. -/
def insert (fs : Fields) (name : FieldName) (value : FieldValue) : Fields :=
  (fs.remove name).append name value

/-- Lays `new` over the fields: a name that occurs in `new` keeps the values of `new` only. -/
def extend (fs new : Fields) : Fields :=
  ⟨fs.entries.filter (fun e => (new.values e.1).isEmpty) ++ new.entries⟩

theorem values_empty (name : FieldName) : empty.values name = [] := rfl

theorem values_append (fs : Fields) (name other : FieldName) (value : FieldValue) :
    (fs.append name value).values other =
      if name = other then fs.values other ++ [value] else fs.values other := by
  simp only [append, values, List.filterMap_append]
  split <;> simp_all

/-- Keeping the entries of some names keeps all values of those names and none of the others. -/
theorem values_filter (keep : FieldName → Bool) (entries : List (FieldName × FieldValue))
    (name : FieldName) :
    (Fields.mk (entries.filter fun e => keep e.1)).values name =
      if keep name then (Fields.mk entries).values name else [] := by
  simp only [values]
  induction entries with
  | nil => simp
  | cons e es ih => by_cases hk : keep e.1 <;> by_cases he : e.1 = name <;> grind

theorem values_remove (fs : Fields) (name other : FieldName) :
    (fs.remove name).values other = if name = other then [] else fs.values other := by
  rw [remove, values_filter (fun n => decide (n ≠ name))]
  by_cases h : name = other
  · simp [h]
  · simp [h, Ne.symm h]

theorem values_insert (fs : Fields) (name other : FieldName) (value : FieldValue) :
    (fs.insert name value).values other = if name = other then [value] else fs.values other := by
  simp only [insert, values_append, values_remove]
  split <;> simp

theorem values_extend (fs new : Fields) (name : FieldName) :
    (fs.extend new).values name =
      if new.values name = [] then fs.values name else new.values name := by
  have split_entries : (fs.extend new).values name =
      (Fields.mk (fs.entries.filter fun e => (new.values e.1).isEmpty)).values name ++
        new.values name := by
    simp [extend, values]
  rw [split_entries, values_filter (fun n => (new.values n).isEmpty)]
  by_cases h : new.values name = [] <;> simp [h]

end Fields

end HttpExchange
