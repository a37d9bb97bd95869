import Mathlib

set_option autoImplicit false

/-! What `json.loads` returns and `json.dumps` writes. A Python string is a list of code
points, lone surrogates among them, and a dump is measured in characters, which are ASCII
and so bytes. -/

namespace Loaded

section Values

abbrev Text := List ℕ

def text (literal : String) : Text := literal.toList.map Char.toNat

def isSurrogate (c : ℕ) : Bool := 0xD800 ≤ c && c ≤ 0xDFFF

def encodes (t : Text) : Bool := t.all fun c => !isSurrogate c

/-- A finite float, with the text that Python writes for it. -/
structure Double where
  value : ℚ
  repr : Text
  long : 3 ≤ repr.length
  short : repr.length ≤ 24
  encoded : encodes repr = true

inductive Number where
  | finite (double : Double)
  | nan
  | infinite (negative : Bool)

inductive Value where
  | null
  | bool (value : Bool)
  | int (value : ℤ)
  | float (value : Number)
  | str (value : Text)
  | arr (items : List Value)
  | obj (entries : List (Text × Value))

abbrev Dict := List (Text × Value)

def Value.isFlat : Value → Bool
  | .arr _ | .obj _ => false
  | _ => true

/-- `str(n)`. -/
def decimal (n : ℕ) : Text := (Nat.toDigits 10 n).map Char.toNat

def decimalInt (n : ℤ) : Text :=
  if n < 0 then text "-" ++ decimal n.natAbs else decimal n.natAbs

end Values

section Lookup

def get (entries : Dict) (key : Text) : Option Value :=
  (entries.find? fun entry => entry.1 = key).map Prod.snd

/-- `entries[key] = value`, in place when the key is already there. -/
def set : Dict → Text → Value → Dict
  | [], key, value => [(key, value)]
  | entry :: rest, key, value =>
      if entry.1 = key then (key, value) :: rest else entry :: set rest key value

@[simp] theorem get_nil (key : Text) : get [] key = none := rfl

theorem get_cons (entry : Text × Value) (rest : Dict) (key : Text) :
    get (entry :: rest) key = if entry.1 = key then some entry.2 else get rest key := by
  by_cases h : entry.1 = key <;> simp [get, h]

theorem get_set (entries : Dict) (key other : Text) (value : Value) :
    get (set entries key value) other =
      if key = other then some value else get entries other := by
  induction entries with
  | nil => rw [set, get_cons]
  | cons entry rest ih =>
      rw [set]
      by_cases hentry : entry.1 = key
      · rw [if_pos hentry, get_cons, get_cons, hentry]
        by_cases hother : key = other <;> simp [hother]
      · rw [if_neg hentry, get_cons, get_cons, ih]
        by_cases hfirst : entry.1 = other
        · have hne : ¬ key = other := fun heq => hentry (hfirst.trans heq.symm)
          simp [hfirst, hne]
        · simp [hfirst]

theorem set_set (entries : Dict) (key : Text) (value other : Value) :
    set (set entries key value) key other = set entries key other := by
  induction entries with
  | nil => simp [set]
  | cons entry rest ih =>
      rw [set]
      by_cases hentry : entry.1 = key
      · rw [if_pos hentry, set, if_pos rfl, set, if_pos hentry]
      · rw [if_neg hentry, set, if_neg hentry, ih, set, if_neg hentry]

theorem mem_set {entries : Dict} {key : Text} {value : Value} {entry : Text × Value}
    (h : entry ∈ set entries key value) : entry ∈ entries ∨ entry = (key, value) := by
  induction entries with
  | nil => exact Or.inr (by simpa [set] using h)
  | cons first rest ih =>
      rw [set] at h
      split at h
      · rcases List.mem_cons.1 h with rfl | hrest
        · exact Or.inr rfl
        · exact Or.inl (List.mem_cons_of_mem _ hrest)
      · rcases List.mem_cons.1 h with rfl | hrest
        · exact Or.inl List.mem_cons_self
        · rcases ih hrest with hold | hnew
          · exact Or.inl (List.mem_cons_of_mem _ hold)
          · exact Or.inr hnew

/-- The keys of a `dict` are distinct. -/
def WellKeyed (entries : Dict) : Prop := (entries.map Prod.fst).Nodup

theorem keys_set (entries : Dict) (key : Text) (value : Value) :
    (set entries key value).map Prod.fst =
      if key ∈ entries.map Prod.fst then entries.map Prod.fst
      else entries.map Prod.fst ++ [key] := by
  induction entries with
  | nil => simp [set]
  | cons entry rest ih =>
      rw [set]
      by_cases hentry : entry.1 = key
      · rw [if_pos hentry]
        simp [hentry]
      · have hne : ¬ key = entry.1 := fun heq => hentry heq.symm
        rw [if_neg hentry, List.map_cons, ih]
        by_cases hmem : key ∈ rest.map Prod.fst
        · simp only [List.map_cons, List.mem_cons, hmem, or_true, if_true]
        · simp only [List.map_cons, List.mem_cons, hne, hmem, or_self, if_false,
            List.cons_append]

theorem WellKeyed.set {entries : Dict} (h : WellKeyed entries) (key : Text) (value : Value) :
    WellKeyed (set entries key value) := by
  rw [WellKeyed, keys_set]
  split
  · exact h
  · rename_i hnew
    exact List.nodup_append.2 ⟨h, by simp, fun k hk other hother heq => hnew (by
      rw [List.mem_singleton.1 hother] at heq
      exact heq ▸ hk)⟩

theorem WellKeyed.get_of_mem {entries : Dict} (h : WellKeyed entries) {key : Text} {value : Value}
    (hmem : (key, value) ∈ entries) : get entries key = some value := by
  induction entries with
  | nil => cases hmem
  | cons entry rest ih =>
      obtain ⟨hfirst, hrest⟩ := List.nodup_cons.1 h
      rw [get_cons]
      rcases List.mem_cons.1 hmem with rfl | hmem
      · simp
      · have hne : entry.1 ≠ key := fun heq =>
          hfirst (List.mem_map.2 ⟨(key, value), hmem, heq.symm⟩)
        rw [if_neg hne]
        exact ih hrest hmem

theorem mem_of_get {entries : Dict} {key : Text} {value : Value}
    (h : get entries key = some value) : (key, value) ∈ entries := by
  induction entries with
  | nil => cases h
  | cons entry rest ih =>
      rw [get_cons] at h
      split at h
      · rename_i hkey
        obtain rfl := Option.some.inj h
        rw [← hkey]
        exact List.mem_cons_self
      · exact List.mem_cons_of_mem _ (ih h)

end Lookup

section Dumps

/-- The characters that `json.dumps` writes for one code point. -/
def escaped (c : ℕ) : ℕ :=
  if c = 0x22 ∨ c = 0x5C ∨ c = 0x0A ∨ c = 0x0D ∨ c = 0x09 ∨ c = 0x0C ∨ c = 0x08 then 2
  else if 0x20 ≤ c ∧ c ≤ 0x7E then 1
  else if c < 0x10000 then 6
  else 12

/-- The characters between the quotes of a dumped string. -/
def escapedLength (t : Text) : ℕ := (t.map escaped).sum

def numberLength : Number → ℕ
  | .finite double => double.repr.length
  | .nan => 3
  | .infinite negative => if negative then 9 else 8

mutual

/-- `len(json.dumps(value))`. The brackets take what no separator follows the last item
with. -/
def size : Value → ℕ
  | .null => 4
  | .bool value => if value then 4 else 5
  | .int value => (decimalInt value).length
  | .float value => numberLength value
  | .str value => 2 + escapedLength value
  | .arr items => max 2 (sizeItems items)
  | .obj entries => max 2 (sizeEntries entries)

def sizeItems : List Value → ℕ
  | [] => 0
  | item :: rest => size item + 2 + sizeItems rest

def sizeEntries : List (Text × Value) → ℕ
  | [] => 0
  | (key, value) :: rest => 2 + escapedLength key + 2 + size value + 2 + sizeEntries rest

end

@[simp] theorem escapedLength_append (before after : Text) :
    escapedLength (before ++ after) = escapedLength before + escapedLength after := by
  simp [escapedLength]

@[simp] theorem escapedLength_nil : escapedLength [] = 0 := rfl

/-- Replacing the value of a key changes the dump by what the values differ by. -/
theorem sizeEntries_set {entries : Dict} {key : Text} {old : Value} (value : Value)
    (hold : get entries key = some old) :
    sizeEntries (set entries key value) + size old = sizeEntries entries + size value := by
  induction entries with
  | nil => cases hold
  | cons entry rest ih =>
      rw [get_cons] at hold
      rw [set]
      by_cases hentry : entry.1 = key
      · rw [if_pos hentry] at hold
        obtain rfl := Option.some.inj hold
        rw [if_pos hentry, ← hentry]
        simp only [sizeEntries]
        omega
      · rw [if_neg hentry] at hold
        have hrest := ih hold
        rw [if_neg hentry]
        simp only [sizeEntries]
        omega

theorem sizeEntries_new {entries : Dict} {key : Text} (value : Value)
    (hnew : get entries key = none) :
    sizeEntries (set entries key value) =
      sizeEntries entries + (2 + escapedLength key + 2 + size value + 2) := by
  induction entries with
  | nil => simp only [set, sizeEntries, Nat.zero_add, Nat.add_zero]
  | cons entry rest ih =>
      rw [get_cons] at hnew
      split at hnew
      · cases hnew
      · rename_i hentry
        rw [set, if_neg hentry]
        simp only [sizeEntries, ih hnew]
        omega

theorem length_le_sizeItems (items : List Value) : 2 * items.length ≤ sizeItems items := by
  induction items with
  | nil => exact Nat.le_refl 0
  | cons item rest ih =>
      simp only [sizeItems, List.length_cons]
      omega

end Dumps

section Shapes

/-- `sys.maxsize + 1`: no list has as many items. -/
def maxItems : ℕ := 2 ^ 63

mutual

def sized : Value → Bool
  | .arr items => decide (items.length < maxItems) && sizedItems items
  | .obj entries => sizedEntries entries
  | _ => true

def sizedItems : List Value → Bool
  | [] => true
  | item :: rest => sized item && sizedItems rest

def sizedEntries : List (Text × Value) → Bool
  | [] => true
  | (_, value) :: rest => sized value && sizedEntries rest

end

theorem sized_get {entries : Dict} {key : Text} {value : Value}
    (h : sizedEntries entries = true) (hget : get entries key = some value) :
    sized value = true := by
  induction entries with
  | nil => cases hget
  | cons entry rest ih =>
      obtain ⟨hvalue, hrest⟩ := Bool.and_eq_true_iff.1 h
      rw [get_cons] at hget
      split at hget
      · obtain rfl := Option.some.inj hget
        exact hvalue
      · exact ih hrest hget

mutual

def validates : Value → Bool
  | .str t => encodes t
  | .arr items => validatesItems items
  | .obj entries => validatesEntries entries
  | _ => true

def validatesItems : List Value → Bool
  | [] => true
  | item :: rest => validates item && validatesItems rest

def validatesEntries : List (Text × Value) → Bool
  | [] => true
  | (key, value) :: rest => encodes key && validates value && validatesEntries rest

end

theorem validates_item {items : List Value} (h : validatesItems items = true) :
    ∀ item ∈ items, validates item = true := by
  induction items with
  | nil => intro item hmem; cases hmem
  | cons first rest ih =>
      obtain ⟨hfirst, hrest⟩ := Bool.and_eq_true_iff.1 h
      intro item hmem
      rcases List.mem_cons.1 hmem with rfl | hmem
      · exact hfirst
      · exact ih hrest item hmem

theorem validates_entry {entries : Dict} (h : validatesEntries entries = true) :
    ∀ entry ∈ entries, encodes entry.1 = true ∧ validates entry.2 = true := by
  induction entries with
  | nil => intro entry hmem; cases hmem
  | cons first rest ih =>
      obtain ⟨hfirst, hrest⟩ := Bool.and_eq_true_iff.1 h
      intro entry hmem
      rcases List.mem_cons.1 hmem with rfl | hmem
      · exact Bool.and_eq_true_iff.1 hfirst
      · exact ih hrest entry hmem

theorem length_decimal_le {n k : ℕ} (hk : 0 < k) : (decimal n).length ≤ k ↔ n < 10 ^ k := by
  simp [decimal, Nat.length_toDigits_le_iff (by decide : 1 < 10) hk]

@[simp] theorem decimalInt_natCast (n : ℕ) : decimalInt n = decimal n := by
  simp [decimalInt]

theorem encodes_of_small {t : Text} (h : ∀ c ∈ t, c < 0xD800) : encodes t = true := by
  simp only [encodes, List.all_eq_true, isSurrogate, Bool.not_eq_true', Bool.and_eq_false_iff,
    decide_eq_false_iff_not, not_le]
  exact fun c hc => Or.inl (h c hc)

@[simp] theorem encodes_append (before after : Text) :
    encodes (before ++ after) = (encodes before && encodes after) := by
  simp [encodes]

theorem encodes_of_subset {t u : Text} (h : ∀ c ∈ t, c ∈ u) (hu : encodes u = true) :
    encodes t = true := by
  simp only [encodes, List.all_eq_true] at hu ⊢
  exact fun c hc => hu c (h c hc)

@[simp] theorem encodes_decimal (n : ℕ) : encodes (decimal n) = true := by
  refine encodes_of_small fun c hc => ?_
  obtain ⟨digit, hdigit, rfl⟩ := List.mem_map.1 hc
  have hlast := Nat.isDigit_of_mem_toDigits (by decide) (by decide) hdigit
  have hle : digit.toNat ≤ 57 := by
    simp only [Char.isDigit, Bool.and_eq_true, decide_eq_true_eq] at hlast
    exact hlast.2
  omega

@[simp] theorem encodes_decimalInt (n : ℤ) : encodes (decimalInt n) = true := by
  unfold decimalInt
  split
  · simp only [encodes_append, encodes_decimal, Bool.and_true]
    decide
  · exact encodes_decimal _

end Shapes

end Loaded
