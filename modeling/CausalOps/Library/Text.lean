import Mathlib

set_option autoImplicit false

/-! The methods of Python's `str` that the programs here call. A Python string
and a Lean string are both lists of code points. -/

namespace Text

/-- `str.isspace` for one code point. -/
def isSpace (c : Char) : Bool :=
  let n := c.toNat
  (9 ≤ n && n ≤ 13) || (28 ≤ n && n ≤ 32) || n == 0x85 || n == 0xA0 || n == 0x1680 ||
    (0x2000 ≤ n && n ≤ 0x200A) || n == 0x2028 || n == 0x2029 || n == 0x202F ||
    n == 0x205F || n == 0x3000

def stripChars (cs : List Char) : List Char :=
  (cs.dropWhile isSpace).rdropWhile isSpace

def strip (s : String) : String := String.ofList (stripChars s.toList)

/-- `str.isalnum()`, decided on the ASCII range. -/
def isAlnum (s : String) : Bool := !s.toList.isEmpty && s.toList.all Char.isAlphanum

theorem dropWhile_stripChars (cs : List Char) :
    (stripChars cs).dropWhile isSpace = stripChars cs := by
  cases hrest : stripChars cs with
  | nil => rfl
  | cons c rest =>
      obtain ⟨tail, htail⟩ := List.rdropWhile_prefix isSpace (cs.dropWhile isSpace)
      have hhead : cs.dropWhile isSpace = c :: (rest ++ tail) := by
        rw [← htail]
        change stripChars cs ++ tail = _
        rw [hrest]
        rfl
      have hc : isSpace c = false := by
        have hne : cs.dropWhile isSpace ≠ [] := by
          rw [hhead]
          exact List.cons_ne_nil _ _
        have hnot := List.head_dropWhile_not isSpace hne
        simpa [hhead] using hnot
      simp [hc]

theorem stripChars_idem (cs : List Char) : stripChars (stripChars cs) = stripChars cs := by
  rw [stripChars, dropWhile_stripChars]
  exact List.rdropWhile_idempotent _ _

@[simp] theorem strip_idem (s : String) : strip (strip s) = strip s := by
  simp [strip, stripChars_idem]

theorem isSpace_of_isAlphanum {c : Char} (h : c.isAlphanum = true) : isSpace c = false := by
  have hrange : (65 ≤ c.toNat ∧ c.toNat ≤ 90) ∨ (97 ≤ c.toNat ∧ c.toNat ≤ 122) ∨
      (48 ≤ c.toNat ∧ c.toNat ≤ 57) := by
    simp only [Char.isAlphanum, Char.isAlpha, Char.isUpper, Char.isLower, Char.isDigit,
      Bool.or_eq_true, Bool.and_eq_true, decide_eq_true_eq] at h
    rcases h with (⟨hlow, hhigh⟩ | ⟨hlow, hhigh⟩) | ⟨hlow, hhigh⟩
    · exact .inl ⟨hlow, hhigh⟩
    · exact .inr (.inl ⟨hlow, hhigh⟩)
    · exact .inr (.inr ⟨hlow, hhigh⟩)
  simp only [isSpace]
  rw [Bool.eq_false_iff]
  intro hspace
  simp only [Bool.or_eq_true, Bool.and_eq_true, decide_eq_true_eq, beq_iff_eq] at hspace
  omega

theorem strip_of_isAlnum {s : String} (h : isAlnum s = true) : strip s = s := by
  have hall : ∀ c ∈ s.toList, isSpace c = false := by
    simp only [isAlnum, Bool.and_eq_true, List.all_eq_true] at h
    exact fun c hc => isSpace_of_isAlphanum (h.2 c hc)
  have hfront : s.toList.dropWhile isSpace = s.toList := by
    rw [List.dropWhile_eq_self_iff]
    intro hlength
    simp [hall _ (List.getElem_mem hlength)]
  have hback : s.toList.rdropWhile isSpace = s.toList := by
    rw [List.rdropWhile_eq_self_iff]
    intro hne
    simp [hall _ (List.getLast_mem hne)]
  simp only [strip, stripChars, hfront, hback, String.ofList_toList]

theorem ne_of_isAlnum {s : String} (h : isAlnum s = true) : s ≠ "" := by
  rintro rfl
  simp [isAlnum] at h

theorem isAlnum_append {s t : String} (hs : isAlnum s = true)
    (ht : t.toList.all Char.isAlphanum = true) : isAlnum (s ++ t) = true := by
  simp only [isAlnum, Bool.and_eq_true, Bool.not_eq_true', String.toList_append,
    List.all_append] at hs ⊢
  refine ⟨?_, hs.2, ht⟩
  cases h : s.toList with
  | nil => simp [h] at hs
  | cons c rest => rfl

end Text
