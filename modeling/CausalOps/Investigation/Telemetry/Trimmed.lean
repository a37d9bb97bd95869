import CausalOps.Investigation.Telemetry

set_option autoImplicit false

/-! What trimming leaves of a payload: a suffix of the rows with its count, every value
that is no text as it was, and nothing that could not be validated before. -/

namespace CausalOps.Telemetry

open Loaded

section Sizes

/-- A dump with at least one entry has its entries and two more characters in it. -/
theorem size_of_get {payload : Dict} {key : Text} {value : Value}
    (hget : get payload key = some value) : size (.obj payload) = sizeEntries payload := by
  have hmem := mem_of_get hget
  cases payload with
  | nil => cases hmem
  | cons entry rest =>
      obtain ⟨first, own⟩ := entry
      simp only [size, sizeEntries]
      omega

theorem fits_set {payload : Dict} {key : Text} {old value : Value}
    (hget : get payload key = some old) :
    fits (set payload key value) = true ↔
      size (.obj payload) + size value ≤ maxResultBytes + size old := by
  have hset := sizeEntries_set value hget
  have hnew : get (set payload key value) key = some value := by
    rw [get_set, if_pos rfl]
  rw [fits, decide_eq_true_eq, size_of_get hnew, size_of_get hget]
  omega

end Sizes

section Shrinking

/-- What halving one text and marking the payload keeps, shrinking keeps. -/
theorem shrink_keeps {P : Dict → Prop}
    (hstep : ∀ payload key t, P payload → widest payload = some (key, t) →
      P (set (set payload key (.str (t.take (t.length / 2)))) (text "truncated") (.bool true)))
    (fuel : ℕ) : ∀ payload, P payload → P (shrink fuel payload) := by
  induction fuel with
  | zero => intro payload h; exact h
  | succ fuel ih =>
      intro payload h
      rw [shrink]
      split
      · exact h
      · split
        · exact h
        · rename_i key t hwidest
          exact ih _ (hstep payload key t h hwidest)

theorem shrink_of_fits {payload : Dict} (h : fits payload = true) (fuel : ℕ) :
    shrink fuel payload = payload := by
  cases fuel with
  | zero => rfl
  | succ fuel => rw [shrink, if_pos h]

theorem widest_mem {payload : Dict} {key t : Text} (h : widest payload = some (key, t)) :
    (key, .str t) ∈ payload ∧ t ≠ [] := by
  induction payload generalizing key t with
  | nil => cases h
  | cons entry rest ih =>
      obtain ⟨first, value⟩ := entry
      cases value with
      | str own =>
          simp only [widest] at h
          split at h
          · rename_i other longer hrest
            split at h
            · obtain ⟨rfl, rfl⟩ := Prod.mk.inj (Option.some.inj h)
              obtain ⟨hmem, hne⟩ := ih hrest
              exact ⟨List.mem_cons_of_mem _ hmem, hne⟩
            · rename_i hlonger
              obtain ⟨rfl, rfl⟩ := Prod.mk.inj (Option.some.inj h)
              refine ⟨List.mem_cons_self, fun hnil => hlonger ?_⟩
              rw [hnil]
              exact List.length_pos_of_ne_nil (ih hrest).2
          · split at h
            · cases h
            · rename_i hne
              obtain ⟨rfl, rfl⟩ := Prod.mk.inj (Option.some.inj h)
              exact ⟨List.mem_cons_self, hne⟩
      | _ =>
          simp only [widest] at h
          obtain ⟨hmem, hne⟩ := ih h
          exact ⟨List.mem_cons_of_mem _ hmem, hne⟩

theorem shrink_get {payload : Dict} {key : Text} {value : Value} (hkeyed : WellKeyed payload)
    (hkey : key ≠ text "truncated") (htext : textLength value = 0)
    (hget : get payload key = some value) (fuel : ℕ) :
    WellKeyed (shrink fuel payload) ∧ get (shrink fuel payload) key = some value := by
  refine @shrink_keeps (fun payload => WellKeyed payload ∧ get payload key = some value)
    ?_ fuel payload ⟨hkeyed, hget⟩
  rintro payload other t ⟨hkeyed, hget⟩ hwidest
  obtain ⟨hmem, hne⟩ := widest_mem hwidest
  have hother : other ≠ key := by
    rintro rfl
    rw [hkeyed.get_of_mem hmem] at hget
    obtain rfl := Option.some.inj hget
    exact hne (List.length_eq_zero_iff.1 htext)
  refine ⟨(hkeyed.set _ _).set _ _, ?_⟩
  rw [get_set, if_neg hkey.symm, get_set, if_neg hother, hget]

end Shrinking

section Dropping

variable {payload : Dict} {rowsKey countKey : Text}

theorem get_withRows (payload : Dict) (rowsKey countKey key : Text) (rows : List Value) :
    get (withRows payload rowsKey countKey rows) key =
      if countKey = key then some (.int rows.length)
      else if rowsKey = key then some (.arr rows) else get payload key := by
  rw [withRows, get_set, get_set]

/-- Rows are dropped from the front, and the payload is marked once one is. -/
theorem dropRows_suffix (payload : Dict) (rowsKey countKey : Text) (rows : List Value) :
    ∃ kept marked, kept <:+ rows ∧
      (marked = payload ∧ kept = rows ∨
        marked = set payload (text "truncated") (.bool true)) ∧
      dropRows payload rowsKey countKey rows = withRows marked rowsKey countKey kept ∧
      (fits (withRows marked rowsKey countKey kept) = true ∨ kept = []) := by
  induction rows generalizing payload with
  | nil => exact ⟨[], payload, List.suffix_refl _, Or.inl ⟨rfl, rfl⟩, rfl, Or.inr rfl⟩
  | cons row rest ih =>
      rw [dropRows]
      by_cases hfits : fits (withRows payload rowsKey countKey (row :: rest)) = true
      · exact ⟨row :: rest, payload, List.suffix_refl _, Or.inl ⟨rfl, rfl⟩, by rw [if_pos hfits],
          Or.inl hfits⟩
      · obtain ⟨kept, marked, hsuffix, hmarked, hdrop, hend⟩ :=
          ih (set payload (text "truncated") (.bool true))
        refine ⟨kept, marked, hsuffix.trans (List.suffix_cons row rest), Or.inr ?_, ?_, hend⟩
        · rcases hmarked with ⟨hmarked, -⟩ | hmarked
          · exact hmarked
          · rw [hmarked, set_set]
        · rw [if_neg hfits, hdrop]

end Dropping

section Dumping

variable {r : Runtime} {payload : Dict} {rowsKey countKey : Text} {rows : List Value}

theorem trim_ok_iff :
    (∃ trimmed, trimToBytes r payload rowsKey countKey rows = .ok trimmed) ↔
      ((withRows payload rowsKey countKey rows).all fun entry => r.encodable entry.2) = true := by
  constructor
  · rintro ⟨trimmed, h⟩
    by_contra hnot
    simp only [trimToBytes, if_neg hnot] at h
    cases h
  · intro h
    exact ⟨_, if_pos h⟩

theorem all_withRows (hkeyed : WellKeyed payload) (hdiffer : countKey ≠ rowsKey) :
    ((withRows payload rowsKey countKey rows).all fun entry => r.encodable entry.2) = true ↔
      r.encodable (.arr rows) = true ∧ ∀ key value, key ≠ rowsKey → key ≠ countKey →
        get payload key = some value → r.encodable value = true := by
  have hkeyed' : WellKeyed (withRows payload rowsKey countKey rows) := (hkeyed.set _ _).set _ _
  rw [List.all_eq_true]
  constructor
  · intro h
    refine ⟨h (rowsKey, .arr rows) (mem_of_get ?_), fun key value hrows hcount hget =>
      h (key, value) (mem_of_get ?_)⟩
    · rw [get_withRows, if_neg hdiffer, if_pos rfl]
    · rw [get_withRows, if_neg hcount.symm, if_neg hrows.symm, hget]
  · rintro ⟨hrows, hothers⟩ ⟨key, value⟩ hmem
    have hget := hkeyed'.get_of_mem hmem
    rw [get_withRows] at hget
    by_cases hcount : countKey = key
    · rw [if_pos hcount] at hget
      rw [← Option.some.inj hget]
      exact r.encodableFlat _ rfl
    · by_cases hrow : rowsKey = key
      · rw [if_neg hcount, if_pos hrow] at hget
        rwa [← Option.some.inj hget]
      · rw [if_neg hcount, if_neg hrow] at hget
        exact hothers key value (Ne.symm hrow) (Ne.symm hcount) hget

/-- Beside its rows a payload holds flat values, so only the rows can nest. -/
theorem trim_ok_iff_rows (hkeyed : WellKeyed payload) (hdiffer : countKey ≠ rowsKey)
    (hflat : (payload.all fun entry => entry.2.isFlat) = true) :
    (∃ trimmed, trimToBytes r payload rowsKey countKey rows = .ok trimmed) ↔
      r.encodable (.arr rows) = true := by
  rw [trim_ok_iff, all_withRows hkeyed hdiffer, and_iff_left_iff_imp]
  intro _ key value _ _ hget
  exact r.encodableFlat _ (List.all_eq_true.1 hflat _ (mem_of_get hget))

end Dumping

section Trims

variable {r : Runtime} {payload trimmed : Dict} {rowsKey countKey : Text} {rows : List Value}

/-- Every entry validates, but for those under some keys. -/
def Clean (r : Runtime) (free : List Text) (payload : Dict) : Prop :=
  ∀ entry ∈ payload, encodes entry.1 = true ∧ (entry.1 ∈ free ∨ r.accepts entry.2 = true)

theorem Clean.set {free : List Text} (h : Clean r free payload) {key : Text} {value : Value}
    (hkey : encodes key = true) (hvalue : key ∈ free ∨ r.accepts value = true) :
    Clean r free (set payload key value) := by
  intro entry hmem
  rcases mem_set hmem with hold | rfl
  · exact h entry hold
  · exact ⟨hkey, hvalue⟩

theorem Clean.shrink {free : List Text} (h : Clean r free payload) (fuel : ℕ) :
    Clean r free (shrink fuel payload) := by
  refine @shrink_keeps (Clean r free) ?_ fuel payload h
  intro payload key t hclean hwidest
  obtain ⟨hkey, hvalue⟩ := hclean _ (widest_mem hwidest).1
  refine (hclean.set hkey ?_).set (by decide) (Or.inr (r.acceptsBool true))
  rcases hvalue with hfree | haccepts
  · exact Or.inl hfree
  · right
    rw [r.acceptsText] at haccepts ⊢
    exact encodes_of_subset (fun c hc => List.mem_of_mem_take hc) haccepts

/-- The keys that a caller passes: distinct, and none the mark itself. -/
structure CallerKeys (rowsKey countKey : Text) : Prop where
  differ : countKey ≠ rowsKey
  rows : rowsKey ≠ text "truncated"
  count : countKey ≠ text "truncated"
  rowsEncode : encodes rowsKey = true
  countEncode : encodes countKey = true

/-- How a trim ends: with a payload that fits, or with no row left and its texts shrunk. -/
def Ends (payload trimmed : Dict) (rowsKey countKey : Text) (kept : List Value) : Prop :=
  ∃ marked, (marked = payload ∨ marked = set payload (text "truncated") (.bool true)) ∧
    trimmed = shrink (textWeight (withRows marked rowsKey countKey kept))
      (withRows marked rowsKey countKey kept) ∧
    (fits (withRows marked rowsKey countKey kept) = true ∨ kept = [])

/-- What `trim_to_bytes` leaves. -/
structure Trims (r : Runtime) (payload trimmed : Dict) (rowsKey countKey : Text)
    (rows kept : List Value) : Prop where
  suffix : kept <:+ rows
  keyed : WellKeyed trimmed
  rowsNow : get trimmed rowsKey = some (.arr kept)
  countNow : get trimmed countKey = some (.int kept.length)
  others : ∀ key value, key ≠ rowsKey → key ≠ countKey → key ≠ text "truncated" →
    textLength value = 0 → get payload key = some value → get trimmed key = some value
  clean : ∀ free, rowsKey ∈ free → Clean r free payload → Clean r free trimmed
  ends : Ends payload trimmed rowsKey countKey kept

theorem trims_of_ok (hkeyed : WellKeyed payload) (hkeys : CallerKeys rowsKey countKey)
    (h : trimToBytes r payload rowsKey countKey rows = .ok trimmed) :
    ∃ kept, Trims r payload trimmed rowsKey countKey rows kept := by
  simp only [trimToBytes] at h
  split at h
  swap
  · cases h
  obtain rfl := Except.ok.inj h
  obtain ⟨kept, marked, hsuffix, hmarked, hdrop, hend⟩ :=
    dropRows_suffix payload rowsKey countKey rows
  rw [hdrop]
  have hmarkedKeyed : WellKeyed marked := by
    rcases hmarked with ⟨rfl, -⟩ | rfl
    · exact hkeyed
    · exact hkeyed.set _ _
  have hdropped : WellKeyed (withRows marked rowsKey countKey kept) :=
    (hmarkedKeyed.set _ _).set _ _
  have hrows := shrink_get hdropped hkeys.rows rfl (by
    rw [get_withRows, if_neg hkeys.differ, if_pos rfl])
    (textWeight (withRows marked rowsKey countKey kept))
  have hcount := shrink_get hdropped hkeys.count rfl (by rw [get_withRows, if_pos rfl])
    (textWeight (withRows marked rowsKey countKey kept))
  refine ⟨kept, hsuffix, hrows.1, hrows.2, hcount.2, ?_, ?_,
    ⟨marked, hmarked.imp And.left id, rfl, hend⟩⟩
  · intro key value hrowsKey hcountKey htruncated htext hget
    refine (shrink_get hdropped htruncated htext ?_ _).2
    rw [get_withRows, if_neg hcountKey.symm, if_neg hrowsKey.symm]
    rcases hmarked with ⟨rfl, -⟩ | rfl
    · exact hget
    · rw [get_set, if_neg htruncated.symm, hget]
  · intro free hfree hclean
    have hmarkedClean : Clean r free marked := by
      rcases hmarked with ⟨rfl, -⟩ | rfl
      · exact hclean
      · exact hclean.set (by decide) (Or.inr (r.acceptsBool true))
    exact ((hmarkedClean.set hkeys.rowsEncode (Or.inl hfree)).set hkeys.countEncode
      (Or.inr (r.acceptsInt _))).shrink _

/-- A clean payload validates exactly if what stands under the remaining keys does. -/
theorem accepted_eq {free : List Text} {accepted : Bool} (hkeyed : WellKeyed payload)
    (hclean : accepted = true → Clean r free payload)
    (hfree : accepted = true → ∀ key ∈ free, ∀ value, get payload key = some value →
      r.accepts value = true)
    (hrefused : accepted = false → ∃ entry ∈ payload, r.accepts entry.2 = false) :
    payload.all (fun entry => encodes entry.1 && r.accepts entry.2) = accepted := by
  cases accepted with
  | false =>
      obtain ⟨entry, hmem, hentry⟩ := hrefused rfl
      exact List.all_eq_false.2 ⟨entry, hmem, by simp [hentry]⟩
  | true =>
      refine List.all_eq_true.2 fun entry hmem => ?_
      obtain ⟨hkey, hin | hentry⟩ := hclean rfl entry hmem
      · have hvalue := hfree rfl entry.1 hin entry.2 (hkeyed.get_of_mem hmem)
        simp [hkey, hvalue]
      · simp [hkey, hentry]

end Trims

end CausalOps.Telemetry
