import Mathlib.Logic.Relation
import CausalOps.Investigation.Telemetry.Converges

set_option autoImplicit false

/-! Which rows and texts a trim keeps: the most rows, from the newest, with which the payload
fits, and of its texts a beginning each, once there is no row left. -/

namespace CausalOps.Telemetry

open Loaded

section Longest

variable {payload : Dict} {rowsKey countKey : Text}

/-- The payload when these of its rows are kept: with their count, and marked once there are
fewer. -/
def keeping (payload : Dict) (rowsKey countKey : Text) (rows kept : List Value) : Dict :=
  withRows (if kept.length = rows.length then payload
    else set payload (text "truncated") (.bool true)) rowsKey countKey kept

theorem keeping_all (payload : Dict) (rowsKey countKey : Text) (rows : List Value) :
    keeping payload rowsKey countKey rows rows = withRows payload rowsKey countKey rows := by
  rw [keeping, if_pos rfl]

/-- Below the first row, whether more rows are there only shows in the mark. -/
theorem keeping_cons {rest kept : List Value} (row : Value) (hkept : kept <:+ rest) :
    keeping payload rowsKey countKey (row :: rest) kept =
      keeping (set payload (text "truncated") (.bool true)) rowsKey countKey rest kept := by
  have hlength := hkept.length_le
  have hshorter : kept.length ≠ (row :: rest).length := by
    rw [List.length_cons]
    omega
  rw [keeping, if_neg hshorter, keeping]
  split
  · rfl
  · rw [set_set]

theorem dropRows_longest (payload : Dict) (rowsKey countKey : Text) (rows : List Value) :
    ∃ kept, kept <:+ rows ∧
      dropRows payload rowsKey countKey rows = keeping payload rowsKey countKey rows kept ∧
      (fits (keeping payload rowsKey countKey rows kept) = true ∨ kept = []) ∧
      ∀ other, other <:+ rows → kept.length < other.length →
        fits (keeping payload rowsKey countKey rows other) = false := by
  induction rows generalizing payload with
  | nil =>
      refine ⟨[], List.suffix_refl _, (keeping_all _ _ _ _).symm, Or.inr rfl, ?_⟩
      intro other hother hlonger
      have hlength := hother.length_le
      omega
  | cons row rest ih =>
      rw [dropRows]
      by_cases hfits : fits (withRows payload rowsKey countKey (row :: rest)) = true
      · refine ⟨row :: rest, List.suffix_refl _, ?_, ?_, ?_⟩
        · rw [if_pos hfits, keeping_all]
        · rw [keeping_all]
          exact Or.inl hfits
        · intro other hother hlonger
          have hlength := hother.length_le
          omega
      · obtain ⟨kept, hkept, hdrop, hend, hlongest⟩ :=
          ih (set payload (text "truncated") (.bool true))
        rw [if_neg hfits, hdrop]
        refine ⟨kept, hkept.trans (List.suffix_cons row rest), ?_, ?_, ?_⟩
        · rw [keeping_cons row hkept]
        · rw [keeping_cons row hkept]
          exact hend
        · intro other hother hlonger
          rcases List.suffix_cons_iff.1 hother with rfl | hother
          · rw [keeping_all]
            exact Bool.eq_false_iff.2 hfits
          · rw [keeping_cons row hother]
            exact hlongest other hother hlonger

theorem get_keeping (payload : Dict) (rowsKey countKey key : Text) (rows kept : List Value) :
    get (keeping payload rowsKey countKey rows kept) key =
      if countKey = key then some (.int kept.length)
      else if rowsKey = key then some (.arr kept)
      else if text "truncated" = key ∧ kept.length ≠ rows.length then some (.bool true)
      else get payload key := by
  rw [keeping, get_withRows]
  by_cases hlength : kept.length = rows.length
  · simp [hlength]
  · simp [hlength, get_set]

theorem keeping_keyed {rows kept : List Value} (hkeyed : WellKeyed payload) :
    WellKeyed (keeping payload rowsKey countKey rows kept) := by
  have hmarked : WellKeyed (if kept.length = rows.length then payload
      else set payload (text "truncated") (.bool true)) := by
    split
    · exact hkeyed
    · exact hkeyed.set _ _
  exact (hmarked.set _ _).set _ _

end Longest

section Shrinking

/-- One turn of the loop over the texts, as long as it goes on. -/
def shrinkOnce (payload : Dict) : Option Dict :=
  if fits payload then none
  else (widest payload).map fun longest =>
    set (set payload longest.1 (.str (longest.2.take (longest.2.length / 2))))
      (text "truncated") (.bool true)

def Halts (payload last : Dict) : Prop :=
  Relation.ReflTransGen (fun before after => shrinkOnce before = some after) payload last ∧
    shrinkOnce last = none

theorem shrink_reaches (fuel : ℕ) (payload : Dict) :
    Relation.ReflTransGen (fun before after => shrinkOnce before = some after) payload
      (shrink fuel payload) := by
  induction fuel generalizing payload with
  | zero => exact .refl
  | succ fuel ih =>
      rw [shrink]
      split
      · exact .refl
      · rename_i hopen
        split
        · exact .refl
        · rename_i key t hwidest
          refine .head ?_ (ih _)
          simp [shrinkOnce, hopen, hwidest]

theorem shrink_halts {payload : Dict} (hkeyed : WellKeyed payload) :
    Halts payload (shrink (textWeight payload) payload) := by
  refine ⟨shrink_reaches _ _, ?_⟩
  rcases shrink_done _ payload hkeyed le_rfl with hfits | hwidest
  · simp [shrinkOnce, hfits]
  · simp [shrinkOnce, hwidest]

theorem Halts.of_fits {payload last : Dict} (h : Halts payload last)
    (hfits : fits payload = true) : last = payload := by
  rcases h.1.cases_head with hsame | ⟨after, hstep, -⟩
  · exact hsame.symm
  · rw [shrinkOnce, if_pos hfits] at hstep
    cases hstep

theorem Marked.fits_of_halts {bound : ℕ} {payload last : Dict} (h : Marked bound payload)
    (hbound : bound ≤ maxResultBytes) (hhalts : Halts payload last) : fits last = true := by
  obtain ⟨hreaches, hlast⟩ := hhalts
  have hmarked : Marked bound last := by
    clear hlast
    induction hreaches with
    | refl => exact h
    | tail _ hstep ih =>
        rw [shrinkOnce] at hstep
        split at hstep
        · cases hstep
        · obtain ⟨⟨key, t⟩, hwidest, rfl⟩ := Option.map_eq_some_iff.1 hstep
          exact ih.halved hwidest
  by_cases hfits : fits last = true
  · exact hfits
  · rw [shrinkOnce, if_neg hfits, Option.map_eq_none_iff] at hlast
    exact hmarked.fits_of_textless hbound hlast

/-- What shrinking may have done to a payload: texts are cut at their end, and the first cut
leaves its mark. -/
structure ShrunkFrom (dropped payload : Dict) : Prop where
  keyed : WellKeyed payload
  texts : ∀ key t, key ≠ text "truncated" → get dropped key = some (.str t) →
    ∃ t', get payload key = some (.str t') ∧ t' <+: t
  others : ∀ key, key ≠ text "truncated" → (∀ t, get dropped key ≠ some (.str t)) →
    get payload key = get dropped key
  mark : payload = dropped ∨ get payload (text "truncated") = some (.bool true) ∧
    ∃ key t, get dropped key = some (.str t) ∧ get payload key ≠ some (.str t)

theorem shrunkFrom_self {dropped : Dict} (hkeyed : WellKeyed dropped) :
    ShrunkFrom dropped dropped :=
  ⟨hkeyed, fun _ t _ hget => ⟨t, hget, List.prefix_refl t⟩, fun _ _ _ => rfl, Or.inl rfl⟩

theorem ShrunkFrom.halved {dropped payload : Dict} (h : ShrunkFrom dropped payload)
    {key t : Text} (hget : get payload key = some (.str t)) (hne : t ≠ []) :
    ∃ t₀, get dropped key = some (.str t₀) ∧
      get (set (set payload key (.str (t.take (t.length / 2)))) (text "truncated")
        (.bool true)) key ≠ some (.str t₀) := by
  by_cases hmark : key = text "truncated"
  · subst hmark
    rcases h.mark with rfl | ⟨hbool, -⟩
    · exact ⟨t, hget, by rw [get_set, if_pos rfl]; simp⟩
    · rw [hbool] at hget
      cases Option.some.inj hget
  · have htext : ∃ t₀, get dropped key = some (.str t₀) := by
      by_contra hnone
      have hsame := h.others key hmark fun t₀ ht₀ => hnone ⟨t₀, ht₀⟩
      exact hnone ⟨t, hsame ▸ hget⟩
    obtain ⟨t₀, ht₀⟩ := htext
    obtain ⟨t', ht', hprefix⟩ := h.texts key t₀ hmark ht₀
    obtain rfl : t = t' := by
      rw [hget] at ht'
      simpa using ht'
    refine ⟨t₀, ht₀, ?_⟩
    rw [get_set, if_neg (fun heq => hmark heq.symm), get_set, if_pos rfl]
    intro hsame
    have hlength := hprefix.length_le
    have hpos := List.length_pos_of_ne_nil hne
    have hcut := congrArg List.length (Value.str.inj (Option.some.inj hsame))
    rw [List.length_take] at hcut
    omega

theorem shrink_shrunkFrom {dropped : Dict} (hkeyed : WellKeyed dropped) (fuel : ℕ) :
    ShrunkFrom dropped (shrink fuel dropped) := by
  refine @shrink_keeps (ShrunkFrom dropped) ?_ fuel dropped (shrunkFrom_self hkeyed)
  intro payload key t h hwidest
  obtain ⟨hmem, hne⟩ := widest_mem hwidest
  have hget := h.keyed.get_of_mem hmem
  have hother : ∀ other, other ≠ text "truncated" → other ≠ key →
      get (set (set payload key (.str (t.take (t.length / 2)))) (text "truncated")
        (.bool true)) other = get payload other := by
    intro other hmark hkey
    rw [get_set, if_neg hmark.symm, get_set, if_neg hkey.symm]
  refine ⟨(h.keyed.set _ _).set _ _, ?_, ?_, Or.inr ⟨by rw [get_set, if_pos rfl], key, ?_⟩⟩
  · intro other t₀ hmark ht₀
    obtain ⟨t', ht', hprefix⟩ := h.texts other t₀ hmark ht₀
    by_cases hkey : other = key
    · subst hkey
      obtain rfl : t = t' := by
        rw [hget] at ht'
        simpa using ht'
      refine ⟨t.take (t.length / 2), ?_, (List.take_prefix _ _).trans hprefix⟩
      rw [get_set, if_neg hmark.symm, get_set, if_pos rfl]
    · exact ⟨t', (hother other hmark hkey).trans ht', hprefix⟩
  · intro other hmark hnone
    have hsame := h.others other hmark hnone
    have hkey : other ≠ key := by
      rintro rfl
      exact hnone t (hsame ▸ hget)
    exact (hother other hmark hkey).trans hsame
  · exact h.halved hget hne

end Shrinking

section Trimmed

variable {r : Runtime} {payload trimmed : Dict} {rowsKey countKey : Text} {rows kept : List Value}

theorem texts_empty {payload : Dict} (h : widest payload = none) {key t : Text}
    (hmem : (key, .str t) ∈ payload) : t = [] := by
  induction payload with
  | nil => cases hmem
  | cons entry rest ih =>
      obtain ⟨first, value⟩ := entry
      have hrest : widest rest = none := by
        cases value with
        | str own =>
            simp only [widest] at h
            split at h
            · split at h <;> cases h
            · assumption
        | _ => simpa only [widest] using h
      rcases List.mem_cons.1 hmem with heq | hmem
      · obtain ⟨rfl, rfl⟩ := Prod.mk.inj heq
        simp only [widest, hrest] at h
        by_contra hne
        rw [if_neg hne] at h
        cases h
      · exact ih hrest hmem

def Shortened (payload trimmed : Dict) (rowsKey countKey : Text) : Prop :=
  ∃ key t, key ≠ rowsKey ∧ key ≠ countKey ∧ get payload key = some (.str t) ∧
    get trimmed key ≠ some (.str t)

/-- What `trim_to_bytes` makes of a payload, and which of the rows it keeps. -/
structure TrimmedTo (payload trimmed : Dict) (rowsKey countKey : Text)
    (rows kept : List Value) : Prop where
  suffix : kept <:+ rows
  rowsNow : get trimmed rowsKey = some (.arr kept)
  countNow : get trimmed countKey = some (.int kept.length)
  fitting : fits (keeping payload rowsKey countKey rows kept) = true ∨ kept = []
  longest : ∀ other, other <:+ rows → kept.length < other.length →
    fits (keeping payload rowsKey countKey rows other) = false
  halts : Halts (keeping payload rowsKey countKey rows kept) trimmed
  done : fits trimmed = true ∨
    kept = [] ∧ ∀ key t, get trimmed key = some (.str t) → t = []
  texts : ∀ key t, key ≠ rowsKey → key ≠ countKey → key ≠ text "truncated" →
    get payload key = some (.str t) →
      ∃ t', get trimmed key = some (.str t') ∧ t' <+: t ∧ (t' ≠ t → kept = [])
  others : ∀ key, key ≠ rowsKey → key ≠ countKey → key ≠ text "truncated" →
    (∀ t, get payload key ≠ some (.str t)) → get trimmed key = get payload key
  marked : kept.length < rows.length ∨ Shortened payload trimmed rowsKey countKey →
    get trimmed (text "truncated") = some (.bool true)
  unmarked : ¬ (kept.length < rows.length ∨ Shortened payload trimmed rowsKey countKey) →
    get trimmed (text "truncated") = get payload (text "truncated")

/-- The keys that a caller passes are two, and neither is the mark. -/
structure OwnKeys (rowsKey countKey : Text) : Prop where
  differ : countKey ≠ rowsKey
  rows : rowsKey ≠ text "truncated"
  count : countKey ≠ text "truncated"

theorem get_keeping_other {key : Text} (hrows : key ≠ rowsKey) (hcount : key ≠ countKey)
    (htruncated : key ≠ text "truncated") :
    get (keeping payload rowsKey countKey rows kept) key = get payload key := by
  rw [get_keeping, if_neg hcount.symm, if_neg hrows.symm,
    if_neg fun hmark => htruncated hmark.1.symm]

theorem get_keeping_mark (hkeys : OwnKeys rowsKey countKey) :
    get (keeping payload rowsKey countKey rows kept) (text "truncated") =
      if kept.length ≠ rows.length then some (.bool true)
      else get payload (text "truncated") := by
  rw [get_keeping, if_neg hkeys.count, if_neg hkeys.rows]
  simp

theorem marked_of_shrunk (hkeys : OwnKeys rowsKey countKey)
    (hshrunk : ShrunkFrom (keeping payload rowsKey countKey rows kept) trimmed)
    (h : kept.length < rows.length ∨ Shortened payload trimmed rowsKey countKey) :
    get trimmed (text "truncated") = some (.bool true) := by
  rcases hshrunk.mark with hsame | ⟨hmark, -⟩
  · have hfewer : kept.length ≠ rows.length := by
      rcases h with hlength | ⟨key, t, hrows, hcount, hget, hcut⟩
      · exact hlength.ne
      · intro hall
        rw [hsame] at hcut
        by_cases htruncated : key = text "truncated"
        · subst htruncated
          rw [get_keeping_mark hkeys, if_neg (not_not.2 hall)] at hcut
          exact hcut hget
        · rw [get_keeping_other hrows hcount htruncated] at hcut
          exact hcut hget
    rw [hsame, get_keeping_mark hkeys, if_pos hfewer]
  · exact hmark

theorem unmarked_of_shrunk (hkeys : OwnKeys rowsKey countKey) (hsuffix : kept <:+ rows)
    (hshrunk : ShrunkFrom (keeping payload rowsKey countKey rows kept) trimmed)
    (h : ¬ (kept.length < rows.length ∨ Shortened payload trimmed rowsKey countKey)) :
    get trimmed (text "truncated") = get payload (text "truncated") := by
  have hall : kept.length = rows.length := by
    have hlength := hsuffix.length_le
    have hnot : ¬ kept.length < rows.length := fun hless => h (Or.inl hless)
    omega
  rcases hshrunk.mark with hsame | ⟨-, key, t, hget, hcut⟩
  · rw [hsame, get_keeping_mark hkeys, if_neg (not_not.2 hall)]
  · refine absurd (Or.inr ⟨key, t, ?_, ?_, ?_, hcut⟩) h
    · rintro rfl
      rw [get_keeping, if_neg hkeys.differ, if_pos rfl] at hget
      cases Option.some.inj hget
    · rintro rfl
      rw [get_keeping, if_pos rfl] at hget
      cases Option.some.inj hget
    · rw [get_keeping] at hget
      split at hget
      · cases Option.some.inj hget
      split at hget
      · cases Option.some.inj hget
      split at hget
      · cases Option.some.inj hget
      · exact hget

theorem trimmedTo_of_ok (hkeyed : WellKeyed payload) (hkeys : OwnKeys rowsKey countKey)
    (h : trimToBytes r payload rowsKey countKey rows = .ok trimmed) :
    ∃ kept, TrimmedTo payload trimmed rowsKey countKey rows kept := by
  simp only [trimToBytes] at h
  split at h
  swap
  · cases h
  obtain ⟨kept, hsuffix, hdrop, hend, hlongest⟩ := dropRows_longest payload rowsKey countKey rows
  rw [hdrop] at h
  have hdropped : WellKeyed (keeping payload rowsKey countKey rows kept) := keeping_keyed hkeyed
  have hhalts := shrink_halts hdropped
  have hshrunk := shrink_shrunkFrom hdropped
    (textWeight (keeping payload rowsKey countKey rows kept))
  have hdone := shrink_done _ _ hdropped le_rfl
  have hstill : kept ≠ [] → shrink (textWeight (keeping payload rowsKey countKey rows kept))
      (keeping payload rowsKey countKey rows kept) = keeping payload rowsKey countKey rows kept :=
    fun hkept => shrink_of_fits (hend.resolve_right hkept) _
  rw [Except.ok.inj h] at hhalts hshrunk hdone hstill
  refine ⟨kept, hsuffix, ?_, ?_, hend, hlongest, hhalts, ?_, ?_, ?_,
    marked_of_shrunk hkeys hshrunk, unmarked_of_shrunk hkeys hsuffix hshrunk⟩
  · have hrows : get (keeping payload rowsKey countKey rows kept) rowsKey = some (.arr kept) := by
      rw [get_keeping, if_neg hkeys.differ, if_pos rfl]
    rw [hshrunk.others rowsKey hkeys.rows (by simp [hrows]), hrows]
  · have hcount : get (keeping payload rowsKey countKey rows kept) countKey =
        some (.int kept.length) := by
      rw [get_keeping, if_pos rfl]
    rw [hshrunk.others countKey hkeys.count (by simp [hcount]), hcount]
  · by_cases hfits : fits trimmed = true
    · exact Or.inl hfits
    · refine Or.inr ⟨?_, fun key t hget =>
        texts_empty (hdone.resolve_left hfits) (mem_of_get hget)⟩
      by_contra hkept
      rw [hstill hkept] at hfits
      exact hfits (hend.resolve_right hkept)
  · intro key t hrows hcount htruncated hget
    have hsame : get (keeping payload rowsKey countKey rows kept) key = get payload key :=
      get_keeping_other hrows hcount htruncated
    rw [← hsame] at hget
    obtain ⟨t', ht', hprefix⟩ := hshrunk.texts key t htruncated hget
    refine ⟨t', ht', hprefix, fun hcut => ?_⟩
    by_contra hkept
    rw [hstill hkept, hget] at ht'
    exact hcut (Value.str.inj (Option.some.inj ht')).symm
  · intro key hrows hcount htruncated hnone
    have hsame : get (keeping payload rowsKey countKey rows kept) key = get payload key :=
      get_keeping_other hrows hcount htruncated
    rw [hshrunk.others key htruncated (by rw [hsame]; exact hnone), hsame]

/-- `trim_to_bytes` always returns, unless a value nests too deeply to be dumped at all: the
longest suffix of the rows with which the payload fits, with its count; a payload that fits, or
that has neither rows nor texts left; a beginning of every text, the whole text as long as a row
is left; a mark exactly when a row or a part of a text is gone; and everything else as it was. -/
theorem trim_to_bytes (r : Runtime) (payload : Dict) (rowsKey countKey : Text) (rows : List Value)
    (hkeyed : WellKeyed payload) (hkeys : OwnKeys rowsKey countKey) :
    match trimToBytes r payload rowsKey countKey rows with
    | .error raised => raised = .recursionError ∧
        ∃ entry ∈ withRows payload rowsKey countKey rows, r.encodable entry.2 = false
    | .ok trimmed => ∃ kept, TrimmedTo payload trimmed rowsKey countKey rows kept := by
  cases h : trimToBytes r payload rowsKey countKey rows with
  | ok trimmed => exact trimmedTo_of_ok hkeyed hkeys h
  | error raised =>
      simp only [trimToBytes] at h
      split at h
      · cases h
      · rename_i hdeep
        exact ⟨(Except.error.inj h).symm, List.all_eq_false.1 (Bool.eq_false_iff.2 hdeep) |>.imp
          fun entry hentry => ⟨hentry.1, Bool.eq_false_iff.2 hentry.2⟩⟩

def longNote : Dict := [(text "note", .str (List.replicate 13000 97))]

def longRows : List Value := List.replicate 2 (.str (List.replicate 13000 98))

theorem trim_to_bytes_long :
    match trimToBytes labRuntime longNote (text "rows") (text "row_count") longRows with
    | .error raised => raised = .recursionError ∧
        ∃ entry ∈ withRows longNote (text "rows") (text "row_count") longRows,
          labRuntime.encodable entry.2 = false
    | .ok trimmed => ∃ kept,
        TrimmedTo longNote trimmed (text "rows") (text "row_count") longRows kept :=
  trim_to_bytes labRuntime longNote (text "rows") (text "row_count") longRows
    (List.nodup_singleton (text "note")) ⟨by decide, by decide, by decide⟩

end Trimmed

end CausalOps.Telemetry
