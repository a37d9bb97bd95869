import Mathlib.Algebra.Order.Ring.Nat
import CausalOps.Investigation.Telemetry.Reports

set_option autoImplicit false

/-! Trimming ends within the byte bound whenever the payload without its rows and texts is
small, so that the two assertions on it are never reached. -/

namespace CausalOps.Telemetry

open Loaded

section Shrinking

theorem textWeight_set {payload : Dict} {key : Text} {old : Value} (value : Value)
    (hold : get payload key = some old) :
    textWeight (set payload key value) + textLength old =
      textWeight payload + textLength value := by
  induction payload with
  | nil => cases hold
  | cons entry rest ih =>
      rw [get_cons] at hold
      rw [Loaded.set]
      by_cases hentry : entry.1 = key
      · rw [if_pos hentry] at hold
        obtain rfl := Option.some.inj hold
        rw [if_pos hentry]
        simp only [textWeight, List.map_cons, List.sum_cons]
        omega
      · rw [if_neg hentry] at hold
        have hrest := ih hold
        rw [if_neg hentry]
        simp only [textWeight, List.map_cons, List.sum_cons] at hrest ⊢
        omega

theorem textWeight_mark (payload : Dict) (key : Text) (value : Bool) :
    textWeight (set payload key (.bool value)) ≤ textWeight payload := by
  induction payload with
  | nil => simp [Loaded.set, textWeight, textLength]
  | cons entry rest ih =>
      rw [Loaded.set]
      split
      · simp only [textWeight, List.map_cons, List.sum_cons, textLength]
        omega
      · simp only [textWeight, List.map_cons, List.sum_cons] at ih ⊢
        omega

theorem widest_none_of_weight {payload : Dict} (h : textWeight payload = 0) :
    widest payload = none := by
  induction payload with
  | nil => rfl
  | cons entry rest ih =>
      obtain ⟨key, value⟩ := entry
      simp only [textWeight, List.map_cons, List.sum_cons] at h ih
      have hrest := ih (by omega)
      cases value with
      | str t =>
          have hempty : t = [] := List.length_eq_zero_iff.1 (by
            simp only [textLength] at h
            omega)
          simp [widest, hrest, hempty]
      | _ => simpa [widest] using hrest

/-- With enough fuel shrinking ends with a payload that fits, or with no text. -/
theorem shrink_done (fuel : ℕ) : ∀ payload, WellKeyed payload → textWeight payload ≤ fuel →
    fits (shrink fuel payload) = true ∨ widest (shrink fuel payload) = none := by
  induction fuel with
  | zero =>
      intro payload _ hweight
      exact Or.inr (widest_none_of_weight (Nat.le_zero.1 hweight))
  | succ fuel ih =>
      intro payload hkeyed hweight
      rw [shrink]
      split
      · rename_i hfits
        exact Or.inl hfits
      · split
        · rename_i hwidest
          exact Or.inr hwidest
        · rename_i key t hwidest
          obtain ⟨hmem, hne⟩ := widest_mem hwidest
          refine ih _ ((hkeyed.set _ _).set _ _) ?_
          have hhalf := textWeight_set (.str (t.take (t.length / 2))) (hkeyed.get_of_mem hmem)
          have hmark := textWeight_mark (set payload key (.str (t.take (t.length / 2))))
            (text "truncated") true
          have hpos := List.length_pos_of_ne_nil hne
          simp only [textLength, List.length_take] at hhalf
          omega

def skeletonValue : Value → ℕ
  | .str _ => 2
  | value => size value

def skeleton (payload : Dict) : ℕ :=
  (payload.map fun entry => 2 + escapedLength entry.1 + 2 + skeletonValue entry.2 + 2).sum

theorem skeleton_set {payload : Dict} {key : Text} {old : Value} (value : Value)
    (hold : get payload key = some old) :
    skeleton (set payload key value) + skeletonValue old =
      skeleton payload + skeletonValue value := by
  induction payload with
  | nil => cases hold
  | cons entry rest ih =>
      rw [get_cons] at hold
      rw [Loaded.set]
      by_cases hentry : entry.1 = key
      · rw [if_pos hentry] at hold
        obtain rfl := Option.some.inj hold
        rw [if_pos hentry, ← hentry]
        simp only [skeleton, List.map_cons, List.sum_cons]
        omega
      · rw [if_neg hentry] at hold
        have hrest := ih hold
        rw [if_neg hentry]
        simp only [skeleton, List.map_cons, List.sum_cons] at hrest ⊢
        omega

theorem sizeEntries_of_widest {payload : Dict} (h : widest payload = none) :
    sizeEntries payload = skeleton payload := by
  induction payload with
  | nil => rfl
  | cons entry rest ih =>
      obtain ⟨key, value⟩ := entry
      cases value with
      | str t =>
          simp only [widest] at h
          split at h
          · split at h <;> cases h
          · rename_i hrest
            split at h
            · rename_i hempty
              have hsame := ih hrest
              simp only [sizeEntries, hsame, skeleton, List.map_cons, List.sum_cons,
                skeletonValue, size, hempty, escapedLength_nil]
            · cases h
      | _ =>
          simp only [widest] at h
          have hsame := ih h
          simp only [sizeEntries, hsame, skeleton, List.map_cons, List.sum_cons, skeletonValue]

/-- What shrinking keeps of a payload: its keys, its mark and its skeleton. -/
structure Marked (bound : ℕ) (payload : Dict) : Prop where
  keyed : WellKeyed payload
  mark : ∃ value, get payload (text "truncated") = some (.bool value)
  skeleton : skeleton payload ≤ bound

theorem Marked.halved {bound : ℕ} {payload : Dict} {key t : Text} (h : Marked bound payload)
    (hwidest : widest payload = some (key, t)) :
    Marked bound (set (set payload key (.str (t.take (t.length / 2)))) (text "truncated")
      (.bool true)) := by
  obtain ⟨hmem, -⟩ := widest_mem hwidest
  have hget := h.keyed.get_of_mem hmem
  obtain ⟨value, hvalue⟩ := h.mark
  have hne : key ≠ text "truncated" := by
    rintro rfl
    rw [hvalue] at hget
    cases Option.some.inj hget
  have hmark : get (set payload key (.str (t.take (t.length / 2)))) (text "truncated") =
      some (.bool value) := by
    rw [get_set, if_neg hne, hvalue]
  refine ⟨(h.keyed.set _ _).set _ _, ⟨true, by rw [get_set, if_pos rfl]⟩, ?_⟩
  have hfirst := skeleton_set (.str (t.take (t.length / 2))) hget
  have hsecond := skeleton_set (.bool true) hmark
  have hbound := h.skeleton
  have hleast : size (.bool true) ≤ size (.bool value) := by cases value <;> decide
  simp only [skeletonValue] at hfirst hsecond
  omega

theorem Marked.fits_of_textless {bound : ℕ} {payload : Dict} (h : Marked bound payload)
    (hbound : bound ≤ maxResultBytes) (hwidest : widest payload = none) :
    fits payload = true := by
  obtain ⟨value, hvalue⟩ := h.mark
  rw [fits, decide_eq_true_eq, size_of_get hvalue, sizeEntries_of_widest hwidest]
  exact h.skeleton.trans hbound

theorem Marked.fits_shrink {bound : ℕ} {payload : Dict} (h : Marked bound payload)
    (hbound : bound ≤ maxResultBytes) :
    fits (shrink (textWeight payload) payload) = true := by
  rcases shrink_done _ payload h.keyed le_rfl with hfits | hwidest
  · exact hfits
  · have hafter : Marked bound (shrink (textWeight payload) payload) :=
      shrink_keeps (fun _ _ _ hmarked hlongest => hmarked.halved hlongest) _ payload h
    exact hafter.fits_of_textless hbound hwidest

theorem shrink_text {payload : Dict} {key t : Text} (hkeyed : WellKeyed payload)
    (hkey : key ≠ text "truncated") (hget : get payload key = some (.str t)) (fuel : ℕ) :
    ∃ t', get (shrink fuel payload) key = some (.str t') := by
  refine (@shrink_keeps (fun payload => WellKeyed payload ∧ ∃ t', get payload key = some (.str t'))
    ?_ fuel payload ⟨hkeyed, t, hget⟩).2
  rintro payload other own ⟨hkeyed, t', hget⟩ -
  refine ⟨(hkeyed.set _ _).set _ _, ?_⟩
  rw [get_set, if_neg hkey.symm, get_set]
  split
  · exact ⟨_, rfl⟩
  · exact ⟨t', hget⟩

end Shrinking

section Changes

variable {r : Runtime} {arguments : ChangeArguments}

theorem escapedLength_joined (texts : List Text) :
    escapedLength (joined texts) = (texts.map fun t => escapedLength t + 2).sum - 2 := by
  induction texts with
  | nil => rfl
  | cons first rest ih =>
      cases rest with
      | nil => simp [joined]
      | cons second rest =>
          have hjoin : joined (first :: second :: rest) =
              first ++ text "; " ++ joined (second :: rest) := List.intercalate_cons_cons
          have hseparator : escapedLength (text "; ") = 2 := by decide
          rw [hjoin, escapedLength_append, escapedLength_append, ih, hseparator]
          simp only [List.map_cons, List.sum_cons]
          omega

theorem escapedLength_joined_le {kept all : List Text} (h : List.Subperm kept all) :
    escapedLength (joined kept) ≤ escapedLength (joined all) := by
  rw [escapedLength_joined, escapedLength_joined]
  obtain ⟨middle, hperm, hsub⟩ := h
  have hsum : (kept.map fun t => escapedLength t + 2).sum ≤
      (all.map fun t => escapedLength t + 2).sum := by
    rw [← (hperm.map fun t => escapedLength t + 2).sum_eq]
    exact (hsub.map _).sum_le_sum fun _ _ => Nat.zero_le _
  omega

theorem textsOf_kept {loaded kept : List Value}
    (h : kept <:+ sortedChanges r arguments loaded) (key : Text) :
    List.Subperm (textsOf key kept) (textsOf key (foundChanges r arguments loaded)) := by
  have hsub : (textsOf key kept).Sublist (textsOf key (sortedChanges r arguments loaded)) :=
    h.sublist.filterMap _
  have hperm : (textsOf key (sortedChanges r arguments loaded)).Perm
      (textsOf key (foundChanges r arguments loaded)) :=
    (List.mergeSort_perm _ _).filterMap _
  exact hsub.subperm.trans hperm.subperm

theorem changeReport_fits {loaded : List Value} {trimmed : Dict}
    (htrimmed : changeTrim r arguments loaded = .ok trimmed) :
    fits (changeReport trimmed) = true := by
  obtain ⟨kept, htrims⟩ := trims_of_ok (changePayload_keyed arguments _ _) changeKeys htrimmed
  have hrows : rowsOf trimmed (text "changes") = kept := by
    simp only [rowsOf, htrims.rowsNow]
  obtain ⟨marked, hmarked, hshrunk, hend⟩ := htrims.ends
  have hmarkedKeyed : WellKeyed marked := by
    rcases hmarked with rfl | rfl
    · exact changePayload_keyed arguments _ _
    · exact (changePayload_keyed arguments _ _).set _ _
  have hkeyed : WellKeyed (withRows marked (text "changes") (text "change_count") kept) :=
    (hmarkedKeyed.set _ _).set _ _
  have hsummaries : get (withRows marked (text "changes") (text "change_count") kept)
      (text "summaries") =
        some (.str (joined (textsOf (text "summary") (foundChanges r arguments loaded)))) := by
    rw [get_withRows, if_neg (by decide), if_neg (by decide)]
    rcases hmarked with rfl | rfl
    · simp only [changePayload, get_cons]
      rw [if_neg (by decide), if_neg (by decide), if_pos (by decide)]
    · rw [get_set, if_neg (by decide)]
      simp only [changePayload, get_cons]
      rw [if_neg (by decide), if_neg (by decide), if_pos (by decide)]
  rw [changeReport, hrows]
  by_cases hfits : fits (withRows marked (text "changes") (text "change_count") kept) = true
  · rw [shrink_of_fits hfits] at hshrunk
    rw [hshrunk, fits_set hsummaries]
    have hsize := of_decide_eq_true hfits
    have hle := escapedLength_joined_le (textsOf_kept htrims.suffix (text "summary"))
    simp only [size] at hsize ⊢
    omega
  · obtain rfl := hend.resolve_left hfits
    have hmark : Marked 200 (withRows marked (text "changes") (text "change_count") []) := by
      refine ⟨hkeyed, ?_, ?_⟩
      · rw [get_withRows, if_neg (by decide), if_neg (by decide)]
        rcases hmarked with rfl | rfl
        · exact ⟨false, rfl⟩
        · exact ⟨true, rfl⟩
      · rcases hmarked with rfl | rfl
        · exact (rfl : skeleton _ = 86).le.trans (by decide)
        · exact (rfl : skeleton _ = 85).le.trans (by decide)
    have hall := hmark.fits_shrink (by decide)
    obtain ⟨t, htext⟩ := shrink_text hkeyed (by decide) hsummaries
      (textWeight (withRows marked (text "changes") (text "change_count") []))
    rw [hshrunk, fits_set htext]
    have hsize := of_decide_eq_true hall
    have hnone : escapedLength (joined (textsOf (text "summary") [])) = 0 := rfl
    simp only [size, hnone] at hsize ⊢
    omega

end Changes

section Topology

variable {r : Runtime}

theorem set_same {payload : Dict} {key : Text} {value : Value} (hkeyed : WellKeyed payload)
    (hget : get payload key = some value) : set payload key value = payload := by
  induction payload with
  | nil => cases hget
  | cons entry rest ih =>
      obtain ⟨hfirst, hrest⟩ := List.nodup_cons.1 hkeyed
      rw [get_cons] at hget
      rw [Loaded.set]
      by_cases hentry : entry.1 = key
      · rw [if_pos hentry] at hget ⊢
        rw [← hentry, ← Option.some.inj hget]
      · rw [if_neg hentry] at hget ⊢
        rw [ih hrest hget]

theorem dropRows_of_fits {payload : Dict} {rowsKey countKey : Text} {rows : List Value}
    (h : fits (withRows payload rowsKey countKey rows) = true) :
    dropRows payload rowsKey countKey rows = withRows payload rowsKey countKey rows := by
  cases rows with
  | nil => rfl
  | cons row rest => rw [dropRows, if_pos h]

theorem shrink_of_weight {payload : Dict} (h : textWeight payload = 0) :
    shrink (textWeight payload) payload = payload := by
  rw [h]
  rfl

theorem topology_first {loaded first : Dict}
    (hfirst : trimToBytes r
      (topologyPayload (listOf loaded (text "services")) (listOf loaded (text "edges")))
      (text "edges") (text "edge_count") (listOf loaded (text "edges")) = .ok first) :
    ∃ edges marked, (marked = topologyPayload (listOf loaded (text "services"))
          (listOf loaded (text "edges")) ∨
        marked = set (topologyPayload (listOf loaded (text "services"))
          (listOf loaded (text "edges"))) (text "truncated") (.bool true)) ∧
      first = withRows marked (text "edges") (text "edge_count") edges ∧
      (fits first = true ∨ edges = []) := by
  obtain ⟨edges, htrims⟩ := trims_of_ok (topologyPayload_keyed _ _) edgeKeys hfirst
  obtain ⟨marked, hmarked, hshrunk, hend⟩ := htrims.ends
  have hweight : textWeight (withRows marked (text "edges") (text "edge_count") edges) = 0 := by
    rcases hmarked with rfl | rfl <;> rfl
  rw [shrink_of_weight hweight] at hshrunk
  exact ⟨edges, marked, hmarked, hshrunk, by rw [hshrunk]; exact hend⟩

theorem topology_fits {loaded trimmed : Dict} (htrimmed : topologyTrim r loaded = .ok trimmed) :
    fits trimmed = true := by
  simp only [topologyTrim] at htrimmed
  split at htrimmed
  · cases htrimmed
  rename_i first hfirst
  obtain ⟨edges', hedges⟩ := trims_of_ok (topologyPayload_keyed _ _) edgeKeys hfirst
  obtain ⟨edges, marked, hmarked, hshape, hend⟩ := topology_first hfirst
  obtain ⟨services, htrims⟩ := trims_of_ok hedges.keyed serviceKeys htrimmed
  obtain ⟨remarked, hremarked, hshrunk, hlast⟩ := htrims.ends
  have hweight : textWeight
      (withRows remarked (text "services") (text "service_count") services) = 0 := by
    rcases hremarked with rfl | rfl <;> rw [hshape] <;> rcases hmarked with rfl | rfl <;> rfl
  rw [shrink_of_weight hweight] at hshrunk
  rcases hend with hfits | rfl
  · have hsame : withRows first (text "services") (text "service_count")
        (listOf loaded (text "services")) = first := by
      have hservices := hedges.others (text "services") _ (by decide) (by decide) (by decide) rfl
        (show get (topologyPayload _ _) (text "services") = some (.arr _) from rfl)
      have hcount := hedges.others (text "service_count") _ (by decide) (by decide) (by decide) rfl
        (show get (topologyPayload _ _) (text "service_count") = some (.int _) from rfl)
      rw [withRows, set_same hedges.keyed hservices, set_same hedges.keyed hcount]
    have hdrop : dropRows first (text "services") (text "service_count")
        (listOf loaded (text "services")) = first := by
      rw [dropRows_of_fits (by rw [hsame]; exact hfits), hsame]
    simp only [trimToBytes, hdrop, shrink_of_fits hfits] at htrimmed
    split at htrimmed
    · rw [← Except.ok.inj htrimmed]
      exact hfits
    · cases htrimmed
  · rcases hlast with hfits | rfl
    · rw [hshrunk]
      exact hfits
    · rw [hshrunk]
      rcases hremarked with rfl | rfl <;> rw [hshape] <;> rcases hmarked with rfl | rfl <;> rfl

end Topology

end CausalOps.Telemetry
