import CausalOps.Investigation.Telemetry.Kept
import CausalOps.Investigation.Telemetry.Matched

set_option autoImplicit false

/-! How many bytes a log or a metric payload takes with some of its rows, and which rows a
check therefore keeps: all four checks, said on what was read. -/

namespace CausalOps.Telemetry

open Loaded
open Selection (LongestSuffix)

section Sizes

theorem CallerKeys.own {rowsKey countKey : Text} (h : CallerKeys rowsKey countKey) :
    OwnKeys rowsKey countKey :=
  ⟨h.differ, h.rows, h.count⟩

variable {payload : Dict} {rowsKey countKey : Text} {rows kept : List Value} {given : Bool}

/-- The dump of a payload with some of its rows: the payload without rows, its mark and its count
written anew, and the rows. -/
theorem size_keeping {count : ℤ} (hkeys : OwnKeys rowsKey countKey)
    (hmark : get payload (text "truncated") = some (.bool given))
    (hcount : get payload countKey = some (.int count)) (hnew : get payload rowsKey = none) :
    size (.obj (keeping payload rowsKey countKey rows kept)) + size (.bool given) +
        size (.int count) =
      sizeEntries payload + size (.bool (given || decide (kept.length ≠ rows.length))) +
        size (.int kept.length) + (2 + escapedLength rowsKey + 2 + size (.arr kept) + 2) := by
  have hget : get (keeping payload rowsKey countKey rows kept) rowsKey = some (.arr kept) := by
    rw [get_keeping, if_neg hkeys.differ, if_pos rfl]
  rw [size_of_get hget, keeping, withRows]
  by_cases hall : kept.length = rows.length
  · have hcount' : get (set payload rowsKey (.arr kept)) countKey = some (.int count) := by
      rw [get_set, if_neg hkeys.differ.symm, hcount]
    have hlast := sizeEntries_set (.int kept.length) hcount'
    have hrows := sizeEntries_new (.arr kept) hnew
    rw [if_pos hall]
    simp only [hall, ne_eq, not_true_eq_false, decide_false, Bool.or_false] at hlast ⊢
    omega
  · have hfirst := sizeEntries_set (.bool true) hmark
    have hnew' : get (set payload (text "truncated") (.bool true)) rowsKey = none := by
      rw [get_set, if_neg hkeys.rows.symm, hnew]
    have hrows := sizeEntries_new (.arr kept) hnew'
    have hcount' : get (set (set payload (text "truncated") (.bool true)) rowsKey (.arr kept))
        countKey = some (.int count) := by
      rw [get_set, if_neg hkeys.differ.symm, get_set, if_neg hkeys.count.symm, hcount]
    have hlast := sizeEntries_set (.int kept.length) hcount'
    rw [if_neg hall]
    simp only [hall, ne_eq, not_false_eq_true, decide_true, Bool.or_true]
    omega

theorem TrimmedTo.longestSuffix {trimmed : Dict}
    (h : TrimmedTo payload trimmed rowsKey countKey rows kept) :
    LongestSuffix (fun other => fits (keeping payload rowsKey countKey rows other) = true) rows
      kept :=
  ⟨h.suffix, h.fitting, fun other hother hlonger =>
    Bool.eq_false_iff.1 (h.longest other hother hlonger)⟩

end Sizes

section Logs

variable (r : Runtime) (arguments : LogArguments)

/-- The bytes of a log payload with these of the matched rows and no event codes. -/
def logWeight (matched : ℕ) (kept : List Value) : ℕ :=
  88 + arguments.logFilter.value.length + escapedLength arguments.service +
    (decimal kept.length).length + (if kept.length < matched then 4 else 5) + size (.arr kept)

/-- The newest rows that a log check keeps: as many as the limits on rows and bytes let it. -/
def LogsKept (matched kept : List Value) : Prop :=
  LongestSuffix (fun rows => logWeight arguments matched.length rows ≤ maxResultBytes)
    (logTail arguments matched) kept

variable {r arguments}

theorem size_log {matched kept : List Value} (hkept : kept <:+ logTail arguments matched) :
    size (.obj (keeping (logPayload arguments (logTail arguments matched) matched.length)
      (text "rows") (text "row_count") (logTail arguments matched) kept)) =
        logWeight arguments matched.length kept := by
  have hfilter : escapedLength (text arguments.logFilter.value) =
      arguments.logFilter.value.length := by
    cases arguments.logFilter <;> decide
  have htail : (logTail arguments matched).length ≤ matched.length := by
    rw [logTail, newest, List.length_drop]
    exact Nat.sub_le _ _
  have hlength := hkept.length_le
  have hmark : (decide ((logTail arguments matched).length < matched.length) ||
      decide (kept.length ≠ (logTail arguments matched).length)) =
        decide (kept.length < matched.length) := by
    rw [← Bool.decide_or, decide_eq_decide]
    omega
  have hsize := @size_keeping (logPayload arguments (logTail arguments matched) matched.length)
    (text "rows") (text "row_count") (logTail arguments matched) kept _ _ logKeys.own rfl rfl rfl
  have hpayload : sizeEntries
      (logPayload arguments (logTail arguments matched) matched.length) =
        78 + arguments.logFilter.value.length + escapedLength arguments.service +
          size (.int (logTail arguments matched).length) +
          size (.bool (decide ((logTail arguments matched).length < matched.length))) := by
    simp only [logPayload, sizeEntries, size, hfilter, escapedLength_nil,
      (by decide : escapedLength (text "filter") = 6),
      (by decide : escapedLength (text "service") = 7),
      (by decide : escapedLength (text "row_count") = 9),
      (by decide : escapedLength (text "event_codes") = 11),
      (by decide : escapedLength (text "truncated") = 9)]
    omega
  rw [hmark, hpayload, (by decide : escapedLength (text "rows") = 4)] at hsize
  have hbool : size (.bool (decide (kept.length < matched.length))) =
      if kept.length < matched.length then 4 else 5 := by
    simp only [size, decide_eq_true_eq]
  have hint : size (.int kept.length) = (decimal kept.length).length := by
    rw [size, decimalInt_natCast]
  rw [hbool, hint] at hsize
  rw [logWeight]
  omega

theorem logsKept_of_trim {matched : List Value} {trimmed : Dict}
    (htrimmed : logTrim r arguments matched = .ok trimmed) :
    ∃ kept, LogsKept arguments matched kept ∧
      TrimmedTo (logPayload arguments (logTail arguments matched) matched.length) trimmed
        (text "rows") (text "row_count") (logTail arguments matched) kept := by
  obtain ⟨kept, htrims⟩ := trimmedTo_of_ok (logPayload_keyed arguments _ _) logKeys.own htrimmed
  refine ⟨kept, htrims.longestSuffix.congr fun other hother => ?_, htrims⟩
  rw [fits, decide_eq_true_eq, size_log hother]

end Logs

section Metrics

variable (r : Runtime) (arguments : MetricArguments) (incidentId : Text) (parsed : ParsedSamples)

/-- The bytes of a metric payload with these of the samples, without its peak. -/
def metricWeight (kept : List (Double × Double)) : ℕ :=
  237 + arguments.template.value.length + escapedLength arguments.service +
    (decimal kept.length).length + (if kept.length < parsed.samples.length then 4 else 5) +
    (decimalInt (parsed.rawCount - parsed.samples.length : ℤ)).length +
    (sampleStatus parsed).value.length +
    escapedLength (metricQuery arguments.template arguments.service incidentId) +
    escapedLength (r.isoformat (alignedStart arguments)) +
    escapedLength (r.isoformat arguments.windowEnd) +
    (decimalInt (gridSteps arguments + 1)).length + size (.arr (kept.map sampleRow))

def peakLength (samples : List (Double × Double)) : ℕ := (peak (samples.map Prod.snd)).repr.length

/-- The newest samples that a metric check keeps, which it measures beside the peak of all. -/
def MetricKept (kept : List (Double × Double)) : Prop :=
  LongestSuffix (fun samples => metricWeight r arguments incidentId parsed samples +
    peakLength (metricTail parsed) ≤ maxResultBytes) (metricTail parsed) kept

variable {r arguments incidentId parsed}

theorem size_metric {kept : List (Double × Double)} (hkept : kept <:+ metricTail parsed) :
    size (.obj (keeping (metricPayload r arguments incidentId parsed (metricTail parsed))
      (text "samples") (text "sample_count") ((metricTail parsed).map sampleRow)
      (kept.map sampleRow))) =
        metricWeight r arguments incidentId parsed kept + peakLength (metricTail parsed) := by
  have htemplate : escapedLength (text arguments.template.value) =
      arguments.template.value.length := by
    cases arguments.template <;> decide
  have hstatus : escapedLength (text (sampleStatus parsed).value) =
      (sampleStatus parsed).value.length := by
    cases sampleStatus parsed <;> decide
  have htail : (metricTail parsed).length ≤ parsed.samples.length := by
    rw [metricTail, newest, List.length_drop]
    exact Nat.sub_le _ _
  have hlength := hkept.length_le
  have hmark : (decide ((metricTail parsed).length < parsed.samples.length) ||
      decide ((kept.map sampleRow).length ≠ ((metricTail parsed).map sampleRow).length)) =
        decide (kept.length < parsed.samples.length) := by
    rw [← Bool.decide_or, decide_eq_decide, List.length_map, List.length_map]
    omega
  have hsize := @size_keeping
    (metricPayload r arguments incidentId parsed (metricTail parsed)) (text "samples")
    (text "sample_count") ((metricTail parsed).map sampleRow) (kept.map sampleRow) _ _
    sampleKeys.own rfl rfl rfl
  have hpayload : sizeEntries
      (metricPayload r arguments incidentId parsed (metricTail parsed)) =
        224 + arguments.template.value.length + escapedLength arguments.service +
          size (.int (metricTail parsed).length) + peakLength (metricTail parsed) +
          size (.bool (decide ((metricTail parsed).length < parsed.samples.length))) +
          (decimalInt (parsed.rawCount - parsed.samples.length : ℤ)).length +
          (sampleStatus parsed).value.length +
          escapedLength (metricQuery arguments.template arguments.service incidentId) +
          escapedLength (r.isoformat (alignedStart arguments)) +
          escapedLength (r.isoformat arguments.windowEnd) +
          (decimalInt (gridSteps arguments + 1)).length := by
    simp only [metricPayload, sizeEntries, size, numberLength, htemplate, hstatus, peakLength,
      (by decide : escapedLength (text "template") = 8),
      (by decide : escapedLength (text "service") = 7),
      (by decide : escapedLength (text "sample_count") = 12),
      (by decide : escapedLength (text "max_value") = 9),
      (by decide : escapedLength (text "truncated") = 9),
      (by decide : escapedLength (text "readings_discarded") = 18),
      (by decide : escapedLength (text "status") = 6),
      (by decide : escapedLength (text "promql") = 6),
      (by decide : escapedLength (text "query_window_start") = 18),
      (by decide : escapedLength (text "query_window_end") = 16),
      (by decide : escapedLength (text "query_step_seconds") = 18),
      (by decide : escapedLength (text "grid_points") = 11),
      (by decide : (decimalInt 15).length = 2)]
    omega
  rw [hmark, hpayload, (by decide : escapedLength (text "samples") = 7)] at hsize
  have hbool : size (.bool (decide (kept.length < parsed.samples.length))) =
      if kept.length < parsed.samples.length then 4 else 5 := by
    simp only [size, decide_eq_true_eq]
  have hint : size (.int (kept.map sampleRow).length) = (decimal kept.length).length := by
    rw [size, decimalInt_natCast, List.length_map]
  rw [hbool, hint] at hsize
  rw [metricWeight]
  omega

theorem metricKept_of_trim {trimmed : Dict}
    (htrimmed : metricTrim r arguments incidentId parsed = .ok trimmed) :
    ∃ kept, MetricKept r arguments incidentId parsed kept ∧
      TrimmedTo (metricPayload r arguments incidentId parsed (metricTail parsed)) trimmed
        (text "samples") (text "sample_count") ((metricTail parsed).map sampleRow)
        (kept.map sampleRow) := by
  obtain ⟨rows, htrims⟩ :=
    trimmedTo_of_ok (metricPayload_keyed r arguments _ _ _) sampleKeys.own htrimmed
  obtain ⟨kept, hkept, rfl⟩ := suffix_rows htrims.suffix
  refine ⟨kept, ⟨hkept, ?_, ?_⟩, htrims⟩
  · rcases htrims.fitting with hfits | hnil
    · left
      rw [fits, decide_eq_true_eq, size_metric hkept] at hfits
      exact hfits
    · exact Or.inr (List.map_eq_nil_iff.1 hnil)
  · intro other hother hlonger hweight
    have hunfit := htrims.longest (other.map sampleRow) (hother.map _) (by simpa using hlonger)
    rw [fits, decide_eq_false_iff_not, size_metric hother] at hunfit
    exact hunfit hweight

theorem readingsOf_rows {payload : Dict} {kept : List (Double × Double)}
    (hget : get payload (text "samples") = some (.arr (kept.map sampleRow))) :
    readingsOf payload = kept.map Prod.snd := by
  simp only [readingsOf, rowsOf, hget, List.filterMap_map]
  exact congrFun (List.filterMap_eq_map (f := Prod.snd)) kept

end Metrics

end CausalOps.Telemetry
