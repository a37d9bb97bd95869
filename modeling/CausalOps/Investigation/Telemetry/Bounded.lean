import CausalOps.Investigation.Telemetry.Readable

set_option autoImplicit false

/-! When an executed check is within the byte bound of a payload and the 400 characters of
a summary: always for changes and topologies, and for logs and metrics exactly if what is
written after the trim fits as well. -/

namespace CausalOps.Telemetry

open Loaded

section Bounds

/-- An executed outcome that `build_evidence` takes. -/
def Bounded (outcome : CheckOutcome) : Prop :=
  outcome.outcome = .executed → fits outcome.payload = true ∧ outcome.summary.length ≤ 400

def Reports (result : Except Raised CheckOutcome) : Prop :=
  ∀ outcome, result = .ok outcome → Bounded outcome

theorem reports_error (raised : Raised) : Reports (.error raised) := by
  intro outcome h
  cases h

theorem reports_failed {outcome : CheckOutcome} (hfailed : outcome.outcome ≠ .executed) :
    Reports (.ok outcome) := by
  rintro other h hexecuted
  rw [← Except.ok.inj h] at hexecuted
  exact absurd hexecuted hfailed

theorem reports_executed {outcome : CheckOutcome} (hexecuted : outcome.outcome = .executed) :
    Reports (.ok outcome) ↔ fits outcome.payload = true ∧ outcome.summary.length ≤ 400 := by
  constructor
  · exact fun h => h outcome rfl hexecuted
  · rintro h other hother -
    rw [← Except.ok.inj hother]
    exact h

theorem countOf_set {payload : Dict} {key other : Text} {value : Value} (hne : key ≠ other) :
    countOf (set payload key value) other = countOf payload other := by
  rw [countOf, get_set, if_neg hne]
  rfl

/-- As long as a row is left, or the payload fits without one, the texts stay as they are. -/
theorem TrimmedTo.eq_keeping {payload trimmed : Dict} {rowsKey countKey : Text}
    {rows kept : List Value} (h : TrimmedTo payload trimmed rowsKey countKey rows kept)
    (hfits : fits (keeping payload rowsKey countKey rows kept) = true) :
    trimmed = keeping payload rowsKey countKey rows kept :=
  h.halts.of_fits hfits

end Bounds

section Codes

/-- An executed check carries no reason code, any other check carries one. -/
def Coded (result : Except Raised CheckOutcome) : Prop :=
  ∀ outcome, result = .ok outcome → (outcome.outcome = .executed ↔ outcome.reasonCode = none)

theorem coded_ok {outcome : CheckOutcome}
    (h : outcome.outcome = .executed ↔ outcome.reasonCode = none) : Coded (.ok outcome) := by
  rintro other hother
  rwa [← Except.ok.inj hother]

theorem coded_error (raised : Raised) : Coded (.error raised) := by
  intro outcome h
  cases h

variable (r : Runtime) (durationMs : ℤ)

theorem logs_coded (arguments : LogArguments) (file : Option Bytes) :
    Coded (runLogsCheck r arguments file durationMs) := by
  have hrun := runLogsCheck_run r arguments file durationMs
  generalize runLogsCheck r arguments file durationMs = result at hrun ⊢
  cases hrun with
  | raises raised _ => exact coded_error raised
  | missing _ _ => exact coded_ok (by simp)
  | executed _ _ _ => exact coded_ok (by simp)

theorem changes_coded (arguments : ChangeArguments) (file : Option Bytes) :
    Coded (runChangesCheck r arguments file durationMs) := by
  have hrun := runChangesCheck_run r arguments file durationMs
  generalize runChangesCheck r arguments file durationMs = result at hrun ⊢
  cases hrun with
  | raises raised _ _ => exact coded_error raised
  | missing _ _ => exact coded_ok (by simp)
  | executed _ _ _ _ => exact coded_ok (by simp)

theorem topology_coded (file : Option Bytes) : Coded (runTopologyCheck r file durationMs) := by
  have hrun := runTopologyCheck_run r file durationMs
  generalize runTopologyCheck r file durationMs = result at hrun ⊢
  cases hrun with
  | raises raised _ _ => exact coded_error raised
  | missing _ _ => exact coded_ok (by simp)
  | executed _ _ _ _ => exact coded_ok (by simp)

theorem metric_coded (arguments : MetricArguments)
    (incidentId : { t : Text // encodes t = true }) (response : Response) :
    Coded (runMetricCheck r arguments incidentId response durationMs) := by
  have hrun := runMetricCheck_run r arguments incidentId response durationMs
  generalize runMetricCheck r arguments incidentId response durationMs = result at hrun ⊢
  cases hrun with
  | raises raised _ => exact coded_error raised
  | failed _ outcome hfailed hcoded _ => exact coded_ok (by simp [hfailed, hcoded])
  | executed _ _ _ _ _ => exact coded_ok (by simp)

end Codes

section Logs

variable (r : Runtime) (arguments : LogArguments)

/-- The event codes of the kept rows fit in the bytes that these rows leave, and in the
characters that the rest of the summary leaves. -/
structure CodesFit (matched : ℕ) (kept : List Value) (codes : Text) : Prop where
  bytes : logWeight arguments matched kept + escapedLength codes ≤ maxResultBytes
  summary : 20 + arguments.logFilter.value.length + arguments.service.length +
    (decimal kept.length).length + (if codes = [] then 4 else codes.length) +
    (if kept.length < matched then 23 + (decimal kept.length).length + (decimal matched).length
      else 0) ≤ 400

/-- A log that can be read has kept rows whose event codes fit. -/
def LogsFit (file : Option Bytes) : Prop :=
  LogsReadable r arguments file → ∀ matched kept codes,
    LogsRead r arguments file matched kept → EventCodes kept codes →
      CodesFit arguments matched.length kept codes

variable {r arguments}

theorem escapedLength_le (t : Text) : escapedLength t ≤ 12 * t.length := by
  induction t with
  | nil => exact Nat.le_refl 0
  | cons c rest ih =>
      have hc : escaped c ≤ 12 := by
        unfold escaped
        split_ifs <;> omega
      simp only [escapedLength, List.map_cons, List.sum_cons, List.length_cons] at ih ⊢
      omega

theorem length_filter (logFilter : Investigation.LogFilter) :
    (text logFilter.value).length = logFilter.value.length ∧ logFilter.value.length ≤ 15 := by
  cases logFilter <;> decide

theorem length_logSummary (payload : Dict) (matched : ℕ) :
    (logSummary arguments payload matched).length =
      20 + arguments.logFilter.value.length + arguments.service.length +
        (decimalInt (countOf payload (text "row_count"))).length +
        (if textOf payload (text "event_codes") = [] then 4
          else (textOf payload (text "event_codes")).length) +
        (keptNote payload (text "row_count") matched).length := by
  have hcodes : (if textOf payload (text "event_codes") = [] then text "none"
      else textOf payload (text "event_codes")).length =
        if textOf payload (text "event_codes") = [] then 4
          else (textOf payload (text "event_codes")).length := by
    split <;> rfl
  simp only [logSummary, List.length_append, hcodes, (length_filter arguments.logFilter).1,
    (by decide : (text " on ").length = 4), (by decide : (text ": ").length = 2),
    (by decide : (text " rows, events ").length = 14)]
  omega

theorem length_keptNote {payload : Dict} {countKey : Text} {matched kept : ℕ}
    (hcount : countOf payload countKey = kept) :
    (keptNote payload countKey matched).length =
      if isTruncated payload = true then 23 + (decimal kept).length + (decimal matched).length
      else 0 := by
  unfold keptNote
  split
  · simp only [hcount, decimalInt_natCast, List.length_append,
      (by decide : (text " (kept the newest ").length = 18),
      (by decide : (text " of ").length = 4), (by decide : (text ")").length = 1)]
    omega
  · rfl

variable {matched kept : List Value} {trimmed : Dict}

theorem log_codes
    (htrims : TrimmedTo (logPayload arguments (logTail arguments matched) matched.length)
      trimmed (text "rows") (text "row_count") (logTail arguments matched) kept) :
    get trimmed (text "event_codes") = some (.str []) := by
  obtain ⟨t, ht, hprefix, -⟩ := htrims.texts (text "event_codes") [] (by decide) (by decide)
    (by decide) rfl
  rwa [List.prefix_nil.1 hprefix] at ht

/-- The report of a log is bounded exactly if the codes of the rows that are kept fit. -/
theorem logReport_bounded (hkept : LogsKept arguments matched kept)
    (htrims : TrimmedTo (logPayload arguments (logTail arguments matched) matched.length)
      trimmed (text "rows") (text "row_count") (logTail arguments matched) kept) :
    (fits (logReport trimmed) = true ∧
        (logSummary arguments (logReport trimmed) matched.length).length ≤ 400) ↔
      CodesFit arguments matched.length kept (eventCodes kept) := by
  have hrows : rowsOf trimmed (text "rows") = kept := by
    simp only [rowsOf, htrims.rowsNow]
  have hcodes : textOf (logReport trimmed) (text "event_codes") = eventCodes kept := by
    rw [textOf, logReport, get_set, if_pos rfl, hrows]
  have hcount : countOf (logReport trimmed) (text "row_count") = kept.length := by
    rw [logReport, countOf_set (by decide)]
    simp only [countOf, htrims.countNow]
  have hfits : fits (logReport trimmed) = true ↔
      size (.obj trimmed) + escapedLength (eventCodes kept) ≤ maxResultBytes := by
    rw [logReport, fits_set (log_codes htrims), hrows]
    simp only [size, escapedLength_nil]
    omega
  rw [hfits, length_logSummary, hcodes, hcount, decimalInt_natCast, length_keptNote hcount]
  by_cases hweight : logWeight arguments matched.length kept ≤ maxResultBytes
  · have hkeeping : fits (keeping (logPayload arguments (logTail arguments matched)
        matched.length) (text "rows") (text "row_count") (logTail arguments matched) kept) =
          true := by
      rwa [fits, decide_eq_true_eq, size_log hkept.suffix]
    have hsame := htrims.eq_keeping hkeeping
    have hmark : isTruncated (logReport trimmed) = true ↔ kept.length < matched.length := by
      have htail : (logTail arguments matched).length ≤ matched.length := by
        rw [logTail, newest, List.length_drop]
        exact Nat.sub_le _ _
      have hlength := hkept.suffix.length_le
      rw [isTruncated, logReport, get_set, if_neg (by decide), hsame,
        get_keeping_mark logKeys.own]
      by_cases hcut : kept.length ≠ (logTail arguments matched).length
      · rw [if_pos hcut]
        exact iff_of_true rfl (by omega)
      · have hgiven : get (logPayload arguments (logTail arguments matched) matched.length)
            (text "truncated") =
              some (.bool (decide ((logTail arguments matched).length < matched.length))) := rfl
        rw [if_neg hcut, hgiven]
        simp only [decide_eq_true_eq]
        omega
    simp only [hmark]
    rw [hsame, size_log hkept.suffix]
    exact ⟨fun h => ⟨h.1, h.2⟩, fun h => ⟨h.bytes, h.summary⟩⟩
  · -- without a row left only the service is long, and the summary shows it whole
    have hservice : 400 < arguments.service.length := by
      have hnil := hkept.holds.resolve_left hweight
      have hescaped := escapedLength_le arguments.service
      have hname := (length_filter arguments.logFilter).2
      have hempty : size (.arr kept) = 2 ∧ (decimal kept.length).length = 1 := by
        rw [hnil]
        exact ⟨rfl, rfl⟩
      have hmark : (if kept.length < matched.length then 4 else 5) ≤ 5 := by
        split <;> omega
      simp only [logWeight, hempty, maxResultBytes] at hweight
      omega
    refine iff_of_false (fun h => ?_) fun h => ?_
    · have hsummary := h.2
      omega
    · have hsummary := h.summary
      omega

theorem runLogsCheck_bounded (file : Option Bytes) (durationMs : ℤ) :
    Reports (runLogsCheck r arguments file durationMs) ↔ LogsFit r arguments file := by
  have hrun := runLogsCheck_run r arguments file durationMs
  generalize runLogsCheck r arguments file durationMs = result at hrun ⊢
  cases hrun with
  | raises raised hnot => exact iff_of_true (reports_error raised) fun h => absurd h hnot
  | missing _ hfile =>
      refine iff_of_true (reports_failed (by simp)) fun _ matched kept codes hread _ => ?_
      obtain ⟨bytes, hbytes, -⟩ := hread.reads
      rw [hfile] at hbytes
      cases hbytes
  | executed hreadable hread htrims =>
      rw [reports_executed rfl]
      refine (logReport_bounded hread.longest htrims).trans ⟨fun hfit => ?_, fun hfit => ?_⟩
      · intro _ matched kept codes hread' hcodes
        obtain ⟨rfl, rfl⟩ := hread.unique hread'
        rw [eventCodes_iff.1 hcodes]
        exact hfit
      · exact hfit hreadable _ _ _ hread (eventCodes_iff.2 rfl)

end Logs

section Changes

theorem length_clamped (summary : Text) :
    (if 400 < summary.length then summary.take 397 ++ text "..." else summary).length ≤ 400 := by
  split
  · have hmark : (text "...").length = 3 := by decide
    simp only [List.length_append, List.length_take, hmark]
    omega
  · omega

/-- A change check is always bounded: it asserts the byte bound and clamps its summary. -/
theorem runChangesCheck_bounded (r : Runtime) (arguments : ChangeArguments) (file : Option Bytes)
    (durationMs : ℤ) : Reports (runChangesCheck r arguments file durationMs) := by
  have hrun := runChangesCheck_run r arguments file durationMs
  generalize runChangesCheck r arguments file durationMs = result at hrun ⊢
  cases hrun with
  | raises raised _ _ => exact reports_error raised
  | missing _ _ => exact reports_failed (by simp)
  | executed _ _ _ hfits => exact (reports_executed rfl).2 ⟨hfits, length_clamped _⟩

end Changes

section Topology

theorem edges_few {payload : Dict} {edges : List Value} (hfits : fits payload = true)
    (hget : get payload (text "edges") = some (.arr edges)) : edges.length < 10 ^ 5 := by
  have hset := sizeEntries_set (.arr []) hget
  have hsize := of_decide_eq_true hfits
  rw [size_of_get hget] at hsize
  have hitems := length_le_sizeItems edges
  have hnew : get (set payload (text "edges") (.arr [])) (text "edges") = some (.arr []) := by
    rw [get_set, if_pos rfl]
  have hleast : 2 ≤ sizeEntries (set payload (text "edges") (.arr [])) := by
    rw [← size_of_get hnew]
    exact le_max_left _ _
  simp only [size, sizeItems, maxResultBytes] at hset hsize
  omega

theorem runTopologyCheck_bounded (r : Runtime) (file : Option Bytes) (durationMs : ℤ) :
    Reports (runTopologyCheck r file durationMs) := by
  have hrun := runTopologyCheck_run r file durationMs
  generalize runTopologyCheck r file durationMs = result at hrun ⊢
  cases hrun with
  | raises raised _ _ => exact reports_error raised
  | missing _ _ => exact reports_failed (by simp)
  | @executed services edges keptServices keptEdges trimmed _ hread htrims hfits =>
      refine (reports_executed rfl).2 ⟨hfits, ?_⟩
      have hedgesNow : get trimmed (text "edges") = some (.arr keptEdges) :=
        servicesTrim_edges htrims
      have hcountNow : get trimmed (text "edge_count") = some (.int keptEdges.length) :=
        servicesTrim_count htrims
      have hdigits := (length_decimal_le (by decide)).2 (edges_few hfits hedgesNow)
      have hcount : countOf trimmed (text "edge_count") = keptEdges.length := by
        simp only [countOf, hcountNow]
      have hnote : (if isTruncated trimmed then text " (truncated)" else []).length ≤ 12 := by
        split <;> decide
      have htail : (text " service edges in this incident").length = 31 := by decide
      simp only [topologySummary, hcount, decimalInt_natCast, List.length_append, htail]
      omega

end Topology

section Metrics

variable (r : Runtime) (arguments : MetricArguments)

/-- As long as a sample is left, the peak of those that are left fits in the bytes that they
leave. -/
def MetricFits (incidentId : Text) (response : Response) : Prop :=
  safeServiceName arguments.service = true → ∀ values series kept,
    MetricRead r arguments incidentId response values series kept → kept ≠ [] →
      metricWeight r arguments incidentId (readSamples r values series) kept + peakLength kept ≤
        maxResultBytes

variable {r arguments}

theorem parsed_sized {bytes : Bytes} {parsed : ParsedSamples}
    (h : queryPrometheus r bytes = .ok (some parsed)) :
    parsed.samples.length ≤ parsed.rawCount ∧ parsed.rawCount < maxItems ∧
      parsed.seriesCount < maxItems := by
  simp only [queryPrometheus] at h
  split at h
  · cases h
  split at h
  · rename_i answered hloads
    have hsized := r.loadsSized _ answered hloads
    have hparsed := Except.ok.inj h
    simp only [parseSamples] at hparsed
    split at hparsed
    · rename_i answer
      split at hparsed
      · split at hparsed
        · rename_i data hdata
          have hdataSized : sizedEntries data = true := sized_get hsized hdata
          split at hparsed
          · obtain rfl := Option.some.inj hparsed
            exact ⟨Nat.le_refl 0, by decide, by decide⟩
          · rename_i first others hresult
            have hlist := sized_get hdataSized hresult
            simp only [sized, sizedItems, Bool.and_eq_true, decide_eq_true_eq,
              List.length_cons] at hlist
            split at hparsed
            · rename_i values hvalues
              have hvaluesSized := sized_get hlist.2.1 hvalues
              simp only [sized, Bool.and_eq_true, decide_eq_true_eq] at hvaluesSized
              obtain rfl := Option.some.inj hparsed
              exact ⟨List.length_filterMap_le _ _, hvaluesSized.1, hlist.1⟩
            · obtain rfl := Option.some.inj hparsed
              exact ⟨Nat.le_refl 0, by simp [maxItems], hlist.1⟩
          · cases hparsed
        · cases hparsed
      · cases hparsed
    · cases hparsed
  · cases h
  · cases h
  · cases h

theorem safe_length {service : Text} (h : safeServiceName service = true) :
    service.length ≤ 32 := by
  have hname : ∀ name : Text, (match name with
      | [] => false
      | first :: rest => isLower first && rest.length ≤ 30 &&
          rest.all fun c => isLower c || (48 ≤ c && c ≤ 57) || c == 45) = true →
      name.length ≤ 31 := by
    intro name hsafe
    cases name with
    | nil => cases hsafe
    | cons first rest =>
        simp only [Bool.and_eq_true, decide_eq_true_eq] at hsafe
        simp only [List.length_cons]
        omega
  have hshort := hname (if service.getLast? = some 10 then service.dropLast else service) h
  split at hshort
  · rw [List.length_dropLast] at hshort
    omega
  · omega

/-- The trimmed payload still has the peak of all samples and the count of bad readings. -/
theorem metric_fields {incidentId : Text} {parsed : ParsedSamples} {trimmed : Dict}
    (htrimmed : metricTrim r arguments incidentId parsed = .ok trimmed) :
    ∃ kept, kept <:+ metricTail parsed ∧
      get trimmed (text "max_value") =
        some (.float (.finite (peak ((metricTail parsed).map Prod.snd)))) ∧
      get trimmed (text "readings_discarded") =
        some (.int (parsed.rawCount - parsed.samples.length : ℤ)) ∧
      get trimmed (text "sample_count") = some (.int kept.length) := by
  obtain ⟨trimmed', kept, hsame, hsuffix, htrims⟩ := metricTrims r arguments incidentId parsed
  rw [htrimmed] at hsame
  obtain rfl := Except.ok.inj hsame
  refine ⟨kept, hsuffix, ?_, ?_, ?_⟩
  · refine htrims.others _ _ (by decide) (by decide) (by decide) rfl ?_
    simp only [metricPayload, get_cons]
    rw [if_neg (by decide), if_neg (by decide), if_neg (by decide), if_pos (by decide)]
  · refine htrims.others _ _ (by decide) (by decide) (by decide) rfl ?_
    simp only [metricPayload, get_cons]
    rw [if_neg (by decide), if_neg (by decide), if_neg (by decide), if_neg (by decide),
      if_neg (by decide), if_pos (by decide)]
  · rw [htrims.countNow, List.length_map]

theorem length_statusNote {parsed : ParsedSamples} (hseries : parsed.seriesCount < 10 ^ 19) :
    (statusNote parsed).length ≤ 100 := by
  have hdigits := (length_decimal_le (by decide)).2 hseries
  have hopen : (text " (multiple series returned: showing series 1 of ").length = 48 := by decide
  have hclose : (text ", others not shown)").length = 19 := by decide
  unfold statusNote
  split
  · simp only [List.length_append, hopen, hclose]
    omega
  all_goals decide

theorem metric_summary {bytes : Bytes} {incidentId : Text} {parsed : ParsedSamples}
    {trimmed : Dict} (hsafe : safeServiceName arguments.service = true)
    (hparsed : queryPrometheus r bytes = .ok (some parsed))
    (htrimmed : metricTrim r arguments incidentId parsed = .ok trimmed) (highest : Double) :
    (metricSummary arguments parsed (metricReport trimmed) highest).length ≤ 400 := by
  obtain ⟨kept, hsuffix, -, hdiscarded, hcount⟩ := metric_fields htrimmed
  obtain ⟨hsamples, hraw, hseries⟩ := parsed_sized hparsed
  have hmax : maxItems ≤ 10 ^ 19 := by decide
  have htail : (metricTail parsed).length ≤ 60 := by
    simp only [metricTail, newest, maxMetricSamples, List.length_drop]
    omega
  have hkept : kept.length < 10 ^ 2 := by
    have hle := hsuffix.length_le
    omega
  have hcountNow : countOf (metricReport trimmed) (text "sample_count") = kept.length := by
    rw [metricReport, countOf_set (by decide)]
    simp only [countOf, hcount]
  have hdiscardedNow : countOf (metricReport trimmed) (text "readings_discarded") =
      ((parsed.rawCount - parsed.samples.length : ℕ) : ℤ) := by
    rw [metricReport, countOf_set (by decide)]
    simp only [countOf, hdiscarded]
    omega
  have hmatched : parsed.samples.length < 10 ^ 19 := by omega
  have hmatchedDigits := (length_decimal_le (by decide)).2 hmatched
  have hnote : (keptNote (metricReport trimmed) (text "sample_count")
      parsed.samples.length).length ≤ 44 := by
    have hdigits := (length_decimal_le (by decide)).2 hkept
    rw [length_keptNote hcountNow]
    split <;> omega
  have hstatus := length_statusNote (lt_of_lt_of_le hseries hmax)
  have hdigits := (length_decimal_le (by decide)).2 hkept
  have hbad := (length_decimal_le (k := 19) (by decide)).2
    (show parsed.rawCount - parsed.samples.length < 10 ^ 19 by omega)
  have htemplate : (text arguments.template.value).length ≤ 36 := by
    cases arguments.template <;> decide
  have hservice := safe_length hsafe
  have hshort := highest.short
  have hbadNote : (if ((parsed.rawCount - parsed.samples.length : ℕ) : ℤ) = 0 then []
      else text " (" ++ decimalInt ((parsed.rawCount - parsed.samples.length : ℕ) : ℤ) ++
        text " unreadable, discarded)").length ≤ 44 := by
    have hopen : (text " (").length = 2 := by decide
    have hclose : (text " unreadable, discarded)").length = 23 := by decide
    split
    · exact Nat.zero_le _
    · simp only [decimalInt_natCast, List.length_append, hopen, hclose]
      omega
  have hfor : (text " for ").length = 5 := by decide
  have hcolon : (text ": ").length = 2 := by decide
  have hpeak : (text " samples, peak ").length = 15 := by decide
  simp only [metricSummary, hcountNow, hdiscardedNow, List.length_append, hfor, hcolon, hpeak]
  rw [decimalInt_natCast]
  omega

theorem length_decimalInt_le {n : ℤ} {k : ℕ} (hk : 0 < k) (hn : n.natAbs < 10 ^ k) :
    (decimalInt n).length ≤ k + 1 := by
  have hdigits := (length_decimal_le hk).2 hn
  have hsign : (text "-").length = 1 := by decide
  unfold decimalInt
  split
  · rw [List.length_append, hsign]
    omega
  · omega

/-- The window of a `datetime` holds few grid points. -/
theorem length_gridPoints (arguments : MetricArguments) :
    (decimalInt (gridSteps arguments + 1)).length ≤ 13 := by
  have hstart := arguments.startIsMoment
  have hend := arguments.endIsMoment
  simp only [isMoment, Bool.and_eq_true, decide_eq_true_eq] at hstart hend
  refine length_decimalInt_le (by decide) ?_
  simp only [gridSteps, metricStepMicroseconds]
  omega

theorem skeleton_new {payload : Dict} {key : Text} (value : Value)
    (hnew : get payload key = none) :
    skeleton (set payload key value) =
      skeleton payload + (2 + escapedLength key + 2 + skeletonValue value + 2) := by
  induction payload with
  | nil => simp only [Loaded.set, skeleton, List.map_cons, List.map_nil, List.sum_cons,
      List.sum_nil, Nat.zero_add, Nat.add_zero]
  | cons entry rest ih =>
      rw [get_cons] at hnew
      split at hnew
      · cases hnew
      · rename_i hentry
        have hrest := ih hnew
        rw [Loaded.set, if_neg hentry]
        simp only [skeleton, List.map_cons, List.sum_cons] at hrest ⊢
        omega

theorem skeleton_keeping {payload : Dict} {rowsKey countKey : Text} {rows kept : List Value}
    {given : Bool} {count : ℤ} (hkeys : OwnKeys rowsKey countKey)
    (hmark : get payload (text "truncated") = some (.bool given))
    (hcount : get payload countKey = some (.int count)) (hnew : get payload rowsKey = none) :
    skeleton (keeping payload rowsKey countKey rows kept) ≤
      skeleton payload + (2 + escapedLength rowsKey + 2 + size (.arr kept) + 2) +
        size (.int kept.length) := by
  have hmarked : ∀ marked : Dict, get marked countKey = some (.int count) →
      get marked rowsKey = none → skeleton marked ≤ skeleton payload →
        skeleton (withRows marked rowsKey countKey kept) ≤
          skeleton payload + (2 + escapedLength rowsKey + 2 + size (.arr kept) + 2) +
            size (.int kept.length) := by
    intro marked hcount hnew hle
    have hcount' : get (set marked rowsKey (.arr kept)) countKey = some (.int count) := by
      rw [get_set, if_neg hkeys.differ.symm, hcount]
    have hlast := skeleton_set (.int kept.length) hcount'
    have hrows := skeleton_new (.arr kept) hnew
    simp only [skeletonValue] at hlast hrows
    rw [withRows]
    omega
  rw [keeping]
  split
  · exact hmarked payload hcount hnew le_rfl
  · refine hmarked _ ?_ ?_ ?_
    · rw [get_set, if_neg hkeys.count.symm, hcount]
    · rw [get_set, if_neg hkeys.rows.symm, hnew]
    · have hset := skeleton_set (.bool true) hmark
      have hleast : size (.bool true) ≤ size (.bool given) := by cases given <;> decide
      simp only [skeletonValue] at hset
      omega

theorem metric_marked {incidentId : Text} {parsed : ParsedSamples}
    (hsamples : parsed.samples.length ≤ parsed.rawCount) (hraw : parsed.rawCount < maxItems) :
    Marked 600 (keeping (metricPayload r arguments incidentId parsed (metricTail parsed))
      (text "samples") (text "sample_count") ((metricTail parsed).map sampleRow) []) := by
  refine ⟨keeping_keyed (metricPayload_keyed r arguments _ _ _), ?_, ?_⟩
  · rw [get_keeping_mark sampleKeys.own]
    split
    · exact ⟨true, rfl⟩
    · exact ⟨_, rfl⟩
  · have hmax : maxItems ≤ 10 ^ 19 := by decide
    have htail : (metricTail parsed).length < 10 ^ 2 := by
      simp only [metricTail, newest, maxMetricSamples, List.length_drop]
      omega
    have hdiscarded : (decimalInt (parsed.rawCount - parsed.samples.length : ℤ)).length ≤ 20 :=
      length_decimalInt_le (by decide) (by omega)
    have hcount := (length_decimal_le (by decide)).2 htail
    have hgrid := length_gridPoints arguments
    have hpeak := (peak ((metricTail parsed).map Prod.snd)).short
    have hmark : size (.bool (decide ((metricTail parsed).length < parsed.samples.length))) ≤ 5 := by
      cases decide ((metricTail parsed).length < parsed.samples.length) <;> decide
    refine (skeleton_keeping sampleKeys.own rfl rfl rfl).trans ?_
    simp only [metricPayload, skeleton, List.map_cons, List.map_nil, List.sum_cons, List.sum_nil,
      skeletonValue, size, sizeItems, numberLength, List.length_nil, Nat.cast_zero,
      decimalInt_natCast,
      (by decide : escapedLength (text "template") = 8),
      (by decide : escapedLength (text "service") = 7),
      (by decide : escapedLength (text "sample_count") = 12),
      (by decide : escapedLength (text "max_value") = 9),
      (by decide : escapedLength (text "truncated") = 9),
      (by decide : escapedLength (text "readings_discarded") = 18),
      (by decide : escapedLength (text "status") = 6),
      (by decide : escapedLength (text "promql") = 6),
      (by decide : escapedLength (text "query_window_start") = 18),
      (by decide : escapedLength (text "query_window_end") = 16),
      (by decide : escapedLength (text "query_step_seconds") = 18),
      (by decide : escapedLength (text "grid_points") = 11),
      (by decide : escapedLength (text "samples") = 7),
      (by decide : (decimalInt 15).length = 2), (by decide : (decimalInt 0).length = 1)] at hmark ⊢
    omega

/-- The report of a metric fits exactly if no sample is left or the peak of those that are left
fits. -/
theorem metricReport_fits {incidentId : Text} {parsed : ParsedSamples} {trimmed : Dict}
    {kept : List (Double × Double)} (hsamples : parsed.samples.length ≤ parsed.rawCount)
    (hraw : parsed.rawCount < maxItems)
    (htrimmed : metricTrim r arguments incidentId parsed = .ok trimmed)
    (hkept : MetricKept r arguments incidentId parsed kept)
    (htrims : TrimmedTo (metricPayload r arguments incidentId parsed (metricTail parsed)) trimmed
      (text "samples") (text "sample_count") ((metricTail parsed).map sampleRow)
      (kept.map sampleRow)) :
    fits (metricReport trimmed) = true ↔ (kept ≠ [] →
      metricWeight r arguments incidentId parsed kept + peakLength kept ≤ maxResultBytes) := by
  obtain ⟨-, -, hpeak, -, -⟩ := metric_fields htrimmed
  rw [metricReport, fits_set hpeak, readingsOf_rows htrims.rowsNow]
  simp only [size, numberLength]
  by_cases hnil : kept = []
  · refine iff_of_true ?_ fun hne => absurd hnil hne
    have hmarked := @metric_marked r arguments incidentId parsed hsamples hraw
    have hsmall : size (.obj trimmed) ≤ maxResultBytes := by
      rw [hnil] at htrims
      exact of_decide_eq_true (hmarked.fits_of_halts (by decide) htrims.halts)
    have hlong := (peak ((metricTail parsed).map Prod.snd)).long
    have hzero : (peak (kept.map Prod.snd)).repr.length = 3 := by
      rw [hnil]
      rfl
    simp only [size] at hsmall
    omega
  · have hweight := hkept.holds.resolve_right hnil
    have hfits : fits (keeping (metricPayload r arguments incidentId parsed (metricTail parsed))
        (text "samples") (text "sample_count") ((metricTail parsed).map sampleRow)
        (kept.map sampleRow)) = true := by
      rwa [fits, decide_eq_true_eq, size_metric hkept.suffix]
    have hsize := @size_metric r arguments incidentId parsed kept hkept.suffix
    rw [← htrims.eq_keeping hfits] at hsize
    simp only [size] at hsize
    rw [hsize]
    simp only [peakLength, hnil, ne_eq, not_false_eq_true, true_imp_iff]
    omega

theorem runMetricCheck_bounded (incidentId : { t : Text // encodes t = true })
    (response : Response) (durationMs : ℤ) :
    Reports (runMetricCheck r arguments incidentId response durationMs) ↔
      MetricFits r arguments incidentId.1 response := by
  have hrun := runMetricCheck_run r arguments incidentId response durationMs
  generalize runMetricCheck r arguments incidentId response durationMs = result at hrun ⊢
  cases hrun with
  | raises raised hnot =>
      refine iff_of_true (reports_error raised) fun hsafe values series kept hread _ => ?_
      exact absurd hread.readable hnot
  | failed _ outcome hfailed _ hnone =>
      exact iff_of_true (reports_failed hfailed) fun hsafe values series kept hread _ =>
        absurd hread (hnone hsafe values series kept)
  | @executed values series kept trimmed _ hsafe hread htrimmed htrims =>
      obtain ⟨bytes, hparsed⟩ := hread.parsed
      obtain ⟨hsamples, hraw, -⟩ := parsed_sized hparsed
      rw [reports_executed rfl]
      have hfits := metricReport_fits hsamples hraw htrimmed hread.longest htrims
      constructor
      · rintro ⟨hreport, -⟩ - values' series' kept' hread' hne
        obtain ⟨⟨rfl, rfl⟩, rfl⟩ := hread.unique hread'
        exact hfits.1 hreport hne
      · intro hfit
        exact ⟨hfits.2 (hfit hsafe values series kept hread),
          metric_summary hsafe hparsed htrimmed _⟩

end Metrics

section Results

/-- What the four checks are given, and what they read. -/
structure Checks where
  logs : LogArguments
  changes : ChangeArguments
  metric : MetricArguments
  incidentId : { t : Text // encodes t = true }
  logFile : Option Bytes
  changesFile : Option Bytes
  topologyFile : Option Bytes
  response : Response
  durationMs : ℤ

/-- Every executed outcome of the four checks is bounded. -/
structure AllBounded (r : Runtime) (checks : Checks) : Prop where
  logs : Reports (runLogsCheck r checks.logs checks.logFile checks.durationMs)
  changes : Reports (runChangesCheck r checks.changes checks.changesFile checks.durationMs)
  topology : Reports (runTopologyCheck r checks.topologyFile checks.durationMs)
  metric : Reports (runMetricCheck r checks.metric checks.incidentId checks.response
    checks.durationMs)

/-- Every executed outcome is bounded exactly if what is written after the trims fits beside
the rows that are kept: the event codes of a log, and the peak of a metric. -/
theorem bounded_results (r : Runtime) (checks : Checks) :
    AllBounded r checks ↔
      LogsFit r checks.logs checks.logFile ∧
        MetricFits r checks.metric checks.incidentId.1 checks.response :=
  ⟨fun h => ⟨(runLogsCheck_bounded _ _).1 h.logs, (runMetricCheck_bounded _ _ _).1 h.metric⟩,
    fun h => ⟨(runLogsCheck_bounded _ _).2 h.1, runChangesCheck_bounded _ _ _ _,
      runTopologyCheck_bounded _ _ _, (runMetricCheck_bounded _ _ _).2 h.2⟩⟩

theorem labOrders_encodes : encodes (text "orders") = true := by decide

/-- A log of one long event, and nothing else to read. -/
def labChecks : Checks where
  logs := labLogArguments
  changes := ⟨text "orders", 1767225000000000, 1767226200000000, labOrders_encodes⟩
  metric := ⟨.gatewayErrorRate, text "orders", 1767225000000000, 1767226200000000,
    by decide, by decide⟩
  incidentId := ⟨text "incident", by decide⟩
  logFile := some labLog
  changesFile := none
  topologyFile := none
  response := .unreachable
  durationMs := 0

def executedLength (result : Except Raised CheckOutcome) : Option ℕ :=
  match result with
  | .ok outcome => if outcome.outcome = .executed then some outcome.summary.length else none
  | .error _ => none

theorem executedLength_le {result : Except Raised CheckOutcome} {n : ℕ} (h : Reports result)
    (hlength : executedLength result = some n) : n ≤ 400 := by
  cases result with
  | error raised => cases hlength
  | ok outcome =>
      simp only [executedLength] at hlength
      split at hlength
      · rename_i hexecuted
        rw [← Option.some.inj hlength]
        exact (h outcome rfl hexecuted).2
      · cases hlength

/-- The summary of that log has 438 characters. -/
theorem bounded_results_long_event : ¬ AllBounded labRuntime labChecks := by
  intro h
  have hlength : executedLength (runLogsCheck labRuntime labChecks.logs labChecks.logFile
      labChecks.durationMs) = some 438 := by decide +kernel
  exact absurd (executedLength_le h.logs hlength) (by decide)

end Results

end CausalOps.Telemetry
