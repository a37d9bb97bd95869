import CausalOps.Investigation.Telemetry.Bounded

set_option autoImplicit false

/-! Every payload that an executed check returns agrees with itself: what was derived from the
rows describes the rows that are there. -/

namespace CausalOps.Telemetry

open Loaded

section Derived

/-- A trimmed payload is marked when it has fewer rows, or was marked before. -/
theorem TrimmedTo.truncated {payload trimmed : Dict} {rowsKey countKey : Text}
    {rows kept : List Value} (h : TrimmedTo payload trimmed rowsKey countKey rows kept)
    {given : Bool} (hgiven : get payload (text "truncated") = some (.bool given))
    (hfewer : kept.length < rows.length ∨ given = true) :
    get trimmed (text "truncated") = some (.bool true) := by
  by_cases hcut : kept.length < rows.length ∨ Shortened payload trimmed rowsKey countKey
  · exact h.marked hcut
  · have htrue : given = true := hfewer.resolve_left fun hless => hcut (Or.inl hless)
    rw [h.unmarked hcut, hgiven, htrue]

theorem peak_spec {readings : List Double} (hne : readings ≠ []) :
    peak readings ∈ readings ∧ ∀ d ∈ readings, d.value ≤ (peak readings).value := by
  have hfold : ∀ (rest : List Double) (first : Double),
      let best := rest.foldl (fun best d => if best.value < d.value then d else best) first
      best ∈ first :: rest ∧ ∀ d ∈ first :: rest, d.value ≤ best.value := by
    intro rest
    induction rest with
    | nil => intro first; simp
    | cons second rest ih =>
        intro first
        obtain ⟨hmem, hall⟩ := ih (if first.value < second.value then second else first)
        simp only [List.foldl_cons]
        constructor
        · rcases List.mem_cons.1 hmem with heq | hrest
          · rw [heq]
            split <;> simp
          · exact List.mem_cons_of_mem _ (List.mem_cons_of_mem _ hrest)
        · have hstart := hall _ List.mem_cons_self
          intro d hd
          rcases List.mem_cons.1 hd with rfl | hd
          · refine le_trans ?_ hstart
            split
            · exact le_of_lt ‹_›
            · exact le_refl _
          · rcases List.mem_cons.1 hd with rfl | hd
            · refine le_trans ?_ hstart
              split
              · exact le_refl _
              · exact not_lt.1 ‹_›
            · exact hall d (List.mem_cons_of_mem _ hd)
  cases readings with
  | nil => exact absurd rfl hne
  | cons first rest => exact hfold rest first

end Derived

section Agreement

variable {r : Runtime}

/-- A log payload describes its rows, the last of those that matched. -/
structure LogsAgree (matched rows : List Value) (payload : Dict) : Prop where
  last : rows <:+ matched
  rowsNow : get payload (text "rows") = some (.arr rows)
  count : get payload (text "row_count") = some (.int rows.length)
  codes : ∃ codes, EventCodes rows codes ∧ get payload (text "event_codes") = some (.str codes)
  truncated : rows.length < matched.length →
    get payload (text "truncated") = some (.bool true)

theorem newest_suffix (limit : ℕ) {α : Type} (rows : List α) : newest limit rows <:+ rows :=
  List.drop_suffix _ _

theorem logs_agree {arguments : LogArguments} {matched kept : List Value} {trimmed : Dict}
    (htrims : TrimmedTo (logPayload arguments (logTail arguments matched) matched.length)
      trimmed (text "rows") (text "row_count") (logTail arguments matched) kept) :
    LogsAgree matched kept (logReport trimmed) := by
  have hrows : rowsOf trimmed (text "rows") = kept := by
    simp only [rowsOf, htrims.rowsNow]
  refine ⟨htrims.suffix.trans (newest_suffix _ _), ?_, ?_, ?_, ?_⟩
  · rw [logReport, get_set, if_neg (by decide), htrims.rowsNow]
  · rw [logReport, get_set, if_neg (by decide), htrims.countNow]
  · exact ⟨eventCodes kept, eventCodes_iff.2 rfl, by rw [logReport, get_set, if_pos rfl, hrows]⟩
  · intro hfewer
    have hgiven : get (logPayload arguments (logTail arguments matched) matched.length)
        (text "truncated") =
          some (.bool (decide ((logTail arguments matched).length < matched.length))) := rfl
    rw [logReport, get_set, if_neg (by decide)]
    refine htrims.truncated hgiven ?_
    by_cases hcut : kept.length < (logTail arguments matched).length
    · exact Or.inl hcut
    · exact Or.inr (decide_eq_true (by omega))

/-- A change payload describes its changes, the newest of those that were found. -/
structure ChangesAgree (sorted changes : List Value) (payload : Dict) : Prop where
  last : changes <:+ sorted
  changesNow : get payload (text "changes") = some (.arr changes)
  count : get payload (text "change_count") = some (.int changes.length)
  summaries : ∃ texts, TextsUnder (text "summary") changes texts ∧
    get payload (text "summaries") = some (.str (List.intercalate (text "; ") texts))
  truncated : changes.length < sorted.length →
    get payload (text "truncated") = some (.bool true)

theorem changes_agree {arguments : ChangeArguments} {sorted kept : List Value}
    {texts : List Text} {trimmed : Dict}
    (htrims : TrimmedTo (changePayload arguments sorted (joined texts)) trimmed
      (text "changes") (text "change_count") sorted kept) :
    ChangesAgree sorted kept (changeReport trimmed) := by
  have hrows : rowsOf trimmed (text "changes") = kept := by
    simp only [rowsOf, htrims.rowsNow]
  refine ⟨htrims.suffix, ?_, ?_, ⟨_, textsUnder_iff.2 rfl, ?_⟩, ?_⟩
  · rw [changeReport, get_set, if_neg (by decide), htrims.rowsNow]
  · rw [changeReport, get_set, if_neg (by decide), htrims.countNow]
  · rw [changeReport, get_set, if_pos rfl, hrows]
    rfl
  · intro hfewer
    rw [changeReport, get_set, if_neg (by decide)]
    exact htrims.marked (Or.inl hfewer)

structure TopologyAgree (allServices allEdges services edges : List Value) (payload : Dict) :
    Prop where
  lastServices : services <:+ allServices
  lastEdges : edges <:+ allEdges
  servicesNow : get payload (text "services") = some (.arr services)
  edgesNow : get payload (text "edges") = some (.arr edges)
  serviceCount : get payload (text "service_count") = some (.int services.length)
  edgeCount : get payload (text "edge_count") = some (.int edges.length)
  truncated : services.length < allServices.length ∨ edges.length < allEdges.length →
    get payload (text "truncated") = some (.bool true)

theorem topology_agree {services edges keptServices keptEdges : List Value} {trimmed : Dict}
    (hedges : keptEdges <:+ edges)
    (htrims : TrimmedTo (edgesKept services edges keptEdges) trimmed (text "services")
      (text "service_count") services keptServices) :
    TopologyAgree services edges keptServices keptEdges trimmed := by
  refine ⟨htrims.suffix, hedges, htrims.rowsNow, servicesTrim_edges htrims, htrims.countNow,
    servicesTrim_count htrims, ?_⟩
  rintro (hfewer | hfewer)
  · exact htrims.marked (Or.inl hfewer)
  · have hmark : get (edgesKept services edges keptEdges) (text "truncated") =
        some (.bool true) := by
      rw [edgesKept, get_keeping_mark edgeKeys.own, if_pos hfewer.ne]
    exact htrims.truncated hmark (Or.inr rfl)

/-- A metric payload describes its samples, the newest of those that could be read, and with
the readings that could not they are what the first series had. -/
structure MetricAgree (r : Runtime) (values : List Value) (samples kept : List (Double × Double))
    (payload : Dict) : Prop where
  last : kept <:+ samples
  read : samples = values.filterMap (readSample r)
  samplesNow : get payload (text "samples") = some (.arr (kept.map sampleRow))
  count : get payload (text "sample_count") = some (.int kept.length)
  highest : ∃ highest, get payload (text "max_value") = some (.float (.finite highest)) ∧
    (kept = [] → highest = zero) ∧
    (kept ≠ [] → highest ∈ kept.map Prod.snd ∧
      ∀ sample ∈ kept, sample.2.value ≤ highest.value)
  discarded : ∃ discarded : ℤ, get payload (text "readings_discarded") = some (.int discarded) ∧
    samples.length + discarded = values.length
  truncated : kept.length < samples.length →
    get payload (text "truncated") = some (.bool true)

theorem metric_agree {arguments : MetricArguments} {incidentId : Text} {values : List Value}
    {series : ℕ} {kept : List (Double × Double)} {trimmed : Dict}
    (htrimmed : metricTrim r arguments incidentId (readSamples r values series) = .ok trimmed)
    (hkept : kept <:+ metricTail (readSamples r values series))
    (htrims : TrimmedTo (metricPayload r arguments incidentId (readSamples r values series)
      (metricTail (readSamples r values series))) trimmed (text "samples") (text "sample_count")
      ((metricTail (readSamples r values series)).map sampleRow) (kept.map sampleRow)) :
    MetricAgree r values (readSamples r values series).samples kept (metricReport trimmed) := by
  obtain ⟨-, -, -, hdiscarded, -⟩ := metric_fields htrimmed
  have hreadings := readingsOf_rows htrims.rowsNow
  refine ⟨hkept.trans (newest_suffix _ _), rfl, ?_, ?_, ?_, ?_, ?_⟩
  · rw [metricReport, get_set, if_neg (by decide), htrims.rowsNow]
  · rw [metricReport, get_set, if_neg (by decide), htrims.countNow, List.length_map]
  · refine ⟨peak (readingsOf trimmed), by rw [metricReport, get_set, if_pos rfl], ?_, ?_⟩
    · rintro rfl
      rw [hreadings]
      rfl
    · intro hne
      have hpeak := @peak_spec (kept.map Prod.snd) (by simpa using hne)
      rw [hreadings]
      exact ⟨hpeak.1, fun sample hsample => hpeak.2 _ (List.mem_map_of_mem hsample)⟩
  · refine ⟨_, by rw [metricReport, get_set, if_neg (by decide), hdiscarded], ?_⟩
    have hraw : (readSamples r values series).rawCount = values.length := rfl
    rw [hraw]
    omega
  · intro hfewer
    have hgiven : get (metricPayload r arguments incidentId (readSamples r values series)
        (metricTail (readSamples r values series))) (text "truncated") =
          some (.bool (decide ((metricTail (readSamples r values series)).length <
            (readSamples r values series).samples.length))) := rfl
    rw [metricReport, get_set, if_neg (by decide)]
    refine htrims.truncated hgiven ?_
    rw [List.length_map, List.length_map]
    by_cases hcut : kept.length < (metricTail (readSamples r values series)).length
    · exact Or.inl hcut
    · exact Or.inr (decide_eq_true (by omega))

/-- Every payload that is returned by an executed check agrees with itself: its counts with
its lists, its codes, summaries and peak with the rows that are there, its readings with what
the first series had, and its mark with what is missing of what was matched. -/
theorem self_consistency (r : Runtime) (checks : Checks) :
    (∀ outcome, runLogsCheck r checks.logs checks.logFile checks.durationMs = .ok outcome →
      outcome.outcome = .executed → ∃ matched rows,
        LogsRead r checks.logs checks.logFile matched rows ∧
        LogsAgree matched rows outcome.payload) ∧
    (∀ outcome, runChangesCheck r checks.changes checks.changesFile checks.durationMs =
      .ok outcome → outcome.outcome = .executed → ∃ found sorted texts changes,
        ChangesRead r checks.changes checks.changesFile found sorted texts changes ∧
        ChangesAgree sorted changes outcome.payload) ∧
    (∀ outcome, runTopologyCheck r checks.topologyFile checks.durationMs = .ok outcome →
      outcome.outcome = .executed → ∃ allServices allEdges services edges,
        TopologyRead r checks.topologyFile allServices allEdges services edges ∧
        TopologyAgree allServices allEdges services edges outcome.payload) ∧
    ∀ outcome, runMetricCheck r checks.metric checks.incidentId checks.response
      checks.durationMs = .ok outcome → outcome.outcome = .executed →
        ∃ values series samples kept,
          MetricRead r checks.metric checks.incidentId.1 checks.response values series kept ∧
          MetricAgree r values samples kept outcome.payload := by
  refine ⟨?_, ?_, ?_, ?_⟩
  · intro outcome h hexecuted
    have hrun := runLogsCheck_run r checks.logs checks.logFile checks.durationMs
    rw [h] at hrun
    cases hrun with
    | missing _ _ => cases hexecuted
    | executed _ hread htrims => exact ⟨_, _, hread, logs_agree htrims⟩
  · intro outcome h hexecuted
    have hrun := runChangesCheck_run r checks.changes checks.changesFile checks.durationMs
    rw [h] at hrun
    cases hrun with
    | missing _ _ => cases hexecuted
    | executed _ hread htrims _ => exact ⟨_, _, _, _, hread, changes_agree htrims⟩
  · intro outcome h hexecuted
    have hrun := runTopologyCheck_run r checks.topologyFile checks.durationMs
    rw [h] at hrun
    cases hrun with
    | missing _ _ => cases hexecuted
    | executed _ hread htrims _ =>
        exact ⟨_, _, _, _, hread, topology_agree hread.longestEdges.suffix htrims⟩
  · intro outcome h hexecuted
    have hrun := runMetricCheck_run r checks.metric checks.incidentId checks.response
      checks.durationMs
    rw [h] at hrun
    cases hrun with
    | failed _ _ hfailed _ _ => exact absurd hexecuted hfailed
    | executed _ _ hread htrimmed htrims =>
        exact ⟨_, _, _, _, hread, metric_agree htrimmed hread.longest.suffix htrims⟩

end Agreement

end CausalOps.Telemetry
