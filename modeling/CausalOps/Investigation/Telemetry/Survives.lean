import CausalOps.Investigation.Telemetry.Bounded

set_option autoImplicit false

/-! When a check returns an outcome instead of raising, and that bad records are skipped
wherever they stand. -/

namespace CausalOps.Telemetry

open Loaded

def Returns (result : Except Raised CheckOutcome) : Prop := ∃ outcome, result = .ok outcome

theorem not_returns_error (raised : Raised) : ¬ Returns (.error raised) := by
  rintro ⟨outcome, h⟩
  cases h

section Logs

variable (r : Runtime) (arguments : LogArguments)

/-- A line that a log check skips: it is not UTF-8, not JSON, no object, not what the filter
looks for, or without a moment in the window. -/
inductive BadLine (line : Bytes) : Prop
  | undecodable (h : decodeUtf8 line = none)
  | malformed (t : Text) (error : LoadsError) (hdecode : decodeUtf8 line = some t)
      (hloads : r.loadsFinite t = .error error) (herror : error ≠ .recursion)
  | noObject (t : Text) (value : Value) (hdecode : decodeUtf8 line = some t)
      (hloads : r.loadsFinite t = .ok value) (hvalue : ∀ record, value ≠ .obj record)
  | unmatched (t : Text) (record : Dict) (hdecode : decodeUtf8 line = some t)
      (hloads : r.loadsFinite t = .ok (.obj record))
      (hfilter : ¬ Sought arguments.logFilter record)
  | outside (t : Text) (record : Dict) (hdecode : decodeUtf8 line = some t)
      (hloads : r.loadsFinite t = .ok (.obj record))
      (hwindow : ¬ InWindow r record arguments.windowStart arguments.windowEnd)

variable {r arguments}

theorem logRow_bad {line : Bytes} (h : BadLine r arguments line) :
    logRow r arguments line = .ok none := by
  cases h with
  | undecodable h => simp only [logRow, h]
  | malformed t error hdecode hloads herror =>
      cases error with
      | recursion => exact absurd rfl herror
      | decode => simp only [logRow, hdecode, readJsonLine, hloads]
      | value => simp only [logRow, hdecode, readJsonLine, hloads]
  | noObject t value hdecode hloads hvalue =>
      cases value with
      | obj record => exact absurd rfl (hvalue record)
      | _ => simp only [logRow, hdecode, readJsonLine, hloads]
  | unmatched t record hdecode hloads hfilter =>
      rw [← matchesFilter_iff, Bool.not_eq_true] at hfilter
      simp [logRow, hdecode, readJsonLine, hloads, hfilter]
  | outside t record hdecode hloads hwindow =>
      rw [← withinWindow_iff, Bool.not_eq_true] at hwindow
      simp [logRow, hdecode, readJsonLine, hloads, hwindow]

theorem logRows_skip {bad : Bytes} (h : BadLine r arguments bad) (before after : List Bytes) :
    logRows r arguments (before ++ bad :: after) = logRows r arguments (before ++ after) := by
  induction before with
  | nil => simp only [List.nil_append, logRows, logRow_bad h]
  | cons line rest ih => simp only [List.cons_append, logRows, ih]

theorem runLogsCheck_returns (file : Option Bytes) (durationMs : ℤ) :
    Returns (runLogsCheck r arguments file durationMs) ↔ LogsReadable r arguments file := by
  have hrun := runLogsCheck_run r arguments file durationMs
  generalize runLogsCheck r arguments file durationMs = result at hrun ⊢
  cases hrun with
  | raises raised hnot => exact iff_of_false (not_returns_error raised) hnot
  | missing hreadable _ => exact iff_of_true ⟨_, rfl⟩ hreadable
  | executed hreadable _ _ => exact iff_of_true ⟨_, rfl⟩ hreadable

end Logs

section Changes

variable {r : Runtime} {arguments : ChangeArguments}

theorem runChangesCheck_returns (file : Option Bytes) (durationMs : ℤ) :
    Returns (runChangesCheck r arguments file durationMs) ↔ ChangesReadable r arguments file := by
  have hrun := runChangesCheck_run r arguments file durationMs
  generalize runChangesCheck r arguments file durationMs = result at hrun ⊢
  cases hrun with
  | raises raised _ hnot => exact iff_of_false (not_returns_error raised) hnot
  | missing hreadable _ => exact iff_of_true ⟨_, rfl⟩ hreadable
  | executed hreadable _ _ _ => exact iff_of_true ⟨_, rfl⟩ hreadable

/-- A record that a change check skips: no object, of another service, or without a moment in
the window. -/
inductive BadChange (r : Runtime) (arguments : ChangeArguments) (entry : Value) : Prop
  | noObject (h : ∀ record, entry ≠ .obj record)
  | otherService (record : Dict) (h : entry = .obj record)
      (hservice : get record (text "service") ≠ some (.str arguments.service))
  | outside (record : Dict) (h : entry = .obj record)
      (hwindow : ¬ InWindow r record arguments.windowStart arguments.windowEnd)

theorem isChange_bad {entry : Value} (h : BadChange r arguments entry) :
    isChange r arguments entry = false := by
  cases h with
  | noObject h =>
      cases entry with
      | obj record => exact absurd rfl (h record)
      | _ => rfl
  | otherService record h hservice =>
      rw [ne_eq, ← holds_iff, Bool.not_eq_true] at hservice
      rw [h]
      simp [isChange, hservice]
  | outside record h hwindow =>
      rw [← withinWindow_iff, Bool.not_eq_true] at hwindow
      rw [h]
      simp [isChange, hwindow]

theorem runChangesCheck_skip {file other : Option Bytes} {before after : List Value} {bad : Value}
    (durationMs : ℤ) (hfile : readJsonFile r file = .ok (some (.arr (before ++ after))))
    (hother : readJsonFile r other = .ok (some (.arr (before ++ bad :: after))))
    (hbad : BadChange r arguments bad) :
    runChangesCheck r arguments other durationMs = runChangesCheck r arguments file durationMs := by
  have hfound : (before ++ bad :: after).filter (isChange r arguments) =
      (before ++ after).filter (isChange r arguments) := by
    rw [List.filter_append, List.filter_cons, isChange_bad hbad, List.filter_append]
    rfl
  simp only [runChangesCheck, hfile, hother, hfound]

end Changes

section Topology

theorem runTopologyCheck_returns {r : Runtime} (file : Option Bytes) (durationMs : ℤ) :
    Returns (runTopologyCheck r file durationMs) ↔ TopologyReadable r file := by
  have hrun := runTopologyCheck_run r file durationMs
  generalize runTopologyCheck r file durationMs = result at hrun ⊢
  cases hrun with
  | raises raised _ hnot => exact iff_of_false (not_returns_error raised) hnot
  | missing hreadable _ => exact iff_of_true ⟨_, rfl⟩ hreadable
  | executed hreadable _ _ _ => exact iff_of_true ⟨_, rfl⟩ hreadable

end Topology

section Metrics

theorem runMetricCheck_returns {r : Runtime} {arguments : MetricArguments}
    (incidentId : { t : Text // encodes t = true }) (response : Response) (durationMs : ℤ) :
    Returns (runMetricCheck r arguments incidentId response durationMs) ↔
      MetricReadable r arguments response := by
  have hrun := runMetricCheck_run r arguments incidentId response durationMs
  generalize runMetricCheck r arguments incidentId response durationMs = result at hrun ⊢
  cases hrun with
  | raises raised hnot => exact iff_of_false (not_returns_error raised) hnot
  | failed hreadable _ _ _ _ => exact iff_of_true ⟨_, rfl⟩ hreadable
  | executed hreadable _ _ _ _ => exact iff_of_true ⟨_, rfl⟩ hreadable

end Metrics

section Results

/-- The four checks return outcomes, and the first two do not see bad records. -/
structure Survives (r : Runtime) (checks : Checks) : Prop where
  logs : Returns (runLogsCheck r checks.logs checks.logFile checks.durationMs)
  changes : Returns (runChangesCheck r checks.changes checks.changesFile checks.durationMs)
  topology : Returns (runTopologyCheck r checks.topologyFile checks.durationMs)
  metric : Returns (runMetricCheck r checks.metric checks.incidentId checks.response
    checks.durationMs)
  skipsLines : ∀ (before after : List Bytes) (bad bytes : Bytes),
    checks.logFile = some bytes → lines bytes = before ++ after → BadLine r checks.logs bad →
    ∀ more, lines more = before ++ bad :: after →
      runLogsCheck r checks.logs (some more) checks.durationMs =
        runLogsCheck r checks.logs checks.logFile checks.durationMs
  skipsChanges : ∀ (before after : List Value) (bad : Value),
    Reads r checks.changesFile (.arr (before ++ after)) → BadChange r checks.changes bad →
    ∀ more, Reads r more (.arr (before ++ bad :: after)) →
      runChangesCheck r checks.changes more checks.durationMs =
        runChangesCheck r checks.changes checks.changesFile checks.durationMs

/-- What the four checks read raises none of the errors that no handler names. -/
structure Readable (r : Runtime) (checks : Checks) : Prop where
  logs : LogsReadable r checks.logs checks.logFile
  changes : ChangesReadable r checks.changes checks.changesFile
  topology : TopologyReadable r checks.topologyFile
  metric : MetricReadable r checks.metric checks.response

variable (r : Runtime) (checks : Checks)

theorem runLogsCheck_skip {before after : List Bytes} {bad bytes more : Bytes}
    (arguments : LogArguments) (durationMs : ℤ) (hbytes : lines bytes = before ++ after)
    (hmore : lines more = before ++ bad :: after) (hbad : BadLine r arguments bad) :
    runLogsCheck r arguments (some more) durationMs =
      runLogsCheck r arguments (some bytes) durationMs := by
  have hrows : logRows r arguments (lines more) = logRows r arguments (lines bytes) := by
    rw [hmore, hbytes, logRows_skip hbad]
  simp only [runLogsCheck, hrows]

/-- Untrusted telemetry crashes no check exactly if it is readable; bad records are always
skipped. -/
theorem untrusted_telemetry : Survives r checks ↔ Readable r checks := by
  constructor
  · intro h
    exact {
      logs := (runLogsCheck_returns _ _).1 h.logs
      changes := (runChangesCheck_returns _ _).1 h.changes
      topology := (runTopologyCheck_returns _ _).1 h.topology
      metric := (runMetricCheck_returns _ _ _).1 h.metric }
  · intro h
    refine {
      logs := (runLogsCheck_returns _ _).2 h.logs
      changes := (runChangesCheck_returns _ _).2 h.changes
      topology := (runTopologyCheck_returns _ _).2 h.topology
      metric := (runMetricCheck_returns _ _ _).2 h.metric
      skipsLines := ?_
      skipsChanges := ?_ }
    · intro before after bad bytes hfile hbytes hbad more hmore
      rw [hfile]
      exact runLogsCheck_skip r checks.logs checks.durationMs hbytes hmore hbad
    · intro before after bad hfile hbad more hmore
      exact runChangesCheck_skip checks.durationMs (readJsonFile_some_iff.2 hfile)
        (readJsonFile_some_iff.2 hmore) hbad

/-- A Prometheus body of the single byte `0xff` raises `UnicodeDecodeError`. -/
theorem untrusted_telemetry_not_utf8 :
    ¬ Survives labRuntime { labChecks with response := .body [0xff] } := by
  intro h
  obtain ⟨outcome, houtcome⟩ := h.metric
  have hraised : runMetricCheck labRuntime labChecks.metric labChecks.incidentId (.body [0xff])
      labChecks.durationMs = .error .unicodeDecodeError := by rfl
  rw [hraised] at houtcome
  cases houtcome

end Results

end CausalOps.Telemetry
