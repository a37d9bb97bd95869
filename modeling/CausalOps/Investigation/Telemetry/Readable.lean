import CausalOps.Investigation.Telemetry.Weighed

set_option autoImplicit false

/-! What each check returns, by cases on what it reads: it raises when that is not readable,
fails when there is nothing to read, and is executed otherwise. -/

namespace CausalOps.Telemetry

open Loaded
open Selection (LongestSuffix)

section Logs

variable (r : Runtime) (arguments : LogArguments)

/-- The rows that match in the file of a log, and those that are kept. -/
structure LogsRead (file : Option Bytes) (matched kept : List Value) : Prop where
  reads : ∃ bytes, file = some bytes ∧ LogsMatched r arguments bytes matched
  longest : LogsKept arguments matched kept

/-- The name of the file is taken, no line makes `json.loads` raise `RecursionError`,
`json.dumps` follows the newest rows, and the rows that are kept validate. -/
structure LogsReadable (file : Option Bytes) : Prop where
  name : r.nameFits (logFileName arguments) = true
  lines : ∀ bytes, file = some bytes → LinesLoad r bytes
  rows : ∀ matched kept, LogsRead r arguments file matched kept →
    r.encodable (.arr (logTail arguments matched)) = true ∧ r.accepts (.arr kept) = true

inductive LogsRun (file : Option Bytes) (durationMs : ℤ) : Except Raised CheckOutcome → Prop
  | raises (raised : Raised) (h : ¬ LogsReadable r arguments file) :
      LogsRun file durationMs (.error raised)
  | missing (h : LogsReadable r arguments file) (hfile : file = none) :
      LogsRun file durationMs (.ok ⟨.unavailable, .log, text "query_logs",
        text "no log for " ++ arguments.service ++ text " in this run", [],
        some .toolUnavailable, 0⟩)
  | executed {matched kept : List Value} {trimmed : Dict} (h : LogsReadable r arguments file)
      (hread : LogsRead r arguments file matched kept)
      (htrims : TrimmedTo (logPayload arguments (logTail arguments matched) matched.length)
        trimmed (text "rows") (text "row_count") (logTail arguments matched) kept) :
      LogsRun file durationMs (.ok ⟨.executed, .log, text "query_logs",
        logSummary arguments (logReport trimmed) matched.length, logReport trimmed, none,
        durationMs⟩)

variable {r arguments}

theorem LogsRead.unique {file : Option Bytes} {matched kept matched' kept' : List Value}
    (h : LogsRead r arguments file matched kept)
    (h' : LogsRead r arguments file matched' kept') : matched = matched' ∧ kept = kept' := by
  obtain ⟨bytes, rfl, hmatched⟩ := h.reads
  obtain ⟨other, hsame, hmatched'⟩ := h'.reads
  obtain rfl := Option.some.inj hsame
  have hunique : ∀ line row row', LogMatch r arguments line row →
      LogMatch r arguments line row' → row = row' := by
    intro line row row' hrow hrow'
    rw [← logRow_some_iff] at hrow hrow'
    exact Option.some.inj (Except.ok.inj (hrow.symm.trans hrow'))
  obtain rfl := hmatched.unique hunique hmatched'
  exact ⟨rfl, h.longest.unique h'.longest⟩

theorem runLogsCheck_run (r : Runtime) (arguments : LogArguments) (file : Option Bytes)
    (durationMs : ℤ) :
    LogsRun r arguments file durationMs (runLogsCheck r arguments file durationMs) := by
  by_cases hname : r.nameFits (logFileName arguments) = true
  swap
  · have hrun : runLogsCheck r arguments file durationMs = .error .osError := by
      simp only [runLogsCheck, hname, Bool.not_false, if_true]
    rw [hrun]
    exact .raises _ fun h => hname h.name
  cases file with
  | none =>
      rw [runLogsCheck_file r arguments hname]
      dsimp only
      rw [failedCheck_ok r _ _ _ (by decide) (by
        simp only [encodes_append, arguments.serviceEncodes, Bool.and_true]
        decide)]
      refine .missing ⟨hname, fun bytes h => (by cases h), fun matched kept h => ?_⟩ rfl
      obtain ⟨bytes, h, -⟩ := h.reads
      cases h
  | some bytes =>
      have hlines : ∀ {other}, LinesLoad r bytes → some bytes = some other → LinesLoad r other := by
        rintro other h hsame
        rwa [← Option.some.inj hsame]
      cases hmatched : logRows r arguments (lines bytes) with
      | error raised =>
          rw [runLogsCheck_file r arguments hname]
          simp only [hmatched]
          refine .raises _ fun h => ?_
          obtain ⟨matched, hselects⟩ :=
            Selection.exists_selects (LogMatch r arguments) (lines bytes)
          rw [(logRows_ok_iff bytes).2 ⟨h.lines bytes rfl, hselects⟩] at hmatched
          cases hmatched
      | ok matched =>
          obtain ⟨hload, hselects⟩ := (logRows_ok_iff bytes).1 hmatched
          cases htrimmed : logTrim r arguments matched with
          | error raised =>
              rw [runLogsCheck_file r arguments hname]
              simp only [hmatched, htrimmed]
              refine .raises _ fun h => ?_
              obtain ⟨kept, hkept⟩ := Selection.exists_longestSuffix
                (fun rows => logWeight arguments matched.length rows ≤ maxResultBytes)
                (logTail arguments matched)
              obtain ⟨trimmed, hok⟩ := (logTrim_ok_iff r arguments matched).2
                (h.rows matched kept ⟨⟨bytes, rfl, hselects⟩, hkept⟩).1
              rw [hok] at htrimmed
              cases htrimmed
          | ok trimmed =>
              obtain ⟨kept, hkept, htrims⟩ := logsKept_of_trim htrimmed
              have hread : LogsRead r arguments (some bytes) matched kept :=
                ⟨⟨bytes, rfl, hselects⟩, hkept⟩
              have hrows : rowsOf trimmed (text "rows") = kept := by
                simp only [rowsOf, htrims.rowsNow]
              rw [runLogsCheck_eq r arguments durationMs hname hmatched htrimmed, hrows]
              split
              · rename_i haccepts
                refine .executed ⟨hname, fun other => hlines hload, ?_⟩ hread htrims
                intro matched' kept' hread'
                obtain ⟨rfl, rfl⟩ := hread.unique hread'
                exact ⟨(logTrim_ok_iff r arguments matched).1 ⟨trimmed, htrimmed⟩, haccepts⟩
              · rename_i hrefused
                exact .raises _ fun h => hrefused (h.rows matched kept hread).2

end Logs

section Changes

variable (r : Runtime) (arguments : ChangeArguments)

/-- The changes payload when these of the sorted changes are kept, with these summaries. -/
def changesKept (sorted : List Value) (texts : List Text) (kept : List Value) : Dict :=
  keeping (changePayload arguments sorted (joined texts)) (text "changes") (text "change_count")
    sorted kept

/-- The changes that are found in a manifest, in the order of their moments, and those that are
kept: the newest that fit beside the summaries of all. -/
structure ChangesRead (file : Option Bytes) (found sorted : List Value) (texts : List Text)
    (kept : List Value) : Prop where
  reads : ∃ loaded, Reads r file (.arr loaded) ∧ ChangesFound r arguments loaded found
  inOrder : InOrder r found sorted
  underSummary : TextsUnder (text "summary") found texts
  longest : LongestSuffix (fun rows => fits (changesKept arguments sorted texts rows) = true) sorted
    kept

/-- The file is readable, `json.dumps` follows the changes of the service, and those that are
kept validate. -/
structure ChangesReadable (file : Option Bytes) : Prop where
  loads : FileReadable r file
  rows : ∀ found sorted texts kept, ChangesRead r arguments file found sorted texts kept →
    r.encodable (.arr sorted) = true ∧ r.accepts (.arr kept) = true

inductive ChangesRun (file : Option Bytes) (durationMs : ℤ) : Except Raised CheckOutcome → Prop
  | raises (raised : Raised) (hraised : raised ≠ .assertionError)
      (h : ¬ ChangesReadable r arguments file) : ChangesRun file durationMs (.error raised)
  | missing (h : ChangesReadable r arguments file)
      (hfile : ¬ ∃ loaded, Reads r file (.arr loaded)) :
      ChangesRun file durationMs (.ok ⟨.unavailable, .change, text "list_recent_changes",
        text "this run records no changes", [], some .toolUnavailable, 0⟩)
  | executed {found sorted kept : List Value} {texts : List Text} {trimmed : Dict}
      (h : ChangesReadable r arguments file)
      (hread : ChangesRead r arguments file found sorted texts kept)
      (htrims : TrimmedTo (changePayload arguments sorted (joined texts)) trimmed
        (text "changes") (text "change_count") sorted kept)
      (hfits : fits (changeReport trimmed) = true) :
      ChangesRun file durationMs (.ok ⟨.executed, .change, text "list_recent_changes",
        changeSummary arguments (changeReport trimmed) sorted.length, changeReport trimmed, none,
        durationMs⟩)

variable {r arguments}

theorem changesRead_iff {file : Option Bytes} {found sorted kept : List Value}
    {texts : List Text} :
    ChangesRead r arguments file found sorted texts kept ↔
      ∃ loaded, readJsonFile r file = .ok (some (.arr loaded)) ∧
        found = foundChanges r arguments loaded ∧ sorted = sortedChanges r arguments loaded ∧
        texts = textsOf (text "summary") found ∧
        LongestSuffix (fun rows => fits (changesKept arguments sorted texts rows) = true) sorted
          kept := by
  constructor
  · intro h
    obtain ⟨loaded, hloaded, hfound⟩ := h.reads
    obtain rfl := changesFound_iff.1 hfound
    exact ⟨loaded, readJsonFile_some_iff.2 hloaded, rfl, inOrder_iff.1 h.inOrder,
      textsUnder_iff.1 h.underSummary, h.longest⟩
  · rintro ⟨loaded, hloaded, rfl, rfl, rfl, hkept⟩
    exact ⟨⟨loaded, readJsonFile_some_iff.1 hloaded, changesFound_iff.2 rfl⟩, inOrder_iff.2 rfl,
      textsUnder_iff.2 rfl, hkept⟩

theorem Reads.fileReadable {file : Option Bytes} {value : Value} (h : Reads r file value) :
    FileReadable r file :=
  (readJsonFile_ok_iff file).1 ⟨_, readJsonFile_some_iff.2 h⟩

theorem ChangesRead.fileReadable {file : Option Bytes} {found sorted kept : List Value}
    {texts : List Text} (h : ChangesRead r arguments file found sorted texts kept) :
    FileReadable r file := by
  obtain ⟨loaded, hreads, -⟩ := h.reads
  exact hreads.fileReadable

theorem ChangesRead.unique {file : Option Bytes} {found sorted kept found' sorted' kept' :
    List Value} {texts texts' : List Text}
    (h : ChangesRead r arguments file found sorted texts kept)
    (h' : ChangesRead r arguments file found' sorted' texts' kept') :
    sorted = sorted' ∧ kept = kept' := by
  obtain ⟨loaded, hread, rfl, rfl, rfl, hkept⟩ := changesRead_iff.1 h
  obtain ⟨other, hread', rfl, rfl, rfl, hkept'⟩ := changesRead_iff.1 h'
  obtain rfl : loaded = other := by
    injection Option.some.inj (Except.ok.inj (hread.symm.trans hread'))
  exact ⟨rfl, hkept.unique hkept'⟩

theorem changeTrim_ok_iff (loaded : List Value) :
    (∃ trimmed, changeTrim r arguments loaded = .ok trimmed) ↔
      r.encodable (.arr (sortedChanges r arguments loaded)) = true :=
  trim_ok_iff_rows (changePayload_keyed arguments _ _) (by decide) rfl

theorem readJsonFile_raises {file : Option Bytes} {raised : Raised}
    (h : readJsonFile r file = .error raised) : raised = .recursionError := by
  simp only [readJsonFile] at h
  split at h
  · cases h
  split at h
  · cases h
  split at h
  · cases h
  · exact (Except.error.inj h).symm
  · cases h

theorem trimToBytes_raises {payload : Dict} {rowsKey countKey : Text} {rows : List Value}
    {raised : Raised} (h : trimToBytes r payload rowsKey countKey rows = .error raised) :
    raised = .recursionError := by
  simp only [trimToBytes] at h
  split at h
  · cases h
  · exact (Except.error.inj h).symm

theorem runChangesCheck_trim_error {file : Option Bytes} {loaded : List Value} {raised : Raised}
    (durationMs : ℤ) (hread : readJsonFile r file = .ok (some (.arr loaded)))
    (htrimmed : changeTrim r arguments loaded = .error raised) :
    runChangesCheck r arguments file durationMs = .error raised := by
  simp only [changeTrim, sortedChanges, foundChanges] at htrimmed
  simp only [runChangesCheck, hread, htrimmed]

theorem runChangesCheck_run (r : Runtime) (arguments : ChangeArguments) (file : Option Bytes)
    (durationMs : ℤ) :
    ChangesRun r arguments file durationMs (runChangesCheck r arguments file durationMs) := by
  cases hread : readJsonFile r file with
  | error raised =>
      simp only [runChangesCheck, hread]
      refine .raises _ (by rw [readJsonFile_raises hread]; decide) fun h => ?_
      obtain ⟨value, hvalue⟩ := (readJsonFile_ok_iff file).2 h.loads
      rw [hread] at hvalue
      cases hvalue
  | ok value =>
      have hfile := (readJsonFile_ok_iff file).1 ⟨value, hread⟩
      by_cases hlist : ∃ loaded, value = some (.arr loaded)
      swap
      · have hnone : ¬ ∃ loaded, Reads r file (.arr loaded) := by
          rintro ⟨loaded, hloaded⟩
          rw [← readJsonFile_some_iff, hread] at hloaded
          exact hlist ⟨loaded, Except.ok.inj hloaded⟩
        rw [runChangesCheck_failed durationMs hread hlist,
          failedCheck_ok r _ _ _ (by decide) (by decide)]
        exact .missing ⟨hfile, fun _ _ _ _ h =>
          absurd (h.reads.imp fun _ hreads => hreads.1) hnone⟩ hnone
      obtain ⟨loaded, rfl⟩ := hlist
      have hreads : ∀ {kept}, LongestSuffix (fun rows => fits (changesKept arguments
          (sortedChanges r arguments loaded)
          (textsOf (text "summary") (foundChanges r arguments loaded)) rows) = true)
            (sortedChanges r arguments loaded) kept →
          ChangesRead r arguments file (foundChanges r arguments loaded)
            (sortedChanges r arguments loaded)
            (textsOf (text "summary") (foundChanges r arguments loaded)) kept :=
        fun hkept => changesRead_iff.2 ⟨loaded, hread, rfl, rfl, rfl, hkept⟩
      cases htrimmed : changeTrim r arguments loaded with
      | error raised =>
          rw [runChangesCheck_trim_error durationMs hread htrimmed]
          refine .raises _ (by rw [trimToBytes_raises htrimmed]; decide) fun h => ?_
          obtain ⟨kept, hkept⟩ := Selection.exists_longestSuffix (fun rows => fits
            (changesKept arguments (sortedChanges r arguments loaded)
              (textsOf (text "summary") (foundChanges r arguments loaded)) rows) = true)
            (sortedChanges r arguments loaded)
          obtain ⟨trimmed, hok⟩ :=
            (changeTrim_ok_iff loaded).2 (h.rows _ _ _ _ (hreads hkept)).1
          rw [hok] at htrimmed
          cases htrimmed
      | ok trimmed =>
          obtain ⟨kept, htrims⟩ :=
            trimmedTo_of_ok (changePayload_keyed arguments _ _) changeKeys.own htrimmed
          have hkept := hreads htrims.longestSuffix
          have hrows : rowsOf trimmed (text "changes") = kept := by
            simp only [rowsOf, htrims.rowsNow]
          rw [runChangesCheck_eq r arguments durationMs hread htrimmed,
            if_pos (changeReport_fits htrimmed), hrows]
          split
          · rename_i haccepts
            refine .executed ⟨hfile, fun found sorted texts kept' h => ?_⟩ hkept htrims
              (changeReport_fits htrimmed)
            obtain ⟨rfl, rfl⟩ := hkept.unique h
            exact ⟨(changeTrim_ok_iff loaded).1 ⟨trimmed, htrimmed⟩, haccepts⟩
          · rename_i hrefused
            exact .raises _ (by decide) fun h => hrefused (h.rows _ _ _ _ hkept).2

end Changes

section Topology

variable (r : Runtime)

/-- The topology payload when every service and these of the edges are kept. -/
def edgesKept (services edges kept : List Value) : Dict :=
  keeping (topologyPayload services edges) (text "edges") (text "edge_count") edges kept

/-- The topology payload with these edges when these of the services are kept. -/
def servicesKept (services edges keptEdges kept : List Value) : Dict :=
  keeping (edgesKept services edges keptEdges) (text "services") (text "service_count") services
    kept

/-- The lists of a topology, and what is kept of them: the last edges that fit beside every
service, and then the last services. -/
structure TopologyRead (file : Option Bytes) (services edges keptServices keptEdges : List Value) :
    Prop where
  reads : ∃ loaded, Reads r file (.obj loaded) ∧ ItemsOf loaded (text "services") services ∧
    ItemsOf loaded (text "edges") edges
  longestEdges : LongestSuffix (fun rows => fits (edgesKept services edges rows) = true) edges
    keptEdges
  longestServices : LongestSuffix (fun rows => fits (servicesKept services edges keptEdges rows) = true)
    services keptServices

/-- The file is readable, `json.dumps` follows both lists of the topology, and what is kept of
them validates. -/
structure TopologyReadable (file : Option Bytes) : Prop where
  loads : FileReadable r file
  rows : ∀ services edges keptServices keptEdges,
    TopologyRead r file services edges keptServices keptEdges →
      (r.encodable (.arr services) = true ∧ r.encodable (.arr edges) = true) ∧
        r.accepts (.arr keptServices) = true ∧ r.accepts (.arr keptEdges) = true

inductive TopologyRun (file : Option Bytes) (durationMs : ℤ) : Except Raised CheckOutcome → Prop
  | raises (raised : Raised) (hraised : raised ≠ .assertionError)
      (h : ¬ TopologyReadable r file) : TopologyRun file durationMs (.error raised)
  | missing (h : TopologyReadable r file) (hfile : ¬ ∃ loaded, Reads r file (.obj loaded)) :
      TopologyRun file durationMs (.ok ⟨.unavailable, .topology, text "get_topology",
        text "this run records no topology", [], some .toolUnavailable, 0⟩)
  | executed {services edges keptServices keptEdges : List Value} {trimmed : Dict}
      (h : TopologyReadable r file)
      (hread : TopologyRead r file services edges keptServices keptEdges)
      (htrims : TrimmedTo (edgesKept services edges keptEdges) trimmed (text "services")
        (text "service_count") services keptServices)
      (hfits : fits trimmed = true) :
      TopologyRun file durationMs (.ok ⟨.executed, .topology, text "get_topology",
        topologySummary trimmed, trimmed, none, durationMs⟩)

variable {r}

theorem topologyRead_iff {file : Option Bytes} {services edges keptServices keptEdges :
    List Value} :
    TopologyRead r file services edges keptServices keptEdges ↔
      ∃ loaded, readJsonFile r file = .ok (some (.obj loaded)) ∧
        services = listOf loaded (text "services") ∧ edges = listOf loaded (text "edges") ∧
        LongestSuffix (fun rows => fits (edgesKept services edges rows) = true) edges keptEdges ∧
        LongestSuffix (fun rows => fits (servicesKept services edges keptEdges rows) = true)
          services keptServices := by
  constructor
  · intro h
    obtain ⟨loaded, hloaded, hservices, hedges⟩ := h.reads
    exact ⟨loaded, readJsonFile_some_iff.2 hloaded, itemsOf_iff.1 hservices,
      itemsOf_iff.1 hedges, h.longestEdges, h.longestServices⟩
  · rintro ⟨loaded, hloaded, hservices, hedges, hlastEdges, hlastServices⟩
    exact ⟨⟨loaded, readJsonFile_some_iff.1 hloaded, itemsOf_iff.2 hservices,
      itemsOf_iff.2 hedges⟩, hlastEdges, hlastServices⟩

theorem TopologyRead.fileReadable {file : Option Bytes} {services edges keptServices keptEdges :
    List Value} (h : TopologyRead r file services edges keptServices keptEdges) :
    FileReadable r file := by
  obtain ⟨loaded, hreads, -⟩ := h.reads
  exact hreads.fileReadable

theorem TopologyRead.unique {file : Option Bytes} {services edges keptServices keptEdges
    services' edges' keptServices' keptEdges' : List Value}
    (h : TopologyRead r file services edges keptServices keptEdges)
    (h' : TopologyRead r file services' edges' keptServices' keptEdges') :
    (services = services' ∧ edges = edges') ∧
      keptServices = keptServices' ∧ keptEdges = keptEdges' := by
  obtain ⟨loaded, hread, rfl, rfl, hedges, hservices⟩ := topologyRead_iff.1 h
  obtain ⟨other, hread', rfl, rfl, hedges', hservices'⟩ := topologyRead_iff.1 h'
  obtain rfl : loaded = other := by
    injection Option.some.inj (Except.ok.inj (hread.symm.trans hread'))
  obtain rfl := hedges.unique hedges'
  exact ⟨⟨rfl, rfl⟩, hservices.unique hservices', rfl⟩

theorem Halts.of_textless {payload last : Dict} (h : Halts payload last)
    (hnone : widest payload = none) : last = payload := by
  rcases h.1.cases_head with hsame | ⟨after, hstep, -⟩
  · exact hsame.symm
  · simp [shrinkOnce, hnone] at hstep

theorem edgesKept_textless (services edges kept : List Value) :
    widest (edgesKept services edges kept) = none := by
  refine widest_none_of_weight ?_
  rw [edgesKept, keeping]
  split <;> rfl

theorem edgesKept_keyed (services edges kept : List Value) :
    WellKeyed (edgesKept services edges kept) :=
  keeping_keyed (topologyPayload_keyed _ _)

theorem topologyTrim_raises {loaded : Dict} {raised : Raised}
    (h : topologyTrim r loaded = .error raised) : raised = .recursionError := by
  simp only [topologyTrim] at h
  split at h
  · rename_i hfirst
    rw [← Except.error.inj h]
    exact trimToBytes_raises hfirst
  · exact trimToBytes_raises h

theorem topologyTrim_kept {loaded trimmed : Dict} (h : topologyTrim r loaded = .ok trimmed) :
    ∃ keptServices keptEdges,
      LongestSuffix (fun rows => fits (edgesKept (listOf loaded (text "services"))
        (listOf loaded (text "edges")) rows) = true) (listOf loaded (text "edges")) keptEdges ∧
      TrimmedTo (edgesKept (listOf loaded (text "services")) (listOf loaded (text "edges"))
        keptEdges) trimmed (text "services") (text "service_count")
        (listOf loaded (text "services")) keptServices := by
  simp only [topologyTrim] at h
  split at h
  · cases h
  rename_i first hfirst
  obtain ⟨keptEdges, hedges⟩ := trimmedTo_of_ok (topologyPayload_keyed _ _) edgeKeys.own hfirst
  have hsame : first = edgesKept _ _ keptEdges :=
    hedges.halts.of_textless (edgesKept_textless _ _ _)
  rw [hsame] at h
  obtain ⟨keptServices, hservices⟩ :=
    trimmedTo_of_ok (edgesKept_keyed _ _ _) serviceKeys.own h
  exact ⟨keptServices, keptEdges, hedges.longestSuffix, hservices⟩

theorem topologyTrim_ok_iff (loaded : Dict) :
    (∃ trimmed, topologyTrim r loaded = .ok trimmed) ↔
      r.encodable (.arr (listOf loaded (text "services"))) = true ∧
        r.encodable (.arr (listOf loaded (text "edges"))) = true := by
  have hfirst : (∃ first, trimToBytes r (topologyPayload (listOf loaded (text "services"))
      (listOf loaded (text "edges"))) (text "edges") (text "edge_count")
      (listOf loaded (text "edges")) = .ok first) ↔
        r.encodable (.arr (listOf loaded (text "services"))) = true ∧
          r.encodable (.arr (listOf loaded (text "edges"))) = true := by
    rw [trim_ok_iff, all_withRows (topologyPayload_keyed _ _) (by decide), and_comm,
      and_congr_left_iff]
    intro hedges
    constructor
    · exact fun h => h (text "services") _ (by decide) (by decide) rfl
    · intro h key value hrows hcount hget
      have hmem := mem_of_get hget
      simp only [topologyPayload, List.mem_cons, Prod.mk.injEq, List.not_mem_nil, or_false] at hmem
      rcases hmem with ⟨-, rfl⟩ | ⟨-, rfl⟩ | ⟨hkey, -⟩ | ⟨-, rfl⟩ | ⟨-, rfl⟩
      · exact h
      · exact r.encodableFlat _ rfl
      · exact absurd hkey hrows
      · exact r.encodableFlat _ rfl
      · exact r.encodableFlat _ rfl
  rw [← hfirst]
  simp only [topologyTrim]
  split
  · rename_i raised hraised
    refine iff_of_false (by rintro ⟨trimmed, h⟩; cases h) ?_
    rintro ⟨first, h⟩
    rw [hraised] at h
    cases h
  · rename_i first hok
    refine iff_of_true ?_ ⟨first, hok⟩
    have hboth := hfirst.1 ⟨first, hok⟩
    obtain ⟨keptEdges, hedges⟩ := trimmedTo_of_ok (topologyPayload_keyed _ _) edgeKeys.own hok
    have hsame : first = edgesKept _ _ keptEdges :=
      hedges.halts.of_textless (edgesKept_textless _ _ _)
    rw [hsame, trim_ok_iff, all_withRows (edgesKept_keyed _ _ _) (by decide)]
    refine ⟨hboth.1, fun key value hrows hcount hget => ?_⟩
    rw [edgesKept, get_keeping] at hget
    split at hget
    · rw [← Option.some.inj hget]
      exact r.encodableFlat _ rfl
    split at hget
    · rw [← Option.some.inj hget]
      exact r.encodableSuffix _ _ hedges.suffix hboth.2
    split at hget
    · rw [← Option.some.inj hget]
      exact r.encodableFlat _ rfl
    · rename_i hcount' hrows' _
      have hmem := mem_of_get hget
      simp only [topologyPayload, List.mem_cons, Prod.mk.injEq, List.not_mem_nil, or_false] at hmem
      rcases hmem with ⟨hkey, -⟩ | ⟨-, rfl⟩ | ⟨hkey, -⟩ | ⟨-, rfl⟩ | ⟨-, rfl⟩
      · exact absurd hkey hrows
      · exact r.encodableFlat _ rfl
      · exact absurd hkey.symm hrows'
      · exact r.encodableFlat _ rfl
      · exact r.encodableFlat _ rfl

section Services

variable {services edges keptServices keptEdges : List Value} {trimmed : Dict}
  (h : TrimmedTo (edgesKept services edges keptEdges) trimmed (text "services")
    (text "service_count") services keptServices)

include h

theorem servicesTrim_edges : get trimmed (text "edges") = some (.arr keptEdges) := by
  have hget : get (edgesKept services edges keptEdges) (text "edges") =
      some (.arr keptEdges) := by
    rw [edgesKept, get_keeping, if_neg (by decide), if_pos rfl]
  rw [h.others (text "edges") (by decide) (by decide) (by decide) (by simp [hget]), hget]

theorem servicesTrim_count : get trimmed (text "edge_count") = some (.int keptEdges.length) := by
  have hget : get (edgesKept services edges keptEdges) (text "edge_count") =
      some (.int keptEdges.length) := by
    rw [edgesKept, get_keeping, if_pos rfl]
  rw [h.others (text "edge_count") (by decide) (by decide) (by decide) (by simp [hget]), hget]

end Services

theorem runTopologyCheck_run (r : Runtime) (file : Option Bytes) (durationMs : ℤ) :
    TopologyRun r file durationMs (runTopologyCheck r file durationMs) := by
  cases hread : readJsonFile r file with
  | error raised =>
      simp only [runTopologyCheck, hread]
      refine .raises _ (by rw [readJsonFile_raises hread]; decide) fun h => ?_
      obtain ⟨value, hvalue⟩ := (readJsonFile_ok_iff file).2 h.loads
      rw [hread] at hvalue
      cases hvalue
  | ok value =>
      have hfile := (readJsonFile_ok_iff file).1 ⟨value, hread⟩
      by_cases hdict : ∃ loaded, value = some (.obj loaded)
      swap
      · have hnone : ¬ ∃ loaded, Reads r file (.obj loaded) := by
          rintro ⟨loaded, hloaded⟩
          rw [← readJsonFile_some_iff, hread] at hloaded
          exact hdict ⟨loaded, Except.ok.inj hloaded⟩
        rw [runTopologyCheck_failed durationMs hread hdict,
          failedCheck_ok r _ _ _ (by decide) (by decide)]
        exact .missing ⟨hfile, fun _ _ _ _ h =>
          absurd (h.reads.imp fun _ hreads => hreads.1) hnone⟩ hnone
      obtain ⟨loaded, rfl⟩ := hdict
      cases htrimmed : topologyTrim r loaded with
      | error raised =>
          rw [runTopologyCheck_error durationMs hread htrimmed]
          refine .raises _ (by rw [topologyTrim_raises htrimmed]; decide) fun h => ?_
          obtain ⟨keptEdges, hedges⟩ := Selection.exists_longestSuffix (fun rows => fits
            (edgesKept (listOf loaded (text "services")) (listOf loaded (text "edges")) rows) =
              true) (listOf loaded (text "edges"))
          obtain ⟨keptServices, hservices⟩ := Selection.exists_longestSuffix (fun rows => fits
            (servicesKept (listOf loaded (text "services")) (listOf loaded (text "edges"))
              keptEdges rows) = true) (listOf loaded (text "services"))
          obtain ⟨trimmed, hok⟩ := (topologyTrim_ok_iff loaded).2 (h.rows _ _ _ _
            (topologyRead_iff.2 ⟨loaded, hread, rfl, rfl, hedges, hservices⟩)).1
          rw [hok] at htrimmed
          cases htrimmed
      | ok trimmed =>
          obtain ⟨keptServices, keptEdges, hedges, hservices⟩ := topologyTrim_kept htrimmed
          have hkept := topologyRead_iff.2
            ⟨loaded, hread, rfl, rfl, hedges, hservices.longestSuffix⟩
          have hserviceRows : rowsOf trimmed (text "services") = keptServices := by
            simp only [rowsOf, hservices.rowsNow]
          have hedgeRows : rowsOf trimmed (text "edges") = keptEdges := by
            simp only [rowsOf, servicesTrim_edges hservices]
          rw [runTopologyCheck_eq r durationMs hread htrimmed, if_pos (topology_fits htrimmed),
            hserviceRows, hedgeRows]
          split
          · rename_i haccepts
            refine .executed ⟨hfile, fun services edges keptServices' keptEdges' h => ?_⟩ hkept
              hservices (topology_fits htrimmed)
            obtain ⟨⟨rfl, rfl⟩, rfl, rfl⟩ := hkept.unique h
            exact ⟨(topologyTrim_ok_iff loaded).1 ⟨trimmed, htrimmed⟩,
              Bool.and_eq_true_iff.1 haccepts⟩
          · rename_i hrefused
            exact .raises _ (by decide) fun h =>
              hrefused (Bool.and_eq_true_iff.2 (h.rows _ _ _ _ hkept).2)

end Topology

section Metrics

variable (r : Runtime) (arguments : MetricArguments) (incidentId : Text)

/-- The readings that a body answers with, and the samples that are kept of them. -/
structure MetricRead (response : Response) (values : List Value) (series : ℕ)
    (kept : List (Double × Double)) : Prop where
  reads : ∃ bytes t answered, response = .body bytes ∧ decodeUtf8 bytes = some t ∧
    r.loads t = .ok answered ∧ Answers answered values series
  longest : MetricKept r arguments incidentId (readSamples r values series) kept

/-- An answer that is whole, and a body that is UTF-8 and on which `json.loads` raises nothing
but `JSONDecodeError`. -/
def MetricReadable (response : Response) : Prop :=
  safeServiceName arguments.service = true → response ≠ .brokenOff ∧
    ∀ bytes, response = .body bytes →
      ∃ t, decodeUtf8 bytes = some t ∧ r.loads t ≠ .error .value ∧ r.loads t ≠ .error .recursion

inductive MetricRun (response : Response) (durationMs : ℤ) : Except Raised CheckOutcome → Prop
  | raises (raised : Raised) (h : ¬ MetricReadable r arguments response) :
      MetricRun response durationMs (.error raised)
  | failed (h : MetricReadable r arguments response) (outcome : CheckOutcome)
      (hfailed : outcome.outcome ≠ .executed) (hcoded : outcome.reasonCode ≠ none)
      (hnone : safeServiceName arguments.service = true →
        ∀ values series kept, ¬ MetricRead r arguments incidentId response values series kept) :
      MetricRun response durationMs (.ok outcome)
  | executed {values : List Value} {series : ℕ} {kept : List (Double × Double)} {trimmed : Dict}
      (h : MetricReadable r arguments response)
      (hsafe : safeServiceName arguments.service = true)
      (hread : MetricRead r arguments incidentId response values series kept)
      (htrimmed : metricTrim r arguments incidentId (readSamples r values series) = .ok trimmed)
      (htrims : TrimmedTo (metricPayload r arguments incidentId (readSamples r values series)
        (metricTail (readSamples r values series))) trimmed (text "samples")
        (text "sample_count") ((metricTail (readSamples r values series)).map sampleRow)
        (kept.map sampleRow)) :
      MetricRun response durationMs (.ok ⟨.executed, .metric, text "query_metric",
        metricSummary arguments (readSamples r values series) (metricReport trimmed)
          (peak (readingsOf trimmed)), metricReport trimmed, none, durationMs⟩)

variable {r arguments incidentId}

theorem queryPrometheus_ok_iff (bytes : Bytes) :
    (∃ parsed, queryPrometheus r bytes = .ok parsed) ↔
      ∃ t, decodeUtf8 bytes = some t ∧ r.loads t ≠ .error .value ∧
        r.loads t ≠ .error .recursion := by
  simp only [queryPrometheus]
  cases hdecode : decodeUtf8 bytes with
  | none => simp
  | some t =>
      dsimp only
      cases hloads : r.loads t with
      | ok value => simp [hloads]
      | error error => cases error <;> simp [hloads]

theorem queryPrometheus_some_iff {bytes : Bytes} {parsed : ParsedSamples} :
    queryPrometheus r bytes = .ok (some parsed) ↔
      ∃ t answered values series, decodeUtf8 bytes = some t ∧ r.loads t = .ok answered ∧
        Answers answered values series ∧ parsed = readSamples r values series := by
  simp only [queryPrometheus]
  cases hdecode : decodeUtf8 bytes with
  | none => simp
  | some t =>
      dsimp only
      cases hloads : r.loads t with
      | error error => cases error <;> simp [hloads]
      | ok answered =>
          rw [Except.ok.injEq, parseSamples_iff]
          constructor
          · rintro ⟨values, series, h⟩
            exact ⟨t, answered, values, series, rfl, hloads, h⟩
          · rintro ⟨t', answered', values, series, ht, hloads', h⟩
            rw [← Option.some.inj ht, hloads] at hloads'
            rw [Except.ok.inj hloads']
            exact ⟨values, series, h⟩

section Answered

variable {response : Response} {values values' : List Value} {series series' : ℕ}
  {kept kept' : List (Double × Double)}

theorem MetricRead.parsed (h : MetricRead r arguments incidentId response values series kept) :
    ∃ bytes, queryPrometheus r bytes = .ok (some (readSamples r values series)) := by
  obtain ⟨bytes, t, answered, -, ht, hloads, hanswers⟩ := h.reads
  exact ⟨bytes, queryPrometheus_some_iff.2 ⟨t, answered, values, series, ht, hloads, hanswers,
    rfl⟩⟩

theorem MetricRead.readable (h : MetricRead r arguments incidentId response values series kept) :
    MetricReadable r arguments response := by
  obtain ⟨bytes, t, answered, rfl, ht, hloads, -⟩ := h.reads
  refine fun _ => ⟨by simp, fun other hother => ?_⟩
  obtain rfl := Response.body.inj hother
  exact ⟨t, ht, by simp [hloads], by simp [hloads]⟩

theorem Answers.unique {answered : Value} (h : Answers answered values series)
    (h' : Answers answered values' series') : values = values' ∧ series = series' := by
  cases h with
  | none _ hdata hresult =>
      cases h' with
      | none _ _ _ => exact ⟨rfl, rfl⟩
      | series _ hdata' hresult' _ =>
          rw [hdata] at hdata'
          obtain rfl := Value.obj.inj (Option.some.inj hdata')
          rw [hresult] at hresult'
          cases Option.some.inj hresult'
  | series _ hdata hresult hvalues =>
      cases h' with
      | none _ hdata' hresult' =>
          rw [hdata] at hdata'
          obtain rfl := Value.obj.inj (Option.some.inj hdata')
          rw [hresult] at hresult'
          cases Option.some.inj hresult'
      | series _ hdata' hresult' hvalues' =>
          rw [hdata] at hdata'
          obtain rfl := Value.obj.inj (Option.some.inj hdata')
          rw [hresult] at hresult'
          obtain ⟨hfirst, rfl⟩ := List.cons.inj (Value.arr.inj (Option.some.inj hresult'))
          obtain rfl := Value.obj.inj hfirst
          exact ⟨(itemsOf_iff.1 hvalues).trans (itemsOf_iff.1 hvalues').symm, rfl⟩

theorem MetricRead.unique (h : MetricRead r arguments incidentId response values series kept)
    (h' : MetricRead r arguments incidentId response values' series' kept') :
    (values = values' ∧ series = series') ∧ kept = kept' := by
  obtain ⟨bytes, t, answered, rfl, ht, hloads, hanswers⟩ := h.reads
  obtain ⟨bytes', t', answered', hsame, ht', hloads', hanswers'⟩ := h'.reads
  obtain rfl := Response.body.inj hsame
  rw [ht] at ht'
  obtain rfl := Option.some.inj ht'
  rw [hloads] at hloads'
  obtain rfl := Except.ok.inj hloads'
  obtain ⟨rfl, rfl⟩ := hanswers.unique hanswers'
  exact ⟨⟨rfl, rfl⟩, h.longest.unique h'.longest⟩

end Answered

theorem runMetricCheck_run (r : Runtime) (arguments : MetricArguments)
    (incidentId : { t : Text // encodes t = true }) (response : Response) (durationMs : ℤ) :
    MetricRun r arguments incidentId.1 response durationMs
      (runMetricCheck r arguments incidentId response durationMs) := by
  by_cases hsafe : safeServiceName arguments.service = true
  swap
  · simp only [runMetricCheck, hsafe]
    rw [Bool.not_false, if_pos rfl, failedCheck_ok r _ _ _ (by decide) (by decide)]
    exact .failed (fun h => absurd h hsafe) _ (by decide) (by decide) fun h => absurd h hsafe
  cases response with
  | timedOut =>
      simp only [runMetricCheck, hsafe]
      rw [Bool.not_true, if_neg (by decide), failedCheck_ok r _ _ _ (by decide) (by decide)]
      refine .failed (fun _ => ⟨by simp, fun bytes h => (by cases h)⟩) _ (by decide) (by decide) ?_
      rintro - values series kept ⟨⟨bytes, t, answered, h, -⟩, -⟩
      cases h
  | unreachable =>
      simp only [runMetricCheck, hsafe]
      rw [Bool.not_true, if_neg (by decide), failedCheck_ok r _ _ _ (by decide) (by decide)]
      refine .failed (fun _ => ⟨by simp, fun bytes h => (by cases h)⟩) _ (by decide) (by decide) ?_
      rintro - values series kept ⟨⟨bytes, t, answered, h, -⟩, -⟩
      cases h
  | brokenOff =>
      simp only [runMetricCheck, hsafe]
      rw [Bool.not_true, if_neg (by decide)]
      exact .raises _ fun h => (h hsafe).1 rfl
  | body bytes =>
      have hreadable : MetricReadable r arguments (.body bytes) ↔
          ∃ parsed, queryPrometheus r bytes = .ok parsed := by
        rw [queryPrometheus_ok_iff]
        constructor
        · exact fun h => (h hsafe).2 bytes rfl
        · refine fun h _ => ⟨by simp, fun other hother => ?_⟩
          rwa [← Response.body.inj hother]
      cases hparsed : queryPrometheus r bytes with
      | error raised =>
          simp only [runMetricCheck, hsafe, hparsed]
          rw [Bool.not_true, if_neg (by decide)]
          refine .raises _ fun h => ?_
          obtain ⟨parsed, h⟩ := hreadable.1 h
          rw [hparsed] at h
          cases h
      | ok answer =>
          cases answer with
          | none =>
              simp only [runMetricCheck, hsafe, hparsed]
              rw [Bool.not_true, if_neg (by decide),
                failedCheck_ok r _ _ _ (by decide) (by decide)]
              refine .failed (hreadable.2 ⟨_, hparsed⟩) _ (by decide) (by decide) ?_
              rintro - values series kept ⟨⟨other, t, answered, hsame, ht, hloads, hanswers⟩, -⟩
              obtain rfl := Response.body.inj hsame
              rw [queryPrometheus_some_iff.2 ⟨t, answered, values, series, ht, hloads, hanswers,
                rfl⟩] at hparsed
              simp at hparsed
          | some parsed =>
              obtain ⟨t, answered, values, series, ht, hloads, hanswers, rfl⟩ :=
                queryPrometheus_some_iff.1 hparsed
              obtain ⟨trimmed, -, htrimmed, -, -⟩ :=
                metricTrims r arguments incidentId.1 (readSamples r values series)
              obtain ⟨kept, hkept, htrims⟩ := metricKept_of_trim htrimmed
              rw [runMetricCheck_eq r arguments durationMs hsafe hparsed htrimmed]
              exact .executed (hreadable.2 ⟨_, hparsed⟩) hsafe
                ⟨⟨bytes, t, answered, rfl, ht, hloads, hanswers⟩, hkept⟩ htrimmed htrims

end Metrics

end CausalOps.Telemetry
