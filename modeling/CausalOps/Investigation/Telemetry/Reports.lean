import CausalOps.Investigation.Telemetry.Trimmed

set_option autoImplicit false

/-! What each backend reports, once it has read what it reads: one equation for each,
with the trimmed payload and the rows that it keeps. -/

namespace CausalOps.Telemetry

open Loaded

section Texts

variable {r : Runtime}

theorem encodes_intercalate {separator : Text} {texts : List Text}
    (hseparator : encodes separator = true) (htexts : ∀ t ∈ texts, encodes t = true) :
    encodes (List.intercalate separator texts) = true := by
  induction texts with
  | nil => rfl
  | cons first rest ih =>
      have hfirst := htexts first List.mem_cons_self
      have hrest := ih fun t ht => htexts t (List.mem_cons_of_mem _ ht)
      cases rest with
      | nil => rwa [List.intercalate_singleton]
      | cons second rest =>
          rw [List.intercalate_cons_cons, encodes_append, encodes_append, hfirst, hseparator, hrest]
          rfl

theorem encodes_textsOf {rows : List Value} (haccepts : r.accepts (.arr rows) = true)
    (key : Text) : ∀ t ∈ textsOf key rows, encodes t = true := by
  intro t ht
  obtain ⟨row, hrow, hfound⟩ := List.mem_filterMap.1 ht
  have hvalid := r.acceptsItems rows haccepts row hrow
  cases row with
  | obj record =>
      dsimp only at hfound
      split at hfound
      · rename_i own hget
        obtain rfl := Option.some.inj hfound
        have hentry := (r.acceptsEntries record hvalid _ (mem_of_get hget)).2
        rwa [r.acceptsText] at hentry
      · cases hfound
  | _ => cases hfound

theorem encodes_eventCodes {rows : List Value} (haccepts : r.accepts (.arr rows) = true) :
    encodes (eventCodes rows) = true :=
  encodes_intercalate (by decide) fun t ht =>
    encodes_textsOf haccepts (text "event") t (List.mem_dedup.1 (List.mem_mergeSort.1 ht))

theorem encodes_joined {rows : List Value} (haccepts : r.accepts (.arr rows) = true)
    (key : Text) : encodes (joined (textsOf key rows)) = true :=
  encodes_intercalate (by decide) (encodes_textsOf haccepts key)

theorem encodes_keptNote (payload : Dict) (countKey : Text) (matched : ℕ) :
    encodes (keptNote payload countKey matched) = true := by
  unfold keptNote
  split
  · simp only [encodes_append, encodes_decimalInt, encodes_decimal, Bool.and_true]
    decide
  · rfl

theorem failedCheck_ok (r : Runtime) (kind : CausalOps.Investigation.EvidenceKind)
    {source note : Text} (outcome : CausalOps.Investigation.ToolOutcome)
    (reason : CausalOps.Investigation.ReasonCode) (hsource : encodes source = true)
    (hnote : encodes note = true) :
    failedCheck r kind source outcome reason note =
      .ok ⟨outcome, kind, source, note, [], some reason, 0⟩ := by
  simp [failedCheck, checkOutcome, hsource, hnote]

theorem executedCheck_eq {kind : CausalOps.Investigation.EvidenceKind} {source summary : Text}
    {payload : Dict} {durationMs : ℤ} {accepted : Bool} (hsource : encodes source = true)
    (hsummary : accepted = true → encodes summary = true)
    (hall : payload.all (fun entry => encodes entry.1 && r.accepts entry.2) = accepted) :
    executedCheck r kind source summary payload durationMs =
      if accepted = true then .ok ⟨.executed, kind, source, summary, payload, none, durationMs⟩
      else .error .validationError := by
  cases accepted with
  | true => simp only [executedCheck, checkOutcome, hsource, hsummary rfl, hall, Bool.and_self]
  | false =>
      simp only [executedCheck, checkOutcome, hall, Bool.and_false, if_neg Bool.false_ne_true]

theorem accepted_rows {payload : Dict} {key : Text} {rows : List Value}
    (hkeyed : WellKeyed payload)
    (hclean : r.accepts (.arr rows) = true → Clean r [key] payload)
    (hget : get payload key = some (.arr rows)) :
    payload.all (fun entry => encodes entry.1 && r.accepts entry.2) = r.accepts (.arr rows) := by
  refine accepted_eq hkeyed hclean ?_ fun hrefused => ⟨_, mem_of_get hget, hrefused⟩
  intro haccepts other hother value hvalue
  obtain rfl := List.mem_singleton.1 hother
  rw [hget] at hvalue
  rwa [← Option.some.inj hvalue]

end Texts

section Logs

variable (r : Runtime) (arguments : LogArguments)

theorem logPayload_keyed (rows : List Value) (matched : ℕ) :
    WellKeyed (logPayload arguments rows matched) := by
  simp only [WellKeyed, logPayload, List.map_cons, List.map_nil]
  decide

theorem logPayload_clean (rows : List Value) (matched : ℕ) :
    Clean r [text "rows"] (logPayload arguments rows matched) := by
  have hfilter : encodes (text arguments.logFilter.value) = true := by
    cases arguments.logFilter <;> decide
  simp only [Clean, logPayload, List.forall_mem_cons, List.not_mem_nil, false_imp_iff,
    implies_true, r.acceptsText, r.acceptsInt, r.acceptsBool, hfilter, arguments.serviceEncodes,
    and_true, or_true]
  decide

theorem logKeys : CallerKeys (text "rows") (text "row_count") :=
  ⟨by decide, by decide, by decide, by decide, by decide⟩

def logTail (matched : List Value) : List Value := newest (min arguments.rowLimit maxLogRows) matched

def logTrim (matched : List Value) : Except Raised Dict :=
  trimToBytes r (logPayload arguments (logTail arguments matched) matched.length) (text "rows")
    (text "row_count") (logTail arguments matched)

def logReport (trimmed : Dict) : Dict :=
  set trimmed (text "event_codes") (.str (eventCodes (rowsOf trimmed (text "rows"))))

theorem logTrim_ok_iff (matched : List Value) :
    (∃ trimmed, logTrim r arguments matched = .ok trimmed) ↔
      r.encodable (.arr (logTail arguments matched)) = true :=
  trim_ok_iff_rows (logPayload_keyed arguments _ _) (by decide) rfl

theorem runLogsCheck_file {file : Option Bytes} {durationMs : ℤ}
    (hname : r.nameFits (logFileName arguments) = true) :
    runLogsCheck r arguments file durationMs =
      match file with
      | none =>
          failedCheck r .log (text "query_logs") .unavailable .toolUnavailable
            (text "no log for " ++ arguments.service ++ text " in this run")
      | some bytes =>
          match logRows r arguments (lines bytes) with
          | .error raised => .error raised
          | .ok matched =>
              match logTrim r arguments matched with
              | .error raised => .error raised
              | .ok trimmed =>
                  executedCheck r .log (text "query_logs")
                    (logSummary arguments (logReport trimmed) matched.length) (logReport trimmed)
                    durationMs := by
  unfold runLogsCheck
  rw [hname]
  rfl

theorem runLogsCheck_eq {bytes : Bytes} {matched : List Value} {trimmed : Dict} (durationMs : ℤ)
    (hname : r.nameFits (logFileName arguments) = true)
    (hmatched : logRows r arguments (lines bytes) = .ok matched)
    (htrimmed : logTrim r arguments matched = .ok trimmed) :
    runLogsCheck r arguments (some bytes) durationMs =
      if r.accepts (.arr (rowsOf trimmed (text "rows"))) = true then
        .ok ⟨.executed, .log, text "query_logs",
          logSummary arguments (logReport trimmed) matched.length, logReport trimmed, none,
          durationMs⟩
      else .error .validationError := by
  obtain ⟨kept, htrims⟩ := trims_of_ok (logPayload_keyed arguments _ _) logKeys htrimmed
  have hrows : rowsOf trimmed (text "rows") = kept := by
    simp only [rowsOf, htrims.rowsNow]
  have hget : get (logReport trimmed) (text "rows") = some (.arr kept) := by
    rw [logReport, get_set, if_neg (by decide), htrims.rowsNow]
  have hrun : runLogsCheck r arguments (some bytes) durationMs =
      executedCheck r .log (text "query_logs")
        (logSummary arguments (logReport trimmed) matched.length) (logReport trimmed)
        durationMs := by
    rw [runLogsCheck_file r arguments hname]
    simp only [hmatched, htrimmed]
  rw [hrun, hrows]
  refine executedCheck_eq (by decide) ?_ (accepted_rows (htrims.keyed.set _ _) ?_ hget)
  · intro haccepts
    have hcodes : encodes (textOf (logReport trimmed) (text "event_codes")) = true := by
      simp only [textOf, logReport, get_set, if_true, hrows]
      exact encodes_eventCodes haccepts
    have hfilter : encodes (text arguments.logFilter.value) = true := by
      cases arguments.logFilter <;> decide
    have hshown : encodes (if textOf (logReport trimmed) (text "event_codes") = [] then
        text "none" else textOf (logReport trimmed) (text "event_codes")) = true := by
      split
      · decide
      · exact hcodes
    simp only [logSummary, encodes_append, hfilter, arguments.serviceEncodes, encodes_decimalInt,
      hshown, encodes_keptNote, Bool.and_true]
    decide
  · intro haccepts
    rw [logReport, hrows]
    refine (htrims.clean _ (by simp) (logPayload_clean r arguments _ _)).set (by decide) (Or.inr ?_)
    rw [r.acceptsText]
    exact encodes_eventCodes haccepts

end Logs

section Changes

variable (r : Runtime) (arguments : ChangeArguments)

theorem changePayload_keyed (changes : List Value) (summaries : Text) :
    WellKeyed (changePayload arguments changes summaries) := by
  simp only [WellKeyed, changePayload, List.map_cons, List.map_nil]
  decide

theorem changeKeys : CallerKeys (text "changes") (text "change_count") :=
  ⟨by decide, by decide, by decide, by decide, by decide⟩

/-- The changes of the service within the window, as the file has them. -/
def foundChanges (loaded : List Value) : List Value := loaded.filter (isChange r arguments)

def sortedChanges (loaded : List Value) : List Value :=
  (foundChanges r arguments loaded).mergeSort fun a b =>
    decide (changeMoment r a ≤ changeMoment r b)

def changeTrim (loaded : List Value) : Except Raised Dict :=
  trimToBytes r (changePayload arguments (sortedChanges r arguments loaded)
    (joined (textsOf (text "summary") (foundChanges r arguments loaded)))) (text "changes")
    (text "change_count") (sortedChanges r arguments loaded)

def changeReport (trimmed : Dict) : Dict :=
  set trimmed (text "summaries")
    (.str (joined (textsOf (text "summary") (rowsOf trimmed (text "changes")))))

theorem changePayload_clean (changes : List Value) (summaries : Text) :
    Clean r [text "changes", text "summaries"] (changePayload arguments changes summaries) := by
  have hfree : text "summaries" ∈ [text "changes", text "summaries"] := by decide
  simp only [Clean, changePayload, List.forall_mem_cons, List.not_mem_nil, false_imp_iff,
    implies_true, r.acceptsText, r.acceptsInt, r.acceptsBool, arguments.serviceEncodes,
    hfree, and_true, or_true, true_or]
  decide

theorem encodes_take {t : Text} (h : encodes t = true) (n : ℕ) : encodes (t.take n) = true :=
  encodes_of_subset (fun _ hc => List.mem_of_mem_take hc) h

theorem encodes_drop {t : Text} (h : encodes t = true) (n : ℕ) : encodes (t.drop n) = true :=
  encodes_of_subset (fun _ hc => List.mem_of_mem_drop hc) h

theorem encodes_changeContent {summaries : Text} (h : encodes summaries = true) (budget : ℤ) :
    encodes (changeContent summaries budget) = true := by
  unfold changeContent
  split
  · rfl
  split
  · exact h
  split
  · rw [encodes_append, encodes_drop h]
    decide
  · rfl

theorem encodes_clamped {summary : Text} (h : encodes summary = true) :
    encodes (if 400 < summary.length then summary.take 397 ++ text "..." else summary) = true := by
  split
  · rw [encodes_append, encodes_take h]
    decide
  · exact h

theorem encodes_changeSummary {payload : Dict} (matched : ℕ)
    (h : encodes (textOf payload (text "summaries")) = true) :
    encodes (changeSummary arguments payload matched) = true := by
  have hheading : encodes (decimalInt (countOf payload (text "change_count")) ++
      text " recent changes on " ++ arguments.service ++
      keptNote payload (text "change_count") matched) = true := by
    simp only [encodes_append, encodes_decimalInt, arguments.serviceEncodes, encodes_keptNote,
      Bool.and_true]
    decide
  have hcontent : ∀ budget, encodes (if changeContent (textOf payload (text "summaries")) budget
      = [] then [] else text ": " ++ changeContent (textOf payload (text "summaries")) budget) =
        true := by
    intro budget
    split
    · rfl
    · rw [encodes_append, encodes_changeContent h]
      decide
  exact encodes_clamped (by rw [encodes_append, hheading, hcontent, Bool.and_self])

theorem runChangesCheck_eq {file : Option Bytes} {loaded : List Value} {trimmed : Dict}
    (durationMs : ℤ) (hread : readJsonFile r file = .ok (some (.arr loaded)))
    (htrimmed : changeTrim r arguments loaded = .ok trimmed) :
    runChangesCheck r arguments file durationMs =
      if fits (changeReport trimmed) = true then
        if r.accepts (.arr (rowsOf trimmed (text "changes"))) = true then
          .ok ⟨.executed, .change, text "list_recent_changes",
            changeSummary arguments (changeReport trimmed)
              (sortedChanges r arguments loaded).length, changeReport trimmed, none, durationMs⟩
        else .error .validationError
      else .error .assertionError := by
  obtain ⟨kept, htrims⟩ := trims_of_ok (changePayload_keyed arguments _ _) changeKeys htrimmed
  have hrows : rowsOf trimmed (text "changes") = kept := by
    simp only [rowsOf, htrims.rowsNow]
  have hget : get (changeReport trimmed) (text "changes") = some (.arr kept) := by
    rw [changeReport, get_set, if_neg (by decide), htrims.rowsNow]
  have hsummaries : get (changeReport trimmed) (text "summaries") =
      some (.str (joined (textsOf (text "summary") kept))) := by
    rw [changeReport, get_set, if_pos rfl, hrows]
  have hrun : runChangesCheck r arguments file durationMs =
      if fits (changeReport trimmed) = true then
        executedCheck r .change (text "list_recent_changes")
          (changeSummary arguments (changeReport trimmed)
            (sortedChanges r arguments loaded).length) (changeReport trimmed) durationMs
      else .error .assertionError := by
    simp only [changeTrim, sortedChanges, foundChanges] at htrimmed ⊢
    simp only [runChangesCheck, hread, htrimmed, changeReport]
    rfl
  rw [hrun, hrows]
  split
  · refine executedCheck_eq (by decide) ?_ (@accepted_eq r _
      [text "changes", text "summaries"] _ (htrims.keyed.set _ _) ?_ ?_ ?_)
    · intro haccepts
      refine encodes_changeSummary arguments _ ?_
      simp only [textOf, hsummaries]
      exact encodes_joined haccepts _
    · intro _ entry hmem
      rcases mem_set hmem with hold | rfl
      · exact htrims.clean _ (by simp) (changePayload_clean r arguments _ _) entry hold
      · exact ⟨(by decide : encodes (text "summaries") = true), Or.inl (by simp)⟩
    · intro haccepts key hkey value hvalue
      rcases List.mem_cons.1 hkey with rfl | hkey
      · rw [hget] at hvalue
        rwa [← Option.some.inj hvalue]
      · obtain rfl := List.mem_singleton.1 hkey
        rw [hsummaries] at hvalue
        rw [← Option.some.inj hvalue, r.acceptsText]
        exact encodes_joined haccepts _
    · exact fun hrefused => ⟨_, mem_of_get hget, hrefused⟩
  · rfl

theorem runChangesCheck_failed {r : Runtime} {arguments : ChangeArguments} {file : Option Bytes}
    {value : Option Value} (durationMs : ℤ) (hread : readJsonFile r file = .ok value)
    (hlist : ¬ ∃ loaded, value = some (.arr loaded)) :
    runChangesCheck r arguments file durationMs =
      failedCheck r .change (text "list_recent_changes") .unavailable .toolUnavailable
        (text "this run records no changes") := by
  simp only [runChangesCheck, hread]
  split
  · rename_i heq
    cases heq
  · rename_i loaded heq
    exact absurd ⟨loaded, Except.ok.inj heq⟩ hlist
  · rfl

end Changes

section Topology

variable (r : Runtime)

theorem topologyPayload_keyed (services edges : List Value) :
    WellKeyed (topologyPayload services edges) := by
  simp only [WellKeyed, topologyPayload, List.map_cons, List.map_nil]
  decide

theorem topologyPayload_clean (services edges : List Value) :
    Clean r [text "services", text "edges"] (topologyPayload services edges) := by
  have hservices : text "services" ∈ [text "services", text "edges"] := by decide
  have hedges : text "edges" ∈ [text "services", text "edges"] := by decide
  simp only [Clean, topologyPayload, List.forall_mem_cons, List.not_mem_nil, false_imp_iff,
    implies_true, r.acceptsInt, r.acceptsBool, hservices, hedges, and_true, or_true, true_or]
  decide

theorem edgeKeys : CallerKeys (text "edges") (text "edge_count") :=
  ⟨by decide, by decide, by decide, by decide, by decide⟩

theorem serviceKeys : CallerKeys (text "services") (text "service_count") :=
  ⟨by decide, by decide, by decide, by decide, by decide⟩

def topologyTrim (loaded : Dict) : Except Raised Dict :=
  let edges := listOf loaded (text "edges")
  let services := listOf loaded (text "services")
  match trimToBytes r (topologyPayload services edges) (text "edges") (text "edge_count") edges with
  | .error raised => .error raised
  | .ok first => trimToBytes r first (text "services") (text "service_count") services

structure TopologyTrims (loaded trimmed : Dict) (services edges : List Value) : Prop where
  keyed : WellKeyed trimmed
  servicesSuffix : services <:+ listOf loaded (text "services")
  edgesSuffix : edges <:+ listOf loaded (text "edges")
  servicesNow : get trimmed (text "services") = some (.arr services)
  edgesNow : get trimmed (text "edges") = some (.arr edges)
  edgeCount : get trimmed (text "edge_count") = some (.int edges.length)
  clean : Clean r [text "services", text "edges"] trimmed

theorem topologyTrims_of_ok {loaded trimmed : Dict} (h : topologyTrim r loaded = .ok trimmed) :
    ∃ services edges, TopologyTrims r loaded trimmed services edges := by
  simp only [topologyTrim] at h
  split at h
  · cases h
  · rename_i first hfirst
    obtain ⟨edges, hedges⟩ := trims_of_ok (topologyPayload_keyed _ _) edgeKeys hfirst
    obtain ⟨services, hservices⟩ := trims_of_ok hedges.keyed serviceKeys h
    refine ⟨services, edges, hservices.keyed, hservices.suffix, hedges.suffix, hservices.rowsNow,
      ?_, ?_, ?_⟩
    · exact hservices.others _ _ (by decide) (by decide) (by decide) rfl hedges.rowsNow
    · exact hservices.others _ _ (by decide) (by decide) (by decide) rfl hedges.countNow
    · exact hservices.clean _ (by simp)
        (hedges.clean _ (by simp) (topologyPayload_clean r _ _))

theorem runTopologyCheck_trim {file : Option Bytes} {loaded : Dict} (durationMs : ℤ)
    (hread : readJsonFile r file = .ok (some (.obj loaded))) :
    runTopologyCheck r file durationMs =
      match topologyTrim r loaded with
      | .error raised => .error raised
      | .ok trimmed =>
          if fits trimmed then
            executedCheck r .topology (text "get_topology") (topologySummary trimmed) trimmed
              durationMs
          else .error .assertionError := by
  simp only [runTopologyCheck, topologyTrim, hread]
  cases trimToBytes r (topologyPayload (listOf loaded (text "services"))
    (listOf loaded (text "edges"))) (text "edges") (text "edge_count")
    (listOf loaded (text "edges")) with
  | error raised => rfl
  | ok first => rfl

theorem runTopologyCheck_eq {file : Option Bytes} {loaded trimmed : Dict} (durationMs : ℤ)
    (hread : readJsonFile r file = .ok (some (.obj loaded)))
    (htrimmed : topologyTrim r loaded = .ok trimmed) :
    runTopologyCheck r file durationMs =
      if fits trimmed = true then
        if (r.accepts (.arr (rowsOf trimmed (text "services"))) &&
            r.accepts (.arr (rowsOf trimmed (text "edges")))) = true then
          .ok ⟨.executed, .topology, text "get_topology", topologySummary trimmed, trimmed, none,
            durationMs⟩
        else .error .validationError
      else .error .assertionError := by
  obtain ⟨services, edges, htrims⟩ := topologyTrims_of_ok r htrimmed
  have hservices : rowsOf trimmed (text "services") = services := by
    simp only [rowsOf, htrims.servicesNow]
  have hedges : rowsOf trimmed (text "edges") = edges := by
    simp only [rowsOf, htrims.edgesNow]
  have hrun : runTopologyCheck r file durationMs =
      if fits trimmed = true then
        executedCheck r .topology (text "get_topology") (topologySummary trimmed) trimmed durationMs
      else .error .assertionError := by
    rw [runTopologyCheck_trim r durationMs hread, htrimmed]
  have hsummary : encodes (topologySummary trimmed) = true := by
    simp only [topologySummary, encodes_append, encodes_decimalInt]
    split <;> decide
  rw [hrun, hservices, hedges]
  split
  · refine executedCheck_eq (by decide) (fun _ => hsummary) (@accepted_eq r _
      [text "services", text "edges"] _ htrims.keyed (fun _ => htrims.clean) ?_ ?_)
    · intro haccepts key hkey value hvalue
      obtain ⟨hleft, hright⟩ := Bool.and_eq_true_iff.1 haccepts
      rcases List.mem_cons.1 hkey with rfl | hkey
      · rw [htrims.servicesNow] at hvalue
        rwa [← Option.some.inj hvalue]
      · obtain rfl := List.mem_singleton.1 hkey
        rw [htrims.edgesNow] at hvalue
        rwa [← Option.some.inj hvalue]
    · intro hrefused
      rcases Bool.and_eq_false_iff.1 hrefused with hleft | hright
      · exact ⟨_, mem_of_get htrims.servicesNow, hleft⟩
      · exact ⟨_, mem_of_get htrims.edgesNow, hright⟩
  · rfl

theorem runTopologyCheck_failed {r : Runtime} {file : Option Bytes} {value : Option Value}
    (durationMs : ℤ) (hread : readJsonFile r file = .ok value)
    (hdict : ¬ ∃ loaded, value = some (.obj loaded)) :
    runTopologyCheck r file durationMs =
      failedCheck r .topology (text "get_topology") .unavailable .toolUnavailable
        (text "this run records no topology") := by
  simp only [runTopologyCheck, hread]
  split
  · rename_i heq
    cases heq
  · rename_i loaded heq
    exact absurd ⟨loaded, Except.ok.inj heq⟩ hdict
  · rfl

theorem runTopologyCheck_error {r : Runtime} {file : Option Bytes} {loaded : Dict}
    {raised : Raised} (durationMs : ℤ)
    (hread : readJsonFile r file = .ok (some (.obj loaded)))
    (htrimmed : topologyTrim r loaded = .error raised) :
    runTopologyCheck r file durationMs = .error raised := by
  rw [runTopologyCheck_trim r durationMs hread, htrimmed]

end Topology

section Metrics

variable (r : Runtime) (arguments : MetricArguments)

theorem encodes_safe {service : Text} (h : safeServiceName service = true) :
    encodes service = true := by
  have hname : ∀ name : Text, (match name with
      | [] => false
      | first :: rest => isLower first && rest.length ≤ 30 &&
          rest.all fun c => isLower c || (48 ≤ c && c ≤ 57) || c == 45) = true →
      ∀ c ∈ name, c < 0xD800 := by
    intro name hsafe c hc
    cases name with
    | nil => cases hc
    | cons first rest =>
        simp only [Bool.and_eq_true, List.all_eq_true, Bool.or_eq_true, decide_eq_true_eq,
          beq_iff_eq, isLower] at hsafe
        rcases List.mem_cons.1 hc with rfl | hrest
        · omega
        · have hsmall := hsafe.2 c hrest
          omega
  have hsmall := hname (if service.getLast? = some 10 then service.dropLast else service) h
  refine encodes_of_small fun c hc => ?_
  by_cases hlast : service.getLast? = some 10
  · rw [if_pos hlast] at hsmall
    have hsplit : service = service.dropLast ++ [10] := by
      have hne : service ≠ [] := by
        rintro rfl
        cases hlast
      have hten : service.getLast hne = 10 := by
        rw [List.getLast?_eq_some_getLast hne] at hlast
        exact Option.some.inj hlast
      rw [← hten, List.dropLast_append_getLast hne]
    rw [hsplit] at hc
    rcases List.mem_append.1 hc with hfirst | hten
    · exact hsmall c hfirst
    · rw [List.mem_singleton.1 hten]
      decide
  · rw [if_neg hlast] at hsmall
    exact hsmall c hc

theorem encodes_metricQuery {service incident : Text} (template : Investigation.MetricTemplate)
    (hservice : encodes service = true) (hincident : encodes incident = true) :
    encodes (metricQuery template service incident) = true := by
  have hlabels : encodes (labels service incident) = true := by
    simp only [labels, encodes_append, hservice, hincident, Bool.and_true]
    decide
  cases template <;> simp only [metricQuery, encodes_append, hlabels, Bool.and_true] <;> decide

theorem metricPayload_keyed (incidentId : Text) (parsed : ParsedSamples)
    (kept : List (Double × Double)) :
    WellKeyed (metricPayload r arguments incidentId parsed kept) := by
  simp only [WellKeyed, metricPayload, List.map_cons, List.map_nil]
  decide

theorem metricPayload_clean {incidentId : Text} (parsed : ParsedSamples)
    (kept : List (Double × Double)) (hservice : encodes arguments.service = true)
    (hincident : encodes incidentId = true) :
    Clean r [text "samples"] (metricPayload r arguments incidentId parsed kept) := by
  have htemplate : encodes (text arguments.template.value) = true := by
    cases arguments.template <;> decide
  have hstatus : encodes (text (sampleStatus parsed).value) = true := by
    cases sampleStatus parsed <;> decide
  have hquery := encodes_metricQuery arguments.template hservice hincident
  simp only [Clean, metricPayload, List.forall_mem_cons, List.not_mem_nil, false_imp_iff,
    implies_true, r.acceptsText, r.acceptsInt, r.acceptsBool, r.acceptsDouble,
    r.isoformatEncodes, htemplate, hstatus, hquery, hservice, and_true, or_true]
  decide

theorem sampleKeys : CallerKeys (text "samples") (text "sample_count") :=
  ⟨by decide, by decide, by decide, by decide, by decide⟩

def metricTail (parsed : ParsedSamples) : List (Double × Double) :=
  newest maxMetricSamples parsed.samples

def metricTrim (incidentId : Text) (parsed : ParsedSamples) : Except Raised Dict :=
  trimToBytes r (metricPayload r arguments incidentId parsed (metricTail parsed)) (text "samples")
    (text "sample_count") ((metricTail parsed).map sampleRow)

/-- A suffix of the rows of some samples is the rows of a suffix of them. -/
theorem suffix_rows {samples : List (Double × Double)} {rows : List Value}
    (h : rows <:+ samples.map sampleRow) :
    ∃ kept, kept <:+ samples ∧ rows = kept.map sampleRow := by
  have hdrop := List.suffix_iff_eq_drop.1 h
  refine ⟨samples.drop ((samples.map sampleRow).length - rows.length), List.drop_suffix _ _, ?_⟩
  rw [List.map_drop]
  exact hdrop

theorem metricTrims (incidentId : Text) (parsed : ParsedSamples) :
    ∃ trimmed kept, metricTrim r arguments incidentId parsed = .ok trimmed ∧
      kept <:+ metricTail parsed ∧
      Trims r (metricPayload r arguments incidentId parsed (metricTail parsed)) trimmed
        (text "samples") (text "sample_count") ((metricTail parsed).map sampleRow)
        (kept.map sampleRow) := by
  obtain ⟨trimmed, htrimmed⟩ : ∃ trimmed, metricTrim r arguments incidentId parsed = .ok trimmed :=
    (trim_ok_iff_rows (metricPayload_keyed r arguments _ _ _) (by decide) rfl).2
      (r.encodableSamples (metricTail parsed))
  obtain ⟨rows, htrims⟩ := trims_of_ok (metricPayload_keyed r arguments _ _ _) sampleKeys htrimmed
  obtain ⟨kept, hkept, rfl⟩ := suffix_rows htrims.suffix
  exact ⟨trimmed, kept, htrimmed, hkept, htrims⟩

def metricReport (trimmed : Dict) : Dict :=
  set trimmed (text "max_value") (.float (.finite (peak (readingsOf trimmed))))

theorem encodes_metricSummary (parsed : ParsedSamples) (payload : Dict) (highest : Double)
    (hservice : encodes arguments.service = true) :
    encodes (metricSummary arguments parsed payload highest) = true := by
  have htemplate : encodes (text arguments.template.value) = true := by
    cases arguments.template <;> decide
  have hstatus : encodes (statusNote parsed) = true := by
    unfold statusNote
    split
    · simp only [encodes_append, encodes_decimal, Bool.and_true]
      decide
    all_goals decide
  have hdiscarded : ∀ n : ℤ, encodes (if n = 0 then []
      else text " (" ++ decimalInt n ++ text " unreadable, discarded)") = true := by
    intro n
    split
    · rfl
    · simp only [encodes_append, encodes_decimalInt, Bool.and_true]
      decide
  simp only [metricSummary, encodes_append, htemplate, hservice, encodes_decimalInt,
    highest.encoded, encodes_keptNote, hdiscarded, hstatus, Bool.and_true]
  decide

theorem runMetricCheck_eq {bytes : Bytes} {incidentId : { t : Text // encodes t = true }}
    {parsed : ParsedSamples} {trimmed : Dict} (durationMs : ℤ)
    (hsafe : safeServiceName arguments.service = true)
    (hparsed : queryPrometheus r bytes = .ok (some parsed))
    (htrimmed : metricTrim r arguments incidentId.1 parsed = .ok trimmed) :
    runMetricCheck r arguments incidentId (.body bytes) durationMs =
      .ok ⟨.executed, .metric, text "query_metric",
        metricSummary arguments parsed (metricReport trimmed) (peak (readingsOf trimmed)),
        metricReport trimmed, none, durationMs⟩ := by
  obtain ⟨trimmed', kept, hsame, -, htrims⟩ := metricTrims r arguments incidentId.1 parsed
  rw [htrimmed] at hsame
  obtain rfl := Except.ok.inj hsame
  have hservice := encodes_safe hsafe
  have hget : get (metricReport trimmed) (text "samples") = some (.arr (kept.map sampleRow)) := by
    rw [metricReport, get_set, if_neg (by decide), htrims.rowsNow]
  have haccepts : r.accepts (.arr (kept.map sampleRow)) = true := r.acceptsSamples kept
  have hall : (metricReport trimmed).all (fun entry => encodes entry.1 && r.accepts entry.2) =
      true := by
    rw [← haccepts]
    refine accepted_rows (htrims.keyed.set _ _) (fun _ => ?_) hget
    exact (htrims.clean _ (by simp) (metricPayload_clean r arguments parsed _ hservice
      incidentId.2)).set (by decide) (Or.inr (r.acceptsDouble _))
  have hrun : runMetricCheck r arguments incidentId (.body bytes) durationMs =
      executedCheck r .metric (text "query_metric")
        (metricSummary arguments parsed (metricReport trimmed) (peak (readingsOf trimmed)))
        (metricReport trimmed) durationMs := by
    simp only [metricTrim, metricTail] at htrimmed
    simp only [runMetricCheck, hsafe, hparsed, htrimmed, metricReport, Bool.not_true,
      Bool.false_eq_true, if_false]
  rw [hrun, executedCheck_eq (by decide)
    (fun _ => encodes_metricSummary arguments parsed _ _ hservice) hall, if_pos rfl]

end Metrics

end CausalOps.Telemetry
