import CausalOps.Investigation.Telemetry.Bounded

set_option autoImplicit false

/-! When the checks of changes and of a topology are executed, which changes and which part of a
topology they then return, and what of the changes a summary shows. -/

namespace CausalOps.Telemetry

open Loaded

section Summaries

/-- The part of a summary before the content: the count, the service and what is missing. -/
def changeHeading (arguments : ChangeArguments) (payload : Dict) (matched : ℕ) : Text :=
  decimalInt (countOf payload (text "change_count")) ++
    text " recent changes on " ++ arguments.service ++
    keptNote payload (text "change_count") matched

/-- A summary shows the summaries of the changes whole, a marked end of them, or nothing. -/
inductive ShowsChanges (heading summaries : Text) : Text → Prop
  | whole : ShowsChanges heading summaries (heading ++ (text ": " ++ summaries))
  | tail (shown : Text) (hshown : shown <:+ summaries) :
      ShowsChanges heading summaries (heading ++ (text ": " ++ (text "..." ++ shown)))
  | nothing : ShowsChanges heading summaries heading
  | cut : ShowsChanges heading summaries (heading.take 397 ++ text "...")

theorem clamped_shows (heading summaries : Text) :
    ShowsChanges heading summaries
      (if 400 < heading.length then heading.take 397 ++ text "..." else heading) := by
  split
  · exact .cut
  · exact .nothing

/-- A content that is shown fills what the heading leaves, so the clamp does not cut it. -/
theorem content_shows (heading summaries : Text) :
    let content := changeContent summaries (400 - heading.length - 2)
    let summary := heading ++ (if content = [] then [] else text ": " ++ content)
    ShowsChanges heading summaries
      (if 400 < summary.length then summary.take 397 ++ text "..." else summary) := by
  have hcolon : (text ": ").length = 2 := by decide
  have hmark : (text "...").length = 3 := by decide
  unfold changeContent
  split
  · simpa using clamped_shows heading summaries
  · split
    · rename_i hroom hshort
      by_cases hempty : summaries = []
      · simpa [hempty] using clamped_shows heading summaries
      · have hfits : ¬ 400 < (heading ++ (text ": " ++ summaries)).length := by
          simp only [List.length_append, hcolon]
          omega
        simp only [if_neg hempty, if_neg hfits]
        exact .whole
    · split
      · rename_i hroom hlong hkeep
        have hne : text "..." ++ summaries.drop
            (summaries.length - (400 - heading.length - 2 - 3 : ℤ).toNat) ≠ [] := by
          intro hnil
          have hlength := congrArg List.length hnil
          rw [List.length_append, hmark] at hlength
          simp at hlength
        have hfits : ¬ 400 < (heading ++ (text ": " ++ (text "..." ++ summaries.drop
            (summaries.length - (400 - heading.length - 2 - 3 : ℤ).toNat)))).length := by
          simp only [List.length_append, hcolon, hmark, List.length_drop]
          omega
        simp only [if_neg hne, if_neg hfits]
        exact .tail _ (List.drop_suffix _ _)
      · simpa using clamped_shows heading summaries

theorem changeSummary_shows (arguments : ChangeArguments) (payload : Dict) (matched : ℕ) :
    ShowsChanges (changeHeading arguments payload matched) (textOf payload (text "summaries"))
      (changeSummary arguments payload matched) :=
  content_shows _ _

end Summaries

section Lists

variable {r : Runtime}

def Outcomes (result : Except Raised CheckOutcome) (tool : Investigation.ToolOutcome) : Prop :=
  ∃ outcome, result = .ok outcome ∧ outcome.outcome = tool

/-- The changes that a check lists, and the summary that it writes about them. -/
structure ListsChanges (arguments : ChangeArguments) (sorted kept : List Value)
    (outcome : CheckOutcome) : Prop where
  changesNow : get outcome.payload (text "changes") = some (.arr kept)
  fits : fits outcome.payload = true
  short : outcome.summary.length ≤ 400
  shows : ∃ texts, TextsUnder (text "summary") kept texts ∧
    get outcome.payload (text "summaries") =
      some (.str (List.intercalate (text "; ") texts)) ∧
    ShowsChanges (changeHeading arguments outcome.payload sorted.length)
      (List.intercalate (text "; ") texts) outcome.summary

theorem lists_changes {arguments : ChangeArguments} {sorted kept : List Value}
    {texts : List Text} {trimmed : Dict} (durationMs : ℤ)
    (htrims : TrimmedTo (changePayload arguments sorted (joined texts)) trimmed
      (text "changes") (text "change_count") sorted kept)
    (hfits : fits (changeReport trimmed) = true) :
    ListsChanges arguments sorted kept ⟨.executed, .change, text "list_recent_changes",
      changeSummary arguments (changeReport trimmed) sorted.length, changeReport trimmed, none,
      durationMs⟩ := by
  have hrows : rowsOf trimmed (text "changes") = kept := by
    simp only [rowsOf, htrims.rowsNow]
  have hnow : get (changeReport trimmed) (text "summaries") =
      some (.str (joined (textsOf (text "summary") kept))) := by
    rw [changeReport, get_set, if_pos rfl, hrows]
  have htext : textOf (changeReport trimmed) (text "summaries") =
      joined (textsOf (text "summary") kept) := by
    simp only [textOf, hnow]
  have hshows := changeSummary_shows arguments (changeReport trimmed) sorted.length
  rw [htext] at hshows
  refine ⟨?_, hfits, length_clamped _, _, textsUnder_iff.2 rfl, hnow, hshows⟩
  rw [changeReport, get_set, if_neg (by decide), htrims.rowsNow]

/-- The part of a topology that a check returns: edges are dropped first, and services only once
no edge is left. -/
structure ListsTopology (allServices allEdges services edges : List Value) (payload : Dict) :
    Prop where
  servicesNow : get payload (text "services") = some (.arr services)
  edgesNow : get payload (text "edges") = some (.arr edges)
  untouched : (∃ other, other <:+ allEdges ∧ fits (edgesKept allServices allEdges other) = true) →
    services = allServices
  edgesFirst : services ≠ allServices → edges = []
  fits : fits payload = true

theorem servicesKept_all {services edges kept : List Value} :
    servicesKept services edges kept services = edgesKept services edges kept := by
  have hservices : get (edgesKept services edges kept) (text "services") =
      some (.arr services) := by
    rw [edgesKept, get_keeping_other (by decide) (by decide) (by decide)]
    rfl
  have hcount : get (edgesKept services edges kept) (text "service_count") =
      some (.int services.length) := by
    rw [edgesKept, get_keeping_other (by decide) (by decide) (by decide)]
    rfl
  rw [servicesKept, keeping_all, withRows, set_same (edgesKept_keyed _ _ _) hservices,
    set_same (edgesKept_keyed _ _ _) hcount]

theorem lists_topology {file : Option Bytes} {services edges keptServices keptEdges : List Value}
    {trimmed : Dict} (hread : TopologyRead r file services edges keptServices keptEdges)
    (htrims : TrimmedTo (edgesKept services edges keptEdges) trimmed (text "services")
      (text "service_count") services keptServices) (hfits : fits trimmed = true) :
    ListsTopology services edges keptServices keptEdges trimmed := by
  have hkeeps : fits (edgesKept services edges keptEdges) = true → keptServices = services := by
    intro hedges
    have hall : ¬ keptServices.length < services.length := fun hfewer =>
      hread.longestServices.longest services (List.suffix_refl _) hfewer
        (by rw [servicesKept_all]; exact hedges)
    exact hread.longestServices.suffix.eq_of_length_le (not_lt.1 hall)
  refine ⟨htrims.rowsNow, servicesTrim_edges htrims, ?_, ?_, hfits⟩
  · rintro ⟨other, hother, hedges⟩
    rcases hread.longestEdges.holds with hkept | rfl
    · exact hkeeps hkept
    · by_cases hnone : other = []
      · rw [hnone] at hedges
        exact hkeeps hedges
      · exact absurd hedges
          (hread.longestEdges.longest other hother (List.length_pos_of_ne_nil hnone))
  · intro hcut
    exact hread.longestEdges.holds.resolve_left fun hedges => hcut (hkeeps hedges)

theorem changes_executed_iff (arguments : ChangeArguments) (file : Option Bytes)
    (durationMs : ℤ) :
    Outcomes (runChangesCheck r arguments file durationMs) .executed ↔
      ∃ found sorted texts kept, ChangesRead r arguments file found sorted texts kept ∧
        r.encodable (.arr sorted) = true ∧ r.accepts (.arr kept) = true := by
  have hrun := runChangesCheck_run r arguments file durationMs
  generalize runChangesCheck r arguments file durationMs = result at hrun ⊢
  cases hrun with
  | raises raised _ hnot =>
      refine iff_of_false (by rintro ⟨outcome, h, -⟩; cases h) ?_
      rintro ⟨found, sorted, texts, kept, hread, hboth⟩
      refine hnot ⟨hread.fileReadable, fun _ _ _ _ hread' => ?_⟩
      obtain ⟨rfl, rfl⟩ := hread.unique hread'
      exact hboth
  | missing _ hfile =>
      refine iff_of_false ?_ ?_
      · rintro ⟨outcome, h, hexecuted⟩
        rw [← Except.ok.inj h] at hexecuted
        cases hexecuted
      · rintro ⟨_, _, _, _, hread, -⟩
        exact hfile (hread.reads.imp fun _ h => h.1)
  | executed hreadable hread _ _ =>
      exact iff_of_true ⟨_, rfl, rfl⟩ ⟨_, _, _, _, hread, hreadable.rows _ _ _ _ hread⟩

theorem changes_unavailable_iff (arguments : ChangeArguments) (file : Option Bytes)
    (durationMs : ℤ) :
    Outcomes (runChangesCheck r arguments file durationMs) .unavailable ↔
      FileReadable r file ∧ ¬ ∃ loaded, Reads r file (.arr loaded) := by
  have hrun := runChangesCheck_run r arguments file durationMs
  generalize runChangesCheck r arguments file durationMs = result at hrun ⊢
  cases hrun with
  | raises raised _ hnot =>
      refine iff_of_false (by rintro ⟨outcome, h, -⟩; cases h) ?_
      rintro ⟨hloads, hnone⟩
      exact hnot ⟨hloads, fun _ _ _ _ hread => absurd (hread.reads.imp fun _ h => h.1) hnone⟩
  | missing hreadable hfile => exact iff_of_true ⟨_, rfl, rfl⟩ ⟨hreadable.loads, hfile⟩
  | executed _ hread _ _ =>
      refine iff_of_false ?_ fun h => h.2 (hread.reads.imp fun _ h => h.1)
      rintro ⟨outcome, h, hunavailable⟩
      rw [← Except.ok.inj h] at hunavailable
      cases hunavailable

theorem topology_executed_iff (file : Option Bytes) (durationMs : ℤ) :
    Outcomes (runTopologyCheck r file durationMs) .executed ↔
      ∃ services edges keptServices keptEdges,
        TopologyRead r file services edges keptServices keptEdges ∧
        (r.encodable (.arr services) = true ∧ r.encodable (.arr edges) = true) ∧
        r.accepts (.arr keptServices) = true ∧ r.accepts (.arr keptEdges) = true := by
  have hrun := runTopologyCheck_run r file durationMs
  generalize runTopologyCheck r file durationMs = result at hrun ⊢
  cases hrun with
  | raises raised _ hnot =>
      refine iff_of_false (by rintro ⟨outcome, h, -⟩; cases h) ?_
      rintro ⟨services, edges, keptServices, keptEdges, hread, hboth⟩
      refine hnot ⟨hread.fileReadable, fun _ _ _ _ hread' => ?_⟩
      obtain ⟨⟨rfl, rfl⟩, rfl, rfl⟩ := hread.unique hread'
      exact hboth
  | missing _ hfile =>
      refine iff_of_false ?_ ?_
      · rintro ⟨outcome, h, hexecuted⟩
        rw [← Except.ok.inj h] at hexecuted
        cases hexecuted
      · rintro ⟨_, _, _, _, hread, -⟩
        exact hfile (hread.reads.imp fun _ h => h.1)
  | executed hreadable hread _ _ =>
      exact iff_of_true ⟨_, rfl, rfl⟩ ⟨_, _, _, _, hread, hreadable.rows _ _ _ _ hread⟩

theorem topology_unavailable_iff (file : Option Bytes) (durationMs : ℤ) :
    Outcomes (runTopologyCheck r file durationMs) .unavailable ↔
      FileReadable r file ∧ ¬ ∃ loaded, Reads r file (.obj loaded) := by
  have hrun := runTopologyCheck_run r file durationMs
  generalize runTopologyCheck r file durationMs = result at hrun ⊢
  cases hrun with
  | raises raised _ hnot =>
      refine iff_of_false (by rintro ⟨outcome, h, -⟩; cases h) ?_
      rintro ⟨hloads, hnone⟩
      exact hnot ⟨hloads, fun _ _ _ _ hread => absurd (hread.reads.imp fun _ h => h.1) hnone⟩
  | missing hreadable hfile => exact iff_of_true ⟨_, rfl, rfl⟩ ⟨hreadable.loads, hfile⟩
  | executed _ hread _ _ =>
      refine iff_of_false ?_ fun h => h.2 (hread.reads.imp fun _ h => h.1)
      rintro ⟨outcome, h, hunavailable⟩
      rw [← Except.ok.inj h] at hunavailable
      cases hunavailable

/-- A check of changes or of a topology never fails its assertion. It is executed exactly when its
file holds a list, or an object, that can be dumped and of which the kept part validates, and
unavailable when a readable file holds none. The changes that it lists are the newest of those of
the service in the window, as many as fit together with the summaries of all, and its summary
shows a marked end of their summaries, all of them or nothing. Of a topology it drops the oldest
edges, and a service only when no edge is left. -/
theorem changes_and_topology (r : Runtime) (file : Option Bytes) (durationMs : ℤ) :
    (∀ arguments : ChangeArguments,
      runChangesCheck r arguments file durationMs ≠ .error .assertionError ∧
      (Outcomes (runChangesCheck r arguments file durationMs) .executed ↔
        ∃ found sorted texts kept, ChangesRead r arguments file found sorted texts kept ∧
          r.encodable (.arr sorted) = true ∧ r.accepts (.arr kept) = true) ∧
      (Outcomes (runChangesCheck r arguments file durationMs) .unavailable ↔
        FileReadable r file ∧ ¬ ∃ loaded, Reads r file (.arr loaded)) ∧
      ∀ outcome, runChangesCheck r arguments file durationMs = .ok outcome →
        outcome.outcome = .executed → ∃ found sorted texts kept,
          ChangesRead r arguments file found sorted texts kept ∧
            ListsChanges arguments sorted kept outcome) ∧
    runTopologyCheck r file durationMs ≠ .error .assertionError ∧
    (Outcomes (runTopologyCheck r file durationMs) .executed ↔
      ∃ services edges keptServices keptEdges,
        TopologyRead r file services edges keptServices keptEdges ∧
        (r.encodable (.arr services) = true ∧ r.encodable (.arr edges) = true) ∧
        r.accepts (.arr keptServices) = true ∧ r.accepts (.arr keptEdges) = true) ∧
    (Outcomes (runTopologyCheck r file durationMs) .unavailable ↔
      FileReadable r file ∧ ¬ ∃ loaded, Reads r file (.obj loaded)) ∧
    ∀ outcome, runTopologyCheck r file durationMs = .ok outcome →
      outcome.outcome = .executed → ∃ allServices allEdges services edges,
        TopologyRead r file allServices allEdges services edges ∧
          ListsTopology allServices allEdges services edges outcome.payload := by
  refine ⟨fun arguments => ⟨?_, changes_executed_iff arguments file durationMs,
    changes_unavailable_iff arguments file durationMs, ?_⟩, ?_,
    topology_executed_iff file durationMs, topology_unavailable_iff file durationMs, ?_⟩
  · intro hfailed
    have hrun := runChangesCheck_run r arguments file durationMs
    rw [hfailed] at hrun
    cases hrun with
    | raises _ hraised _ => exact hraised rfl
  · intro outcome h hexecuted
    have hrun := runChangesCheck_run r arguments file durationMs
    rw [h] at hrun
    cases hrun with
    | missing _ _ => cases hexecuted
    | executed _ hread htrims hfits =>
        exact ⟨_, _, _, _, hread, lists_changes durationMs htrims hfits⟩
  · intro hfailed
    have hrun := runTopologyCheck_run r file durationMs
    rw [hfailed] at hrun
    cases hrun with
    | raises _ hraised _ => exact hraised rfl
  · intro outcome h hexecuted
    have hrun := runTopologyCheck_run r file durationMs
    rw [h] at hrun
    cases hrun with
    | missing _ _ => cases hexecuted
    | executed _ hread htrims hfits =>
        exact ⟨_, _, _, _, hread, lists_topology hread htrims hfits⟩

end Lists

end CausalOps.Telemetry
