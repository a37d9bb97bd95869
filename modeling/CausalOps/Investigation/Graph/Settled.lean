import CausalOps.Investigation.Graph.Sound

set_option autoImplicit false

/-! What an invocation returns: which state its report was built from, and what the report
may say about it. -/

namespace CausalOps.Investigation

open ReservationLedger (spentOf)

variable {setting : Setting} {thread next : Thread} {node : Node} {turn : Turn}

section Reported

/-- A report is stored by the last node and by nothing else. -/
structure Reported (setting : Setting) (thread : Thread) : Prop where
  ended : thread.position = .ended → ∃ report, thread.state.report = some report
  built : ∀ report ∈ thread.state.report, thread.position = .ended ∧
    ∃ before finishedAt, buildReport setting.budgets before finishedAt none = .ok report ∧
      thread.state = reportedState before report

theorem perform_report {state state' : GraphState} {resumes : List Json}
    (hnode : node ≠ .finalReport)
    (h : (perform setting node state resumes turn).left = .updated state') :
    state'.report = state.report := by
  cases node with
  | finalReport => exact absurd rfl hnode
  | investigate =>
      simp only [perform, investigate] at h
      split at h
      · unfold investigated at h
        split at h
        · obtain rfl := Left.updated.inj h
          rfl
        · obtain rfl := Left.updated.inj h
          rfl
        · cases h
        · obtain rfl := Left.updated.inj h
          rfl
        · obtain rfl := Left.updated.inj h
          rfl
      · cases h
      · cases h
  | finalAssessment =>
      simp only [perform, finalAssessment] at h
      split at h
      · unfold assessed at h
        split at h
        · split at h
          · obtain rfl := Left.updated.inj h
            rfl
          · obtain rfl := Left.updated.inj h
            rfl
        · dsimp only at h
          split at h
          · obtain rfl := Left.updated.inj h
            rfl
          · obtain rfl := Left.updated.inj h
            rfl
        · cases h
        · obtain rfl := Left.updated.inj h
          rfl
        · obtain rfl := Left.updated.inj h
          rfl
      · cases h
      · cases h
  | dispatchTool =>
      simp only [perform, dispatchTool] at h
      split at h
      · cases h
      split at h
      · cases h
      split at h
      · cases h
      split at h
      · obtain rfl := Left.updated.inj h
        rfl
      · unfold dispatchedLeft at h
        split at h
        · cases h
        · obtain rfl := Left.updated.inj h
          rfl
        · dsimp only at h
          split at h
          · obtain rfl := Left.updated.inj h
            rfl
          · obtain rfl := Left.updated.inj h
            rfl
  | normalizeEvidence =>
      obtain rfl := Left.updated.inj h
      rfl
  | escalationInterrupt =>
      obtain ⟨reason, decision, note, -, rfl⟩ := escalationInterrupt_decides h
      rfl

theorem route_eq_none {state : GraphState} {reading : Time}
    (h : route setting node state reading = .ok none) : node = .finalReport := by
  cases node with
  | finalReport => rfl
  | investigate => cases h
  | dispatchTool => cases h
  | escalationInterrupt => cases h
  | normalizeEvidence =>
      simp only [route] at h
      cases hnext : routeAfterNormalize setting state reading <;> simp [hnext, Except.map] at h
  | finalAssessment =>
      simp only [route] at h
      cases hnext : routeAfterFinalAssessment setting state <;> simp [hnext, Except.map] at h

theorem Reported.step (h : Reported setting thread) (hrunning : thread.position = .running node)
    (hsteps : Steps setting thread node turn next) : Reported setting next := by
  have hnone : thread.state.report = none := by
    cases hreport : thread.state.report with
    | none => rfl
    | some report =>
        obtain ⟨hended, -⟩ := h.built report hreport
        rw [hrunning] at hended
        cases hended
  cases hsteps with
  | raised escape hraises =>
      refine ⟨(fun hended => by cases hended), fun report hreport => ?_⟩
      rw [hnone] at hreport
      cases hreport
  | paused payload hpaused =>
      refine ⟨(fun hended => by cases hended), fun report hreport => ?_⟩
      rw [hnone] at hreport
      cases hreport
  | ended state hleft hroute =>
      obtain rfl := route_eq_none hroute
      obtain ⟨report, hbuilt, rfl⟩ := finalReport_reports hleft
      refine ⟨fun _ => ⟨report, rfl⟩, fun stored hstored => ⟨rfl, ?_⟩⟩
      obtain rfl := Option.some.inj hstored
      exact ⟨thread.state, turn.reportReading, hbuilt, rfl⟩
  | moved state following hleft hroute =>
      have hnode : node ≠ .finalReport := by
        rintro rfl
        cases hroute
      refine ⟨(fun hended => by cases hended), fun report hreport => ?_⟩
      rw [perform_report hnode hleft, hnone] at hreport
      cases hreport

theorem reported_start (setting : Setting) (investigationId runId : String) (startedAt : Time) :
    Reported setting (Thread.start setting investigationId runId startedAt) :=
  ⟨(fun hended => by cases hended), (fun _ hreport => by cases hreport)⟩

/-- Where a thread is neither over nor holds a report, moving it keeps that. -/
theorem Reported.relocate {position : Position} {resumes : List Json} (h : Reported setting thread)
    (hstill : thread.position ≠ .ended) (hmoved : position ≠ .ended) :
    Reported setting { thread with position := position, resumes := resumes } :=
  ⟨fun hended => absurd hended hmoved,
    fun report hreport => absurd (h.built report hreport).1 hstill⟩

theorem reported_after (setting : Setting) (investigationId runId : String) (startedAt : Time)
    (acts : List Act) :
    Reported setting
      (after setting (Thread.start setting investigationId runId startedAt) acts) := by
  refine after_invariant ?_ ?_ ?_
    (reported_start setting investigationId runId startedAt) acts (admits_unconditional _ acts)
  · intro thread node turn next hrunning h _ hsteps
    exact h.step hrunning hsteps
  · intro thread value payload hpaused h
    exact h.relocate (by rw [hpaused]; exact nofun) nofun
  · intro thread node escape hraised h
    exact h.relocate (by rw [hraised]; exact nofun) nofun

end Reported

section Settled

/-- A result and the state that its report was built from, which has the records of the
thread. -/
structure ReportedFrom (setting : Setting) (thread : Thread) (result : InvestigationResult)
    (state : GraphState) (finishedAt : Time) (force : Option ReasonCode) : Prop where
  built : buildReport setting.budgets state finishedAt force = .ok result.report
  receipts : result.receipts = thread.state.receipts
  evidence : ∀ record, record ∈ result.evidence ↔ record ∈ thread.state.evidence
  incident : state.incidentId = thread.state.incidentId
  receiptsSame : state.receipts = thread.state.receipts
  assessmentSame : state.assessment = thread.state.assessment

theorem finishedResult_ok {state : GraphState} {report : InvestigationReport}
    (hsound : Sound setting state) :
    finishedResult state report =
      .ok (.finished ⟨report, (EvidenceStore.mk state.incidentId state.evidence).ordered,
        state.receipts⟩) := by
  simp only [finishedResult, hsound.rebuildReceipts, hsound.rebuildRecords]

/-- A contained exception is a forced `FAILED_SAFE` report from the last checkpoint. -/
theorem contained_reportedFrom {name : String} {reading : Time} {settled : Settled}
    (hsound : Sound setting thread.state)
    (h : containedResult setting thread.state name reading = .ok settled) :
    ∃ result state, settled = .finished result ∧
      ReportedFrom setting thread result state reading (some .internalError) := by
  simp only [containedResult] at h
  split at h
  · cases h
  · rename_i report hbuilt
    -- the handler's state differs in its events and its report only
    change finishedResult thread.state report = .ok settled at h
    rw [finishedResult_ok hsound] at h
    exact ⟨_, _, (Except.ok.inj h).symm,
      ⟨hbuilt, rfl, fun record => EvidenceStore.mem_ordered, rfl, rfl, rfl⟩⟩

theorem settled_reportedFrom {reading : Time} {result : InvestigationResult}
    (hsound : Sound setting thread.state) (hreported : Reported setting thread)
    (h : settleInvocation setting thread reading = .ok (.finished result)) :
    ∃ state finishedAt force, ReportedFrom setting thread result state finishedAt force := by
  simp only [settleInvocation] at h
  split at h
  · cases h
  · obtain ⟨found, state, hsettled, hfrom⟩ := contained_reportedFrom hsound h
    obtain rfl := Settled.finished.inj hsettled
    exact ⟨state, _, _, hfrom⟩
  · obtain ⟨found, state, hsettled, hfrom⟩ := contained_reportedFrom hsound h
    obtain rfl := Settled.finished.inj hsettled
    exact ⟨state, _, _, hfrom⟩
  · simp only [pausedResult, hsound.rebuildReceipts, hsound.rebuildRecords] at h
    split at h <;> cases h
  · split at h
    · rename_i report hreport
      obtain ⟨-, before, finishedAt, hbuilt, hstate⟩ := hreported.built report hreport
      rw [finishedResult_ok hsound] at h
      obtain rfl := Settled.finished.inj (Except.ok.inj h)
      refine ⟨before, finishedAt, none, ⟨hbuilt, rfl, fun record => EvidenceStore.mem_ordered,
        ?_, ?_, ?_⟩⟩
      · rw [hstate]
        rfl
      · rw [hstate]
        rfl
      · rw [hstate]
        rfl
    · cases h

/-- A report carries the assessment of its state, or none when it was forced. -/
theorem assessment_of_built {budgets : Budgets} {state : GraphState} {finishedAt : Time}
    {force : Option ReasonCode} {report : InvestigationReport}
    (h : buildReport budgets state finishedAt force = .ok report) :
    (report.assessment = none ∨ force = none ∧ report.assessment = state.assessment) ∧
      report.incidentId = state.incidentId ∧
      report.toolsExecuted = state.receipts.countP countsAsExecuted := by
  obtain ⟨store, escalation, -, -, -, hfinish⟩ := buildReport_ok h
  simp only [finishReport] at hfinish
  split at hfinish
  · rw [← Except.ok.inj hfinish]
    refine ⟨?_, rfl, rfl⟩
    simp only [endingOf]
    split
    · rename_i assessment hassessment
      have hsame : force = none ∧ state.assessment = some assessment := by
        split at hassessment
        · cases hassessment
        · rename_i hforce
          exact ⟨by simpa using hforce, hassessment⟩
      right
      split <;> exact ⟨hsame.1, hsame.2.symm⟩
    · exact Or.inl rfl
  · cases hfinish

/-- The settled searches among some receipts, which no slot of a check pays for. -/
def searchesExecuted (receipts : List ToolReceipt) : ℕ :=
  receipts.countP fun receipt => countsAsExecuted receipt && ReservationLedger.isRunbook receipt

theorem countP_executed (receipts : List ToolReceipt) :
    searchesExecuted receipts ≤ receipts.countP countsAsExecuted ∧
      receipts.countP countsAsExecuted ≤ searchesExecuted receipts + spentOf false receipts := by
  induction receipts with
  | nil => exact ⟨le_rfl, le_rfl⟩
  | cons receipt rest ih =>
      simp only [searchesExecuted, spentOf, List.countP_cons] at ih ⊢
      cases hcounts : countsAsExecuted receipt with
      | false =>
          simp only [Bool.false_and, Bool.false_eq_true, if_false]
          omega
      | true =>
          have hallowed : receipt.policyResult = .allowed := by
            simp only [countsAsExecuted, Bool.and_eq_true, decide_eq_true_eq] at hcounts
            exact hcounts.1
          cases hrunbook : ReservationLedger.isRunbook receipt with
          | true =>
              simp only [hallowed, decide_true, Bool.and_true, if_true]
              omega
          | false =>
              simp only [hallowed, decide_true, Bool.and_false, beq_self_eq_true, Bool.and_true,
                Bool.false_eq_true, if_true, if_false]
              omega

/-- A finished report cites only evidence of its own incident, is `FAILED_SAFE` exactly
without an assessment and then with a reason, and counts its checks within the budget. -/
theorem citation_soundness (setting : Setting) (hdistinct : DistinctRecords setting)
    (investigationId runId : String) (startedAt : Time) (acts : List Act)
    (hfresh : Machine.Admits (act setting) (Meets Fresh)
      (Thread.start setting investigationId runId startedAt) acts)
    (reading : Time) (result : InvestigationResult)
    (hsettled : settleInvocation setting
      (after setting (Thread.start setting investigationId runId startedAt) acts) reading =
        .ok (.finished result)) :
    (∀ assessment ∈ result.report.assessment,
        ∀ citedId ∈ assessment.supportingEvidenceIds ++ assessment.contraryEvidenceIds,
          ∃ record ∈ result.evidence, record.evidenceId = citedId ∧
            record.incidentId = result.report.incidentId) ∧
      (result.report.disposition = .failedSafe ↔ result.report.assessment = none) ∧
      (result.report.disposition = .failedSafe → result.report.reasonCode.isSome = true) ∧
      0 ≤ (result.report.toolsExecuted : ℤ) - searchesExecuted result.receipts ∧
      (result.report.toolsExecuted : ℤ) - searchesExecuted result.receipts ≤
        max 0 setting.budgets.executedTools := by
  have hsound := sound_after hdistinct investigationId runId startedAt acts hfresh
  have hreported := reported_after setting investigationId runId startedAt acts
  obtain ⟨state, finishedAt, force, hfrom⟩ := settled_reportedFrom hsound hreported hsettled
  obtain ⟨hassessment, hincident, htools⟩ := assessment_of_built hfrom.built
  have hcounted := countP_executed result.receipts
  have hslots := hsound.slots false
  refine ⟨?_, result.report.failedSafe_iff.1, result.report.failedSafe_iff.2, ?_, ?_⟩
  · intro assessment hmem citedId hcited
    rcases hassessment with hnone | ⟨-, hsame⟩
    · rw [hnone] at hmem
      cases hmem
    · rw [hsame, hfrom.assessmentSame] at hmem
      obtain ⟨record, hrecord, hid⟩ := hsound.cited assessment hmem citedId hcited
      refine ⟨record, (hfrom.evidence record).2 hrecord, hid, ?_⟩
      rw [hincident, hfrom.incident, hsound.incident]
      exact hsound.evidenceOwn record hrecord
  · rw [htools, hfrom.receiptsSame, ← hfrom.receipts]
    omega
  · rw [htools, hfrom.receiptsSame, ← hfrom.receipts]
    rw [← hfrom.receipts] at hslots
    simp only [slotBudget, Bool.false_eq_true, if_false] at hslots
    omega

/-- A diagnosis that cites the record of the symptom. -/
theorem citation_soundness_diagnosing : ∃ result : InvestigationResult,
    settleInvocation labSetting (labRun (answeringTurn diagnosing)) 0 = .ok (.finished result) ∧
      result.report.disposition = .diagnosed ∧
      ∀ assessment ∈ result.report.assessment,
        ∀ citedId ∈ assessment.supportingEvidenceIds ++ assessment.contraryEvidenceIds,
          ∃ record ∈ result.evidence, record.evidenceId = citedId ∧
            record.incidentId = result.report.incidentId := by
  refine ⟨_, rfl, rfl, ?_⟩
  exact (citation_soundness labSetting labSetting_distinct "investigation" "run" 0
    ((List.range graphRecursionLimit).map fun _ => .step (answeringTurn diagnosing))
    (by decide +kernel) 0 _ rfl).1

end Settled

end CausalOps.Investigation
