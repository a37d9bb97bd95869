import CausalOps.Investigation.Graph.Settled
import CausalOps.Investigation.Graph.Signals

set_option autoImplicit false

/-! Containment: when a fresh investigation returns at all, and that an exception of a
node or of a backend ends in `FAILED_SAFE` with everything committed before it. -/

namespace CausalOps.Investigation

open ReservationLedger (spentOf)

variable {setting : Setting} {state state' : GraphState} {thread next : Thread} {node : Node}
  {turn : Turn}

section Crashes

/-- The backend that a dispatch called raised, with something else than the control-flow
signal of the graph itself. -/
def BackendRaised (entry : Entry) : Prop :=
  entry.node = .dispatchTool ∧ ∃ arguments escape, entry.called = some arguments ∧
    escape ≠ .bubbled ∧
    if arguments.tool = .searchRunbooks then entry.turn.outside.search = .error escape
    else entry.turn.outside.check = .error escape

/-- A backend is called only with the arguments of the pending proposal, once allowed. -/
theorem dispatchTool_called {arguments : ToolArguments}
    (hown : ∀ receipt ∈ state.receipts, receipt.incidentId = state.incidentId)
    (hkeyed : Rows.Keyed ToolReceipt.receiptId state.receipts)
    (hunused : ReservationLedger.Unused turn.outside.receiptId state.receipts)
    (h : (dispatchTool setting state turn).called = some arguments) :
    ∃ proposal, state.pendingProposal = some proposal ∧
      arguments = proposedCheck setting proposal ∧
      (proposedDecision setting state proposal).result = .allowed := by
  unfold dispatchTool at h
  split at h
  · cases h
  rename_i proposal hpending
  rw [rebuildReceipts_of_own hown] at h
  simp only [rebuildLedger_of_keyed setting.budgets hkeyed] at h
  split at h
  · cases h
  · have hleaves := dispatch_leaves setting.hashing proposal setting.incident.scope
      state.seenFingerprints setting.budgets (ledgerOf setting.budgets state.receipts)
      turn.outside hunused
    refine ⟨proposal, hpending, ?_⟩
    generalize dispatch setting.hashing proposal setting.incident.scope state.seenFingerprints
      setting.budgets (ledgerOf setting.budgets state.receipts) turn.outside = dispatched
      at h hleaves
    cases hleaves with
    | struck name => cases h
    | denied outcome hdenied hyields => cases h
    | reserved escape hallowed => exact ⟨(Option.some.inj h).symm, hallowed⟩
    | searched found outcome hallowed htool hfound hduration hyields =>
        exact ⟨(Option.some.inj h).symm, hallowed⟩
    | failed found outcome hallowed htool hfound hnot hyields =>
        exact ⟨(Option.some.inj h).symm, hallowed⟩
    | executed found evidence outcome hallowed htool hfound hexecuted hevidence hyields =>
        exact ⟨(Option.some.inj h).symm, hallowed⟩

theorem Sound.receiptsOfState (h : Sound setting state) :
    ∀ receipt ∈ state.receipts, receipt.incidentId = state.incidentId :=
  fun receipt hmem => (h.receiptsOwn receipt hmem).trans h.incident.symm

/-- A backend that raised leaves a failed state without an assessment of its own. -/
theorem dispatchTool_backendRaised {requests : List ModelRequest} (hsound : Sound setting state)
    (hunused : ReservationLedger.Unused turn.outside.receiptId state.receipts)
    (hleft : (dispatchTool setting state turn).left = .updated state')
    (hraised : BackendRaised
      ⟨.dispatchTool, state, turn, requests, (dispatchTool setting state turn).called⟩) :
    state'.failureReason = some .internalError ∧ state'.assessment = state.assessment := by
  obtain ⟨-, arguments, escape, hcalled, -, herror⟩ := hraised
  obtain ⟨proposal, hpending, harguments, hallowed⟩ := dispatchTool_called hsound.receiptsOfState
    hsound.receiptsKeyed hunused hcalled
  obtain ⟨proposal', receipts, evidence, passages, mode, failed, hdispatches⟩ :=
    dispatchTool_dispatches hsound.receiptsOfState hsound.receiptsKeyed hunused hleft
  obtain rfl := Option.some.inj (hpending.symm.trans hdispatches.pending)
  have hfailed : failed = true := by
    cases hdispatches.growth with
    | nothing => rfl
    | denied _ hdenied =>
        rw [hallowed] at hdenied
        cases hdenied
    | reserved _ => rfl
    | searched found _ htool hfound _ =>
        have herror : turn.outside.search = .error escape := by
          simpa [harguments, htool] using herror
        rw [herror] at hfound
        cases hfound
    | lost _ _ _ _ _ _ => rfl
    | failed found _ _ htool hfound _ =>
        have herror : turn.outside.check = .error escape := by
          simpa [harguments, htool] using herror
        rw [herror] at hfound
        cases hfound
    | executed found _ _ _ htool hfound _ _ =>
        have herror : turn.outside.check = .error escape := by
          simpa [harguments, htool] using herror
        rw [herror] at hfound
        cases hfound
  obtain ⟨-, -, hassessment, -⟩ := hdispatches.restNow
  exact ⟨by rw [hdispatches.failureNow, hfailed]; rfl, hassessment⟩

end Crashes

section Fresh

/-- The positions from which an assessment is still to come. -/
def Unassessed : Position → Prop
  | .running .investigate => True
  | .running .dispatchTool => True
  | .running .normalizeEvidence => True
  | _ => False

/-- The positions to which a failed dispatch leads. -/
def Failing : Position → Prop
  | .running .normalizeEvidence => True
  | .running .finalReport => True
  | .ended => True
  | _ => False

/-- A run that was never resumed. What it committed stays, and a backend that raised
has failed it. -/
structure Unresumed (setting : Setting) (startedAt : Time) (thread : Thread) : Prop where
  sound : Sound setting thread.state
  reported : Reported setting thread
  fresh : thread.resumes = []
  started : thread.state.startedAt = startedAt
  undecided : thread.state.escalationReason = none
  unassessed : Unassessed thread.position → thread.state.assessment = none
  kept : ∀ entry ∈ thread.journal, entry.before.receipts <+: thread.state.receipts ∧
    entry.before.evidence <+: thread.state.evidence
  failing : (∃ entry ∈ thread.journal, BackendRaised entry) →
    (∃ node escape, thread.position = .raised node escape) ∨
      thread.state.assessment = none ∧ thread.state.failureReason.isSome = true ∧
        Failing thread.position
  paused : ∀ payload, thread.position = .paused payload → payload.remainingCheckCount =
    setting.budgets.executedTools - spentOf false thread.state.receipts

theorem grows_perform {resumes : List Json} (hsound : Sound setting state)
    (hunused : ReservationLedger.Unused turn.outside.receiptId state.receipts)
    (hleft : (perform setting node state resumes turn).left = .updated state') :
    state.receipts <+: state'.receipts ∧ state.evidence <+: state'.evidence ∧
      state'.startedAt = state.startedAt := by
  by_cases hnode : node = .dispatchTool
  · subst hnode
    obtain ⟨proposal, receipts, evidence, passages, mode, failed, hdispatches⟩ :=
      dispatchTool_dispatches hsound.receiptsOfState hsound.receiptsKeyed hunused hleft
    exact ⟨⟨receipts, hdispatches.receiptsNow.symm⟩, ⟨evidence, hdispatches.evidenceNow.symm⟩,
      hdispatches.restNow.2.1⟩
  · have hkeeps := perform_keeps hnode hleft
    exact ⟨by rw [hkeeps.receipts], by rw [hkeeps.evidence], hkeeps.started⟩

theorem undecided_perform (hsound : Sound setting state)
    (hunused : ReservationLedger.Unused turn.outside.receiptId state.receipts)
    (hleft : (perform setting node state [] turn).left = .updated state') :
    state'.escalationReason = state.escalationReason := by
  cases node with
  | investigate =>
      simp only [perform, investigate, hsound.rebuildReceipts, hsound.rebuildRecords] at hleft
      exact (investigated_keeps hleft).2.2
  | dispatchTool =>
      obtain ⟨proposal, receipts, evidence, passages, mode, failed, hdispatches⟩ :=
        dispatchTool_dispatches hsound.receiptsOfState hsound.receiptsKeyed hunused hleft
      exact hdispatches.restNow.2.2.2.1
  | normalizeEvidence =>
      obtain rfl := Left.updated.inj hleft
      rfl
  | finalAssessment =>
      simp only [perform, finalAssessment, hsound.rebuildReceipts, hsound.rebuildRecords] at hleft
      exact (assessed_keeps hleft).2.1
  | escalationInterrupt =>
      obtain ⟨reason, decision, note, hfound, -⟩ := escalationInterrupt_decides hleft
      cases hfound
  | finalReport =>
      obtain ⟨report, -, rfl⟩ := finalReport_reports hleft
      rfl

theorem unassessed_moved {following : Node} (hsound : Sound setting state)
    (hunused : ReservationLedger.Unused turn.outside.receiptId state.receipts)
    (hbefore : Unassessed (.running node) → state.assessment = none)
    (hleft : (perform setting node state [] turn).left = .updated state')
    (hroute : route setting node state' turn.routeReading = .ok (some following))
    (hafter : Unassessed (.running following)) : state'.assessment = none := by
  cases node with
  | investigate =>
      simp only [perform, investigate, hsound.rebuildReceipts, hsound.rebuildRecords] at hleft
      exact (investigated_keeps hleft).2.1.trans (hbefore trivial)
  | dispatchTool =>
      obtain ⟨proposal, receipts, evidence, passages, mode, failed, hdispatches⟩ :=
        dispatchTool_dispatches hsound.receiptsOfState hsound.receiptsKeyed hunused hleft
      exact hdispatches.restNow.2.2.1.trans (hbefore trivial)
  | normalizeEvidence =>
      obtain rfl := Left.updated.inj hleft
      exact hbefore trivial
  | finalAssessment =>
      have hlate : following = .finalReport ∨ following = .escalationInterrupt := by
        simp only [route, routeAfterFinalAssessment] at hroute
        split at hroute
        · exact Or.inl (Option.some.inj (Except.ok.inj hroute)).symm
        split at hroute
        · exact Or.inl (Option.some.inj (Except.ok.inj hroute)).symm
        split at hroute
        · cases hroute
        · exact Or.inr (Option.some.inj (Except.ok.inj hroute)).symm
        · exact Or.inl (Option.some.inj (Except.ok.inj hroute)).symm
      rcases hlate with rfl | rfl <;> cases hafter
  | escalationInterrupt =>
      obtain rfl := Option.some.inj (Except.ok.inj hroute)
      cases hafter
  | finalReport => cases hroute

theorem failing_updated {startedAt : Time} {position : Position}
    (h : Unresumed setting startedAt thread) (hfresh : Fresh thread turn)
    (hrunning : thread.position = .running node)
    (hleft : (perform setting node thread.state thread.resumes turn).left = .updated state')
    (hnext : (route setting node state' turn.routeReading = .ok none ∧ position = .ended) ∨
      ∃ following, route setting node state' turn.routeReading = .ok (some following) ∧
        position = .running following)
    (hraised : ∃ entry ∈ journalOf setting thread node turn, BackendRaised entry) :
    state'.assessment = none ∧ state'.failureReason.isSome = true ∧ Failing position := by
  obtain ⟨entry, hentry, hbackend⟩ := hraised
  rcases List.mem_append.1 hentry with hold | hnew
  · rcases h.failing ⟨entry, hold, hbackend⟩ with ⟨other, escape, hposition⟩ | hfailing
    · rw [hrunning] at hposition
      cases hposition
    · obtain ⟨hassessment, hfailure, hplace⟩ := hfailing
      rw [hrunning] at hplace
      cases node with
      | normalizeEvidence =>
          obtain rfl := Left.updated.inj hleft
          refine ⟨hassessment, hfailure, ?_⟩
          rcases hnext with ⟨hroute, -⟩ | ⟨following, hroute, rfl⟩
          · cases route_eq_none hroute
          · simp only [route, routeAfterNormalize, hfailure, if_true, Except.map] at hroute
            obtain rfl := Option.some.inj (Except.ok.inj hroute)
            trivial
      | finalReport =>
          obtain ⟨report, -, rfl⟩ := finalReport_reports hleft
          refine ⟨hassessment, hfailure, ?_⟩
          rcases hnext with ⟨-, rfl⟩ | ⟨following, hroute, -⟩
          · trivial
          · cases hroute
      | investigate => cases hplace
      | dispatchTool => cases hplace
      | finalAssessment => cases hplace
      | escalationInterrupt => cases hplace
  · obtain rfl := List.mem_singleton.1 hnew
    have hnode : node = .dispatchTool := hbackend.1
    subst hnode
    obtain ⟨hfailure, hassessment⟩ :=
      dispatchTool_backendRaised h.sound hfresh.1 hleft hbackend
    refine ⟨?_, by rw [hfailure]; rfl, ?_⟩
    · rw [hassessment]
      exact h.unassessed (by rw [hrunning]; trivial)
    · rcases hnext with ⟨hroute, -⟩ | ⟨following, hroute, rfl⟩
      · cases hroute
      · obtain rfl := Option.some.inj (Except.ok.inj hroute)
        trivial

theorem remaining_of_paused {resumes : List Json} {payload : InterruptPayload}
    (hsound : Sound setting state)
    (hleft : (escalationInterrupt setting state resumes).left = .paused payload) :
    payload.remainingCheckCount =
      setting.budgets.executedTools - spentOf false state.receipts := by
  unfold escalationInterrupt at hleft
  split at hleft
  · rename_i reason remaining store hescalation _
    have hremaining : remaining =
        setting.budgets.executedTools - spentOf false state.receipts := by
      cases hassessment : state.assessment with
      | none => simp [escalationOf, hsound.rebuildReceipts, hassessment] at hescalation
      | some assessment =>
          simp only [escalationOf, hsound.rebuildReceipts, hassessment, hsound.toolsLeft]
            at hescalation
          exact (Prod.mk.inj (Except.ok.inj hescalation)).2.symm
    split at hleft
    · cases hleft
    · obtain rfl := Left.paused.inj hleft
      exact hremaining
  · cases hleft
  · cases hleft
  · cases hleft

theorem kept_journalOf {startedAt : Time} (h : Unresumed setting startedAt thread)
    (hgrows : thread.state.receipts <+: state'.receipts ∧
      thread.state.evidence <+: state'.evidence) :
    ∀ entry ∈ journalOf setting thread node turn,
      entry.before.receipts <+: state'.receipts ∧ entry.before.evidence <+: state'.evidence := by
  intro entry hentry
  rcases List.mem_append.1 hentry with hold | hnew
  · obtain ⟨hreceipts, hevidence⟩ := h.kept entry hold
    exact ⟨hreceipts.trans hgrows.1, hevidence.trans hgrows.2⟩
  · obtain rfl := List.mem_singleton.1 hnew
    exact hgrows

theorem Unresumed.step {startedAt : Time} (h : Unresumed setting startedAt thread)
    (hrunning : thread.position = .running node) (hfresh : Fresh thread turn)
    (hsteps : Steps setting thread node turn next) : Unresumed setting startedAt next := by
  have hsound : Sound setting next.state := h.sound.step hfresh hsteps
  have hreported : Reported setting next := h.reported.step hrunning hsteps
  have hself : ∀ entry ∈ journalOf setting thread node turn,
      entry.before.receipts <+: thread.state.receipts ∧
        entry.before.evidence <+: thread.state.evidence :=
    kept_journalOf h ⟨List.prefix_rfl, List.prefix_rfl⟩
  cases hsteps with
  | raised escape hraises =>
      exact ⟨hsound, hreported, h.fresh, h.started, h.undecided, nofun, hself,
        fun _ => Or.inl ⟨node, escape, rfl⟩, nofun⟩
  | paused payload hpaused =>
      obtain rfl := node_of_paused hpaused
      refine ⟨hsound, hreported, h.fresh, h.started, h.undecided, nofun, hself, ?_, ?_⟩
      · rintro ⟨entry, hentry, hbackend⟩
        rcases List.mem_append.1 hentry with hold | hnew
        · rcases h.failing ⟨entry, hold, hbackend⟩ with ⟨other, escape, hposition⟩ | hfailing
          · rw [hrunning] at hposition
            cases hposition
          · obtain ⟨-, -, hplace⟩ := hfailing
            rw [hrunning] at hplace
            cases hplace
        · obtain rfl := List.mem_singleton.1 hnew
          cases hbackend.1
      · intro shown hshown
        obtain rfl := Position.paused.inj hshown
        exact remaining_of_paused h.sound hpaused
  | ended state hleft hroute =>
      obtain ⟨hreceipts, hevidence, hstarted⟩ := grows_perform h.sound hfresh.1 hleft
      refine ⟨hsound, hreported, h.fresh, hstarted.trans h.started, ?_, nofun,
        kept_journalOf h ⟨hreceipts, hevidence⟩, ?_, nofun⟩
      · rw [h.fresh] at hleft
        exact (undecided_perform h.sound hfresh.1 hleft).trans h.undecided
      · exact fun hraised => Or.inr
          (failing_updated h hfresh hrunning hleft (Or.inl ⟨hroute, rfl⟩) hraised)
  | moved state following hleft hroute =>
      obtain ⟨hreceipts, hevidence, hstarted⟩ := grows_perform h.sound hfresh.1 hleft
      have hplain := hleft
      rw [h.fresh] at hplain
      refine ⟨hsound, hreported, h.fresh, hstarted.trans h.started, ?_, ?_,
        kept_journalOf h ⟨hreceipts, hevidence⟩, ?_, nofun⟩
      · exact (undecided_perform h.sound hfresh.1 hplain).trans h.undecided
      · exact unassessed_moved h.sound hfresh.1 (fun hbefore => h.unassessed (by rwa [hrunning]))
          hplain hroute
      · exact fun hraised => Or.inr (failing_updated h hfresh hrunning hleft
          (Or.inr ⟨following, hroute, rfl⟩) hraised)

theorem unresumed_steps (hdistinct : DistinctRecords setting) (investigationId runId : String)
    (startedAt : Time) (turns : List Turn)
    (hfresh : Machine.Admits (act setting) (Meets Fresh)
      (Thread.start setting investigationId runId startedAt) (turns.map .step)) :
    Unresumed setting startedAt
      (after setting (Thread.start setting investigationId runId startedAt)
        (turns.map .step)) := by
  refine steps_invariant ?_ ?_ turns hfresh
  · intro thread node turn next hrunning h hcondition hsteps
    exact h.step hrunning hcondition hsteps
  · refine ⟨sound_created hdistinct investigationId runId startedAt,
      reported_start setting investigationId runId startedAt, rfl, rfl, rfl, fun _ => rfl, ?_, ?_,
      ?_⟩
    · intro entry hentry
      cases hentry
    · rintro ⟨entry, hentry, -⟩
      cases hentry
    · intro payload hpaused
      cases hpaused

end Fresh

section Containment

/-- The run is over for an exception, or for the recursion limit. -/
def Stopped (thread : Thread) : Prop :=
  ∃ node, thread.position = .running node ∨ ∃ escape, thread.position = .raised node escape

/-- What an invocation owes its caller: a value, and `FAILED_SAFE` with everything that
was committed when an exception stopped it or a backend raised. -/
def Contains (setting : Setting) (thread : Thread) (reading : Time) : Prop :=
  ∃ settled, settleInvocation setting thread reading = .ok settled ∧
    (Stopped thread ∨ (∃ entry ∈ thread.journal, BackendRaised entry) →
      ∃ result, settled = .finished result ∧ result.report.disposition = .failedSafe ∧
        result.receipts = thread.state.receipts ∧
        (∀ record, record ∈ result.evidence ↔ record ∈ thread.state.evidence) ∧
        ∀ entry ∈ thread.journal, entry.before.receipts <+: result.receipts ∧
          ∀ record ∈ entry.before.evidence, record ∈ result.evidence)

/-- When it does: never for the graph's own signal, which is passed on; after an exception
with a clock that is not back before the start; at a pause with a budget of checks. -/
def Settles (setting : Setting) (startedAt reading : Time) : Position → Prop
  | .raised _ .bubbled => False
  | .raised _ _ => 0 ≤ latencyMs startedAt reading
  | .running _ => 0 ≤ latencyMs startedAt reading
  | .paused _ => 0 ≤ setting.budgets.executedTools
  | .ended => True

theorem failedSafe_of_none {report : InvestigationReport} (h : report.assessment = none) :
    report.disposition = .failedSafe := report.failedSafe_iff.1.2 h

/-- The handler returns a `FAILED_SAFE` report unless the clock is before the start. -/
theorem containedResult_iff {startedAt : Time} (h : Unresumed setting startedAt thread)
    (name : String) (reading : Time) :
    (∃ settled, containedResult setting thread.state name reading = .ok settled) ↔
      0 ≤ latencyMs startedAt reading := by
  have hundecided : buildEscalation { thread.state with
      events := recordEvent .finalReport thread.state.events (.internalError name) } =
        .ok none := by
    simp only [buildEscalation, h.undecided]
  have hbuild := buildReport_isOk setting.budgets
    { thread.state with
      events := recordEvent .finalReport thread.state.events (.internalError name) }
    reading (some .internalError) h.sound.rebuildReceipts h.sound.rebuildRecords
  rw [hundecided] at hbuild
  have hstarted := h.started
  simp only [containedResult]
  constructor
  · rintro ⟨settled, hsettled⟩
    split at hsettled
    · cases hsettled
    · rename_i report hbuilt
      have hlatency := (hbuild.1 ⟨report, hbuilt⟩).1
      rwa [← hstarted]
  · intro hlatency
    rw [← hstarted] at hlatency
    obtain ⟨report, hbuilt⟩ := hbuild.2 ⟨hlatency, none, rfl⟩
    rw [hbuilt]
    exact ⟨_, show finishedResult thread.state report = _ from finishedResult_ok h.sound⟩

theorem contains_of_settled {startedAt reading : Time} {settled : Settled}
    (h : Unresumed setting startedAt thread)
    (hsettled : settleInvocation setting thread reading = .ok settled) :
    Contains setting thread reading := by
  refine ⟨settled, hsettled, fun hcrash => ?_⟩
  have hkept : ∀ {result : InvestigationResult} {state : GraphState} {finishedAt : Time}
      {force : Option ReasonCode}, ReportedFrom setting thread result state finishedAt force →
      ∀ entry ∈ thread.journal, entry.before.receipts <+: result.receipts ∧
        ∀ record ∈ entry.before.evidence, record ∈ result.evidence := by
    intro result state finishedAt force hfrom entry hentry
    obtain ⟨hreceipts, hevidence⟩ := h.kept entry hentry
    refine ⟨hfrom.receipts ▸ hreceipts, fun record hrecord => ?_⟩
    exact (hfrom.evidence record).2 (hevidence.subset hrecord)
  have hcontained : ∀ {name : String},
      containedResult setting thread.state name reading = .ok settled →
      ∃ result, settled = .finished result ∧ result.report.disposition = .failedSafe ∧
        result.receipts = thread.state.receipts ∧
        (∀ record, record ∈ result.evidence ↔ record ∈ thread.state.evidence) ∧
        ∀ entry ∈ thread.journal, entry.before.receipts <+: result.receipts ∧
          ∀ record ∈ entry.before.evidence, record ∈ result.evidence := by
    intro name hresult
    obtain ⟨result, state, rfl, hfrom⟩ := contained_reportedFrom h.sound hresult
    have hnone : result.report.assessment = none := by
      rcases (assessment_of_built hfrom.built).1 with hnone | ⟨hforce, -⟩
      · exact hnone
      · cases hforce
    exact ⟨result, rfl, failedSafe_of_none hnone, hfrom.receipts, hfrom.evidence, hkept hfrom⟩
  -- where the thread stands decides which way it was settled
  cases hposition : thread.position with
  | raised node escape =>
      cases escape with
      | bubbled => simp [settleInvocation, hposition] at hsettled
      | refused refusal =>
          simp only [settleInvocation, hposition] at hsettled
          exact hcontained hsettled
      | raised name =>
          simp only [settleInvocation, hposition] at hsettled
          exact hcontained hsettled
  | running node =>
      simp only [settleInvocation, hposition] at hsettled
      exact hcontained hsettled
  | paused payload =>
      exfalso
      rcases hcrash with ⟨node, hrunning | ⟨escape, hraised⟩⟩ | hbackend
      · rw [hposition] at hrunning
        cases hrunning
      · rw [hposition] at hraised
        cases hraised
      · rcases h.failing hbackend with ⟨node, escape, hraised⟩ | ⟨-, -, hplace⟩
        · rw [hposition] at hraised
          cases hraised
        · rw [hposition] at hplace
          cases hplace
  | ended =>
      have hnone : thread.state.assessment = none := by
        rcases hcrash with ⟨node, hrunning | ⟨escape, hraised⟩⟩ | hbackend
        · rw [hposition] at hrunning
          cases hrunning
        · rw [hposition] at hraised
          cases hraised
        · rcases h.failing hbackend with ⟨node, escape, hraised⟩ | ⟨hassessment, -, -⟩
          · rw [hposition] at hraised
            cases hraised
          · exact hassessment
      obtain ⟨report, hreport⟩ := h.reported.ended hposition
      have hresult := hsettled
      simp only [settleInvocation, hposition, hreport, finishedResult_ok h.sound] at hresult
      obtain rfl := Except.ok.inj hresult
      obtain ⟨state, finishedAt, force, hfrom⟩ :=
        settled_reportedFrom h.sound h.reported hsettled
      have hassessment : report.assessment = none := by
        rcases (assessment_of_built hfrom.built).1 with hnone' | ⟨-, hsame⟩
        · exact hnone'
        · exact hsame.trans (hfrom.assessmentSame.trans hnone)
      exact ⟨_, rfl, failedSafe_of_none hassessment, hfrom.receipts, hfrom.evidence, hkept hfrom⟩

theorem settles_iff {startedAt : Time} (h : Unresumed setting startedAt thread) (reading : Time) :
    (∃ settled, settleInvocation setting thread reading = .ok settled) ↔
      Settles setting startedAt reading thread.position := by
  have hcontained := fun name : String => containedResult_iff h name reading
  cases hposition : thread.position with
  | raised node escape =>
      cases escape with
      | bubbled => simp [settleInvocation, hposition, Settles]
      | refused refusal =>
          simp only [settleInvocation, hposition, Settles]
          exact hcontained _
      | raised name =>
          simp only [settleInvocation, hposition, Settles]
          exact hcontained _
  | running node =>
      simp only [settleInvocation, hposition, Settles]
      exact hcontained _
  | paused payload =>
      have hremaining := h.paused payload hposition
      have hslots := h.sound.slots false
      simp only [slotBudget, Bool.false_eq_true, if_false] at hslots
      simp only [settleInvocation, hposition, Settles, pausedResult, h.sound.rebuildReceipts,
        h.sound.rebuildRecords]
      constructor
      · rintro ⟨settled, hsettled⟩
        split at hsettled
        · omega
        · cases hsettled
      · intro hbudget
        rw [if_pos (by omega)]
        exact ⟨_, rfl⟩
  | ended =>
      obtain ⟨report, hreport⟩ := h.reported.ended hposition
      simp only [settleInvocation, hposition, Settles, hreport, iff_true]
      exact ⟨_, finishedResult_ok h.sound⟩

/-- A fresh investigation contains whatever happens inside it exactly when it settles:
always when nothing outside raises the graph's own signal, the crash handler does not read
the clock back before the start, and the budget of checks is not negative. -/
theorem contained_runs (setting : Setting) (hdistinct : DistinctRecords setting)
    (investigationId runId : String) (startedAt : Time) (turns : ℕ → Turn) (reading : Time)
    (hfresh : Machine.Admits (act setting) (Meets Fresh)
      (Thread.start setting investigationId runId startedAt)
      ((List.range graphRecursionLimit).map fun n => .step (turns n))) :
    let thread := invoke setting (Thread.start setting investigationId runId startedAt) turns
    ((∀ n, Unsignalled (turns n)) → 0 ≤ latencyMs startedAt reading →
        0 ≤ setting.budgets.executedTools → Contains setting thread reading) ∧
      (Contains setting thread reading ↔ Settles setting startedAt reading thread.position) ∧
      ((∃ settled, runGraphInvestigation setting investigationId runId startedAt turns reading =
        .ok settled) ↔ Settles setting startedAt reading thread.position) := by
  intro thread
  have hsteps : ((List.range graphRecursionLimit).map fun n => Act.step (turns n)) =
      ((List.range graphRecursionLimit).map turns).map .step := by
    simp [Function.comp_def]
  have hthread : thread = after setting (Thread.start setting investigationId runId startedAt)
      (((List.range graphRecursionLimit).map turns).map .step) := by
    rw [← hsteps]
    rfl
  have h : Unresumed setting startedAt thread := by
    rw [hthread]
    exact unresumed_steps hdistinct investigationId runId startedAt _ (hsteps ▸ hfresh)
  have hsettles := settles_iff h reading
  refine ⟨?_, ?_, hsettles⟩
  · intro hunsignalled hclock hbudget
    have hsilent : ∀ node, thread.position ≠ .raised node .bubbled := by
      rw [hthread]
      refine steps_unsignalled nofun fun turn hturn => ?_
      obtain ⟨n, -, rfl⟩ := List.mem_map.1 hturn
      exact hunsignalled n
    obtain ⟨settled, hsettled⟩ : ∃ settled, settleInvocation setting thread reading = .ok settled := by
      refine hsettles.2 ?_
      cases hposition : thread.position with
      | raised node escape =>
          cases escape with
          | bubbled => exact absurd hposition (hsilent node)
          | refused refusal => exact hclock
          | raised name => exact hclock
      | running node => exact hclock
      | paused payload => exact hbudget
      | ended => trivial
    exact contains_of_settled h hsettled
  · rw [← hsettles]
    constructor
    · rintro ⟨settled, hsettled, -⟩
      exact ⟨settled, hsettled⟩
    · rintro ⟨settled, hsettled⟩
      exact contains_of_settled h hsettled

/-- A turn in which the model's client raises, with the clock of the report at a reading. -/
def raisingTurn (reading : Time) : Turn :=
  { answeringTurn diagnosing with
    firstProposal := fun _ => .error (.raised "RuntimeError")
    reportReading := reading }

/-- A model that raises ends in a report. -/
theorem contained_runs_raising : Contains labSetting (labRun (raisingTurn 0)) 0 :=
  (contained_runs labSetting labSetting_distinct "investigation" "run" 0 (fun _ => raisingTurn 0) 0
    (by decide +kernel)).1
      (fun _ => ⟨fun _ => silent_raised _, fun _ => silent_ok _, fun _ => silent_ok _,
        fun _ => silent_ok _, silent_raised _, silent_raised _⟩)
      (by decide) (by decide)

/-- The same model with a clock that is set back by one second before the report: the
report is refused, and so is the one of the crash handler. -/
theorem contained_runs_set_back :
    ¬ Contains labSetting (labRun (raisingTurn (-1000000))) (-1000000) := by
  rintro ⟨settled, hsettled, -⟩
  have hrefused : (settleInvocation labSetting (labRun (raisingTurn (-1000000)))
      (-1000000)).isOk = false := by decide +kernel
  rw [hsettled] at hrefused
  cases hrefused

end Containment

end CausalOps.Investigation
