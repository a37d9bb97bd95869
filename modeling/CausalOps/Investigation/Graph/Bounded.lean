import CausalOps.Investigation.Graph.Steps

set_option autoImplicit false

/-! An investigation is bounded: its turns, repairs, requests and nodes. And the last
model call of a run is kept for its assessment. -/

namespace CausalOps.Investigation

section Bounded

def requested (journal : List Entry) : List ModelRequest := journal.flatMap Entry.requests

def turnsTaken (journal : List Entry) : ℕ :=
  journal.countP fun entry => entry.node = .investigate

/-- How far a run has come when it stands at a position: three nodes for each earlier
turn, and a call charged for each. -/
def Placed (budgets : Budgets) (turns nodes : ℕ) (callsLeft : ℤ) : Position → Prop
  | .running .investigate =>
      nodes = 3 * turns ∧ turns + callsLeft ≤ budgets.modelCalls ∧ (turns = 0 ∨ 2 ≤ callsLeft)
  | .running .dispatchTool => nodes + 2 = 3 * turns ∧ turns + callsLeft ≤ budgets.modelCalls
  | .running .normalizeEvidence =>
      nodes + 1 = 3 * turns ∧ turns + callsLeft ≤ budgets.modelCalls
  | .running .finalAssessment => nodes ≤ 3 * turns
  | .running .escalationInterrupt => nodes ≤ 3 * turns + 1
  | .running .finalReport => nodes ≤ 3 * turns + 1
  | .ended => nodes ≤ 3 * turns + 2
  | .paused _ => nodes ≤ 3 * turns + 2
  | .raised _ _ => nodes ≤ 3 * turns + 2

/-- The counters of a fresh run, whose position is not yet that of a resumption. -/
structure Bounded (setting : Setting) (thread : Thread) : Prop where
  fresh : thread.resumes = []
  repairs : thread.state.repairsUsed ≤ setting.budgets.repairs
  calls : min 0 setting.budgets.modelCalls ≤ thread.state.callsLeft setting.budgets
  counted : (∀ node escape, thread.position ≠ .raised node escape) →
    (requested thread.journal).length = thread.state.modelCallsUsed ∧
      (requested thread.journal).countP isRepair ≤ thread.state.repairsUsed
  sent : ((requested thread.journal).length : ℤ) ≤
    max 0 setting.budgets.modelCalls + setting.budgets.repairs
  resent : (requested thread.journal).countP isRepair ≤ setting.budgets.repairs
  turns : (turnsTaken thread.journal : ℤ) ≤ max 1 (setting.budgets.modelCalls - 1)
  placed : Placed setting.budgets (turnsTaken thread.journal) thread.journal.length
    (thread.state.callsLeft setting.budgets) thread.position

variable {setting : Setting} {thread next : Thread} {node : Node} {turn : Turn}

theorem requested_journalOf : requested (journalOf setting thread node turn) =
    requested thread.journal ++ (perform setting node thread.state thread.resumes turn).requests := by
  simp [requested, journalOf, entryOf]

theorem turnsTaken_journalOf : turnsTaken (journalOf setting thread node turn) =
    turnsTaken thread.journal + if node = .investigate then 1 else 0 := by
  simp [turnsTaken, journalOf, entryOf, List.countP_append, List.countP_singleton]

theorem length_journalOf :
    (journalOf setting thread node turn).length = thread.journal.length + 1 := by
  simp [journalOf]

theorem turns_journalOf (h : Bounded setting thread) (hrunning : thread.position = .running node)
    (turn : Turn) :
    (turnsTaken (journalOf setting thread node turn) : ℤ) ≤
      max 1 (setting.budgets.modelCalls - 1) := by
  rw [turnsTaken_journalOf]
  have hturns := h.turns
  split
  · rename_i hnode
    subst hnode
    have hplaced := h.placed
    rw [hrunning] at hplaced
    obtain ⟨-, hcharged, hroom⟩ := hplaced
    push_cast
    omega
  · simpa using hturns

theorem placed_moved (h : Bounded setting thread) (hrunning : thread.position = .running node)
    {state : GraphState} {following : Node}
    (hleft : (perform setting node thread.state thread.resumes turn).left = .updated state)
    (hroute : route setting node state turn.routeReading = .ok (some following)) :
    Placed setting.budgets (turnsTaken (journalOf setting thread node turn))
      (journalOf setting thread node turn).length (state.callsLeft setting.budgets)
      (.running following) := by
  rw [turnsTaken_journalOf, length_journalOf]
  have hplaced := h.placed
  rw [hrunning] at hplaced
  cases node with
  | investigate =>
      obtain ⟨hnodes, hcharged, -⟩ := hplaced
      obtain rfl := Option.some.inj (Except.ok.inj hroute)
      simp only [routeAfterInvestigate, if_true]
      split
      · rename_i hproposed
        have hcost := investigate_proposes hleft hproposed
        refine ⟨by omega, ?_⟩
        rw [hcost]
        push_cast
        omega
      · split
        · simp only [Placed]
          omega
        · simp only [Placed]
          omega
  | dispatchTool =>
      obtain ⟨hnodes, hcharged⟩ := hplaced
      obtain rfl := Option.some.inj (Except.ok.inj hroute)
      obtain ⟨hcalls, hrepairs⟩ := (dispatchTool_quiet _ _ turn).2 state hleft
      have hsame : state.callsLeft setting.budgets = thread.state.callsLeft setting.budgets := by
        simp only [GraphState.callsLeft, hcalls, hrepairs]
      refine ⟨by simp; omega, ?_⟩
      rw [hsame]
      simpa using hcharged
  | normalizeEvidence =>
      obtain ⟨hnodes, hcharged⟩ := hplaced
      obtain rfl := Left.updated.inj hleft
      simp only [route, routeAfterNormalize] at hroute
      split at hroute
      · obtain rfl := Option.some.inj (Except.ok.inj hroute)
        simp [Placed]
        omega
      · split at hroute
        · cases hroute
        · split at hroute
          · cases hroute
          · split at hroute
            · rename_i hmore
              obtain rfl := Option.some.inj (Except.ok.inj hroute)
              exact ⟨by simp; omega, hcharged, Or.inr hmore.2.1⟩
            · obtain rfl := Option.some.inj (Except.ok.inj hroute)
              simp [Placed]
              omega
  | finalAssessment =>
      simp only [Placed] at hplaced
      have hnext : following = .finalReport ∨ following = .escalationInterrupt := by
        simp only [route, routeAfterFinalAssessment] at hroute
        split at hroute
        · exact Or.inl (Option.some.inj (Except.ok.inj hroute)).symm
        · split at hroute
          · exact Or.inl (Option.some.inj (Except.ok.inj hroute)).symm
          · split at hroute
            · cases hroute
            · exact Or.inr (Option.some.inj (Except.ok.inj hroute)).symm
            · exact Or.inl (Option.some.inj (Except.ok.inj hroute)).symm
      rcases hnext with rfl | rfl
      · simpa [Placed] using hplaced
      · simpa [Placed] using hplaced
  | escalationInterrupt =>
      -- a fresh run has no resume value, so the interrupt is not passed
      simp only [perform, h.fresh, escalationInterrupt, List.findSome?_nil] at hleft
      split at hleft <;> cases hleft
  | finalReport => cases hroute

/-- The nodes before a run stops are at most those of its place and one more. -/
theorem nodes_journalOf (h : Bounded setting thread) (hrunning : thread.position = .running node)
    (turn : Turn) :
    (journalOf setting thread node turn).length ≤
      3 * turnsTaken (journalOf setting thread node turn) + 2 := by
  rw [turnsTaken_journalOf, length_journalOf]
  have hplaced := h.placed
  rw [hrunning] at hplaced
  cases node with
  | investigate => simp only [Placed] at hplaced; simp only [if_true]; omega
  | dispatchTool => simp only [Placed] at hplaced; omega
  | normalizeEvidence => simp only [Placed] at hplaced; omega
  | finalAssessment => simp only [Placed] at hplaced; omega
  | escalationInterrupt => simp only [Placed] at hplaced; omega
  | finalReport => simp only [Placed] at hplaced; omega

theorem Bounded.step (h : Bounded setting thread) (hrunning : thread.position = .running node)
    (hsteps : Steps setting thread node turn next) : Bounded setting next := by
  obtain ⟨calls, repairs, hmetered⟩ :=
    perform_metered setting node thread.state thread.resumes turn
  have hcommitted : ∀ other escape, thread.position ≠ .raised other escape := by
    intro other escape hraised
    rw [hrunning] at hraised
    cases hraised
  obtain ⟨hsent, hresent⟩ := h.counted hcommitted
  have hcalls : (requested (journalOf setting thread node turn)).length = calls := by
    rw [requested_journalOf, List.length_append, hmetered.sent, hsent]
  have hrepairs : (requested (journalOf setting thread node turn)).countP isRepair ≤ repairs := by
    rw [requested_journalOf, List.countP_append]
    have hmore := hmetered.resent
    omega
  have hbound : repairs ≤ setting.budgets.repairs :=
    le_trans hmetered.bound (max_le h.repairs le_rfl)
  have hleft : min 0 setting.budgets.modelCalls ≤ modelCallsLeft calls repairs setting.budgets := by
    have hbefore := h.calls
    have hwithin := hmetered.within
    omega
  have hbudget : ((requested (journalOf setting thread node turn)).length : ℤ) ≤
      max 0 setting.budgets.modelCalls + setting.budgets.repairs := by
    rw [hcalls]
    simp only [modelCallsLeft] at hleft
    omega
  have hturns := turns_journalOf h hrunning turn
  have hnodes := nodes_journalOf h hrunning turn
  have hstate : ∀ state : GraphState,
      (perform setting node thread.state thread.resumes turn).left = .updated state →
      state.modelCallsUsed = calls ∧ state.repairsUsed = repairs := hmetered.updated
  cases hsteps with
  | raised escape hraises =>
      exact ⟨h.fresh, h.repairs, h.calls, fun hnone => absurd rfl (hnone node escape), hbudget,
        hrepairs.trans hbound, hturns, hnodes⟩
  | paused payload hpaused =>
      refine ⟨h.fresh, h.repairs, h.calls, ?_, hbudget, hrepairs.trans hbound, hturns, hnodes⟩
      intro _
      obtain rfl := node_of_paused hpaused
      have hnothing := (escalationInterrupt_quiet setting thread.state thread.resumes).1
      simp only [requested_journalOf, perform, hnothing, List.append_nil]
      exact ⟨hsent, hresent⟩
  | ended state hupdated hroute =>
      obtain ⟨hcallsNow, hrepairsNow⟩ := hstate state hupdated
      refine ⟨h.fresh, hrepairsNow ▸ hbound, ?_, fun _ => ?_, hbudget, hrepairs.trans hbound,
        hturns, hnodes⟩
      · simpa only [GraphState.callsLeft, hcallsNow, hrepairsNow] using hleft
      · exact ⟨hcalls.trans hcallsNow.symm, hrepairsNow ▸ hrepairs⟩
  | moved state following hupdated hroute =>
      obtain ⟨hcallsNow, hrepairsNow⟩ := hstate state hupdated
      refine ⟨h.fresh, hrepairsNow ▸ hbound, ?_, fun _ => ?_, hbudget, hrepairs.trans hbound,
        hturns, placed_moved h hrunning hupdated hroute⟩
      · simpa only [GraphState.callsLeft, hcallsNow, hrepairsNow] using hleft
      · exact ⟨hcalls.trans hcallsNow.symm, hrepairsNow ▸ hrepairs⟩

theorem bounded_start (setting : Setting) (investigationId runId : String) (startedAt : Time) :
    Bounded setting (Thread.start setting investigationId runId startedAt) := by
  refine ⟨rfl, Nat.zero_le _, ?_, fun _ => ⟨rfl, le_rfl⟩, ?_, Nat.zero_le _, ?_, ?_⟩
  · simp only [Thread.start, createdState, GraphState.callsLeft, modelCallsLeft]
    omega
  · simp only [Thread.start, requested, List.flatMap_nil, List.length_nil]
    omega
  · simp only [Thread.start, turnsTaken, List.countP_nil]
    omega
  · simp only [Thread.start, startNode, turnsTaken, List.countP_nil, List.length_nil]
    split
    · exact le_rfl
    · refine ⟨rfl, ?_, Or.inl rfl⟩
      simp only [createdState, GraphState.callsLeft, modelCallsLeft]
      omega

theorem bounded_steps (setting : Setting) (investigationId runId : String) (startedAt : Time)
    (turns : List Turn) :
    Bounded setting (after setting (Thread.start setting investigationId runId startedAt)
      (turns.map .step)) :=
  steps_invariant
    (fun _ _ _ _ hrunning h _ hsteps => h.step hrunning hsteps)
    (bounded_start setting investigationId runId startedAt) turns (admits_unconditional _ _)

/-- A run of any length is within the bounds, and with at most eight model calls it is
over before the recursion limit. -/
theorem bounded_investigation (setting : Setting) (investigationId runId : String)
    (startedAt : Time) (turns : List Turn) (supply : ℕ → Turn) :
    let start := Thread.start setting investigationId runId startedAt
    let thread := after setting start (turns.map .step)
    (turnsTaken thread.journal : ℤ) ≤ max 1 (setting.budgets.modelCalls - 1) ∧
      thread.state.repairsUsed ≤ setting.budgets.repairs ∧
      (requested thread.journal).countP isRepair ≤ setting.budgets.repairs ∧
      ((requested thread.journal).length : ℤ) ≤
        max 0 setting.budgets.modelCalls + setting.budgets.repairs ∧
      (thread.journal.length : ℤ) ≤ 3 * max 2 setting.budgets.modelCalls ∧
      (setting.budgets.modelCalls ≤ 8 →
        ∀ node, (invoke setting start supply).position ≠ .running node) := by
  intro start thread
  have hbounded : Bounded setting thread :=
    bounded_steps setting investigationId runId startedAt turns
  have hnodes : thread.journal.length ≤ 3 * turnsTaken thread.journal + 2 := by
    have hplaced := hbounded.placed
    cases hposition : thread.position with
    | running node =>
        rw [hposition] at hplaced
        cases node <;> simp only [Placed] at hplaced <;> omega
    | ended => rw [hposition] at hplaced; exact hplaced
    | paused payload => rw [hposition] at hplaced; exact hplaced
    | raised node escape => rw [hposition] at hplaced; exact hplaced
  have hturns := hbounded.turns
  refine ⟨hturns, hbounded.repairs, hbounded.resent, hbounded.sent, by omega, ?_⟩
  intro hcalls node hrunning
  -- all twenty-five supersteps ran a node, which is more than the bound allows
  obtain ⟨steps, hsteps, hinvoke⟩ : ∃ steps : List Turn, steps.length = 25 ∧
      invoke setting start supply = after setting start (steps.map .step) :=
    ⟨(List.range graphRecursionLimit).map supply, by simp [graphRecursionLimit],
      by simp [invoke, Function.comp_def]⟩
  rw [hinvoke] at hrunning
  have hlimit := bounded_steps setting investigationId runId startedAt steps
  have hlength := length_of_running hrunning
  have hplaced := hlimit.placed
  have hfew := hlimit.turns
  have hempty : start.journal.length = 0 := rfl
  change Placed _ (turnsTaken (after setting start (steps.map .step)).journal)
    (after setting start (steps.map .step)).journal.length _
    (after setting start (steps.map .step)).position at hplaced
  change (turnsTaken (after setting start (steps.map .step)).journal : ℤ) ≤ _ at hfew
  rw [hrunning, hlength, hsteps, hempty] at hplaced
  cases node <;> simp only [Placed] at hplaced <;> omega

end Bounded

section Reserved

/-- How many calls must be left where a run stands before a node. -/
def NeedsCalls (callsLeft : ℤ) : Node → Prop
  | .investigate => 2 ≤ callsLeft
  | .dispatchTool => 1 ≤ callsLeft
  | .normalizeEvidence => 1 ≤ callsLeft
  | .finalAssessment => 1 ≤ callsLeft
  | .escalationInterrupt => True
  | .finalReport => True

/-- The call for the assessment is still there, and was there in every earlier entry. -/
structure Reserved (setting : Setting) (thread : Thread) : Prop where
  place : ∀ node, (thread.position = .running node ∨
    ∃ escape, thread.position = .raised node escape) →
      NeedsCalls (thread.state.callsLeft setting.budgets) node
  asked : ∀ entry ∈ thread.journal,
    entry.node = .investigate ∨ entry.node = .finalAssessment →
      1 ≤ entry.before.callsLeft setting.budgets
  failure : thread.state.failureReason ≠ some .modelCallBudgetExhausted
  report : ∀ report ∈ thread.state.report, report.reasonCode ≠ some .modelCallBudgetExhausted

variable {setting : Setting} {thread next : Thread} {node : Node} {turn : Turn}
  {state : GraphState}

theorem MoneyRefusal.reasonCode_ne (refusal : MoneyRefusal) :
    refusal.reasonCode ≠ .modelCallBudgetExhausted := by
  cases refusal <;> decide

/-- The forced and the unforced ending of a state that was not stopped for want of calls. -/
theorem reasonCode_of_built {budgets : Budgets} {finishedAt : Time}
    {force : Option ReasonCode} {report : InvestigationReport}
    (hbuilt : buildReport budgets state finishedAt force = .ok report)
    (hforce : force ≠ some .modelCallBudgetExhausted)
    (hfailure : state.failureReason ≠ some .modelCallBudgetExhausted) :
    report.reasonCode ≠ some .modelCallBudgetExhausted := by
  obtain ⟨store, escalation, -, -, -, hfinish⟩ := buildReport_ok hbuilt
  have hending : (endingOf state force).reasonCode ≠ some .modelCallBudgetExhausted := by
    simp only [endingOf]
    split
    · split <;> exact nofun
    · cases force with
      | some reason => simpa using hforce
      | none =>
          cases hreason : state.failureReason with
          | some reason => simpa [hreason] using hfailure
          | none => simp
  simp only [finishReport] at hfinish
  split at hfinish
  · rw [← Except.ok.inj hfinish]
    exact hending
  · cases hfinish

theorem investigate_failure (hleft : 1 ≤ state.callsLeft setting.budgets) {state' : GraphState}
    (h : (investigate setting state turn).left = .updated state') :
    state'.failureReason ≠ some .modelCallBudgetExhausted ∧ state'.report = state.report := by
  unfold investigate at h
  split at h
  · rename_i receipts store _ _
    dsimp only at h
    generalize hasked : askWithRepair _ _ _ _ _ _ = asked at h
    have hspec := askWithRepair_asked (stageContext setting state store receipts
      (investigateStage state) .investigate) state.startedAt turn.stageReading
      (Asking.start state (investigateStage state))
      (proposalReply setting.pydantic turn.firstProposal)
      (proposalReply setting.pydantic turn.secondProposal)
    rw [hasked] at hspec
    unfold investigated at h
    split at h
    · rename_i houtcome
      obtain rfl := Left.updated.inj h
      obtain ⟨reason, hreason, hexhausted⟩ := hspec.stopped houtcome
      refine ⟨?_, rfl⟩
      simp only [stoppedState, hreason]
      split
      · intro hsame
        have hnone := hexhausted (Option.some.inj hsame)
        exact absurd hleft (not_le.2 (Int.lt_of_le_of_lt hnone Int.one_pos))
      · exact fun hsame => (by cases hsame)
    · obtain rfl := Left.updated.inj h
      exact ⟨fun hsame => (by cases hsame), rfl⟩
    · cases h
    · rename_i refusal _
      obtain rfl := Left.updated.inj h
      refine ⟨?_, rfl⟩
      simp only [stoppedState]
      split
      · exact fun hsame => refusal.reasonCode_ne (Option.some.inj hsame)
      · exact fun hsame => (by cases hsame)
    · obtain rfl := Left.updated.inj h
      exact ⟨fun hsame => (by cases hsame), rfl⟩
  · cases h
  · cases h

theorem finalAssessment_failure (hleft : 1 ≤ state.callsLeft setting.budgets)
    {state' : GraphState} (h : (finalAssessment setting state turn).left = .updated state') :
    state'.failureReason ≠ some .modelCallBudgetExhausted ∧ state'.report = state.report := by
  unfold finalAssessment at h
  split at h
  · rename_i receipts store _ _
    dsimp only at h
    generalize hasked : askWithRepair _ _ _ _ _ _ = asked at h
    have hspec := askWithRepair_asked (stageContext setting state store receipts
      .finalAssessment .finalAssessment) state.startedAt turn.stageReading
      (Asking.start state .finalAssessment)
      (responseReply setting.pydantic turn.firstResponse)
      (responseReply setting.pydantic turn.secondResponse)
    rw [hasked] at hspec
    unfold assessed at h
    split at h
    · rename_i houtcome
      obtain ⟨reason, hreason, hexhausted⟩ := hspec.stopped houtcome
      rw [hreason] at h
      obtain rfl := Left.updated.inj h
      refine ⟨?_, rfl⟩
      intro hsame
      have hnone := hexhausted (Option.some.inj hsame)
      exact absurd hleft (not_le.2 (Int.lt_of_le_of_lt hnone Int.one_pos))
    · dsimp only at h
      split at h
      · obtain rfl := Left.updated.inj h
        exact ⟨nofun, rfl⟩
      · obtain rfl := Left.updated.inj h
        exact ⟨nofun, rfl⟩
    · cases h
    · rename_i refusal _
      obtain rfl := Left.updated.inj h
      exact ⟨fun hsame => refusal.reasonCode_ne (Option.some.inj hsame), rfl⟩
    · obtain rfl := Left.updated.inj h
      exact ⟨nofun, rfl⟩
  · cases h
  · cases h

theorem dispatchTool_failure {state' : GraphState}
    (h : (dispatchTool setting state turn).left = .updated state') :
    (state'.failureReason = some .internalError ∨
      state'.failureReason = state.failureReason) ∧ state'.report = state.report := by
  unfold dispatchTool at h
  split at h
  · cases h
  split at h
  · cases h
  split at h
  · cases h
  split at h
  · obtain rfl := Left.updated.inj h
    exact ⟨Or.inl rfl, rfl⟩
  · dsimp only [dispatchedLeft] at h
    split at h
    · cases h
    · obtain rfl := Left.updated.inj h
      exact ⟨Or.inl rfl, rfl⟩
    · split at h
      · obtain rfl := Left.updated.inj h
        exact ⟨Or.inl rfl, rfl⟩
      · obtain rfl := Left.updated.inj h
        exact ⟨Or.inr rfl, rfl⟩

/-- No node fails a run for want of calls when the calls it needs are there. -/
theorem perform_failure {resumes : List Json} (hneeds : NeedsCalls (state.callsLeft setting.budgets) node)
    (hfailure : state.failureReason ≠ some .modelCallBudgetExhausted)
    (hreport : ∀ report ∈ state.report, report.reasonCode ≠ some .modelCallBudgetExhausted)
    {state' : GraphState} (h : (perform setting node state resumes turn).left = .updated state') :
    state'.failureReason ≠ some .modelCallBudgetExhausted ∧
      ∀ report ∈ state'.report, report.reasonCode ≠ some .modelCallBudgetExhausted := by
  cases node with
  | investigate =>
      have hleft : 1 ≤ state.callsLeft setting.budgets := le_trans (by decide) hneeds
      obtain ⟨hnot, hsame⟩ := investigate_failure hleft h
      exact ⟨hnot, hsame ▸ hreport⟩
  | finalAssessment =>
      obtain ⟨hnot, hsame⟩ := finalAssessment_failure hneeds h
      exact ⟨hnot, hsame ▸ hreport⟩
  | dispatchTool =>
      obtain ⟨hreason | hreason, hsame⟩ := dispatchTool_failure h
      · exact ⟨hreason ▸ fun hsame => (by cases hsame), hsame ▸ hreport⟩
      · exact ⟨hreason ▸ hfailure, hsame ▸ hreport⟩
  | normalizeEvidence =>
      obtain rfl := Left.updated.inj h
      exact ⟨hfailure, hreport⟩
  | escalationInterrupt =>
      simp only [perform, escalationInterrupt] at h
      split at h
      · split at h
        · obtain rfl := Left.updated.inj h
          exact ⟨hfailure, hreport⟩
        · cases h
      · cases h
      · cases h
      · cases h
  | finalReport =>
      simp only [perform, finalReport] at h
      split at h
      · cases h
      · rename_i report hbuilt
        obtain rfl := Left.updated.inj h
        refine ⟨hfailure, ?_⟩
        intro stored hstored
        obtain rfl := Option.some.inj hstored
        exact reasonCode_of_built hbuilt (fun hsame => (by cases hsame)) hfailure

theorem needsCalls_moved {resumes : List Json} {following : Node}
    (hneeds : NeedsCalls (state.callsLeft setting.budgets) node) {state' : GraphState}
    (h : (perform setting node state resumes turn).left = .updated state')
    (hroute : route setting node state' turn.routeReading = .ok (some following)) :
    NeedsCalls (state'.callsLeft setting.budgets) following := by
  obtain ⟨calls, repairs, hmetered⟩ := perform_metered setting node state resumes turn
  obtain ⟨hcalls, hrepairs⟩ := hmetered.updated state' h
  have hone : state.callsLeft setting.budgets - 1 ≤ state'.callsLeft setting.budgets := by
    simpa only [GraphState.callsLeft, hcalls, hrepairs] using hmetered.atMostOne
  cases node with
  | investigate =>
      simp only [NeedsCalls] at hneeds
      obtain rfl := Option.some.inj (Except.ok.inj hroute)
      simp only [routeAfterInvestigate]
      split
      · simp only [NeedsCalls]
        omega
      · split
        · trivial
        · simp only [NeedsCalls]
          omega
  | dispatchTool =>
      obtain ⟨hsent, hrepaired⟩ := (dispatchTool_quiet _ _ turn).2 state' h
      obtain rfl := Option.some.inj (Except.ok.inj hroute)
      simpa only [NeedsCalls, GraphState.callsLeft, hsent, hrepaired] using hneeds
  | normalizeEvidence =>
      obtain rfl := Left.updated.inj h
      simp only [route, routeAfterNormalize] at hroute
      split at hroute
      · obtain rfl := Option.some.inj (Except.ok.inj hroute)
        trivial
      split at hroute
      · cases hroute
      split at hroute
      · cases hroute
      split at hroute
      · rename_i hmore
        obtain rfl := Option.some.inj (Except.ok.inj hroute)
        exact hmore.2.1
      · obtain rfl := Option.some.inj (Except.ok.inj hroute)
        exact hneeds
  | finalAssessment =>
      simp only [route, routeAfterFinalAssessment] at hroute
      split at hroute
      · obtain rfl := Option.some.inj (Except.ok.inj hroute)
        trivial
      split at hroute
      · obtain rfl := Option.some.inj (Except.ok.inj hroute)
        trivial
      split at hroute
      · cases hroute
      · obtain rfl := Option.some.inj (Except.ok.inj hroute)
        trivial
      · obtain rfl := Option.some.inj (Except.ok.inj hroute)
        trivial
  | escalationInterrupt =>
      obtain rfl := Option.some.inj (Except.ok.inj hroute)
      trivial
  | finalReport => cases hroute

theorem Reserved.step (h : Reserved setting thread) (hrunning : thread.position = .running node)
    (hsteps : Steps setting thread node turn next) : Reserved setting next := by
  have hneeds := h.place node (Or.inl hrunning)
  have hasked : ∀ entry ∈ journalOf setting thread node turn,
      entry.node = .investigate ∨ entry.node = .finalAssessment →
        1 ≤ entry.before.callsLeft setting.budgets := by
    intro entry hentry hnode
    rcases List.mem_append.1 hentry with hold | hnew
    · exact h.asked entry hold hnode
    · obtain rfl := List.mem_singleton.1 hnew
      rcases hnode with hnode | hnode
      · have hnode : node = .investigate := hnode
        subst hnode
        exact le_trans (by decide) hneeds
      · have hnode : node = .finalAssessment := hnode
        subst hnode
        exact hneeds
  cases hsteps with
  | raised escape hraises =>
      refine ⟨?_, hasked, h.failure, h.report⟩
      rintro other (hother | ⟨_, hother⟩)
      · cases hother
      · cases hother
        exact hneeds
  | paused payload hpaused =>
      refine ⟨?_, hasked, h.failure, h.report⟩
      rintro other (hother | ⟨_, hother⟩)
      · cases hother
      · cases hother
  | ended state hupdated hroute =>
      obtain ⟨hfailure, hreport⟩ := perform_failure hneeds h.failure h.report hupdated
      refine ⟨?_, hasked, hfailure, hreport⟩
      rintro other (hother | ⟨_, hother⟩)
      · cases hother
      · cases hother
  | moved state following hupdated hroute =>
      obtain ⟨hfailure, hreport⟩ := perform_failure hneeds h.failure h.report hupdated
      refine ⟨?_, hasked, hfailure, hreport⟩
      rintro other (hother | ⟨_, hother⟩)
      · cases hother
        exact needsCalls_moved hneeds hupdated hroute
      · cases hother

theorem reserved_start (hcalls : 2 ≤ setting.budgets.modelCalls) (investigationId runId : String)
    (startedAt : Time) : Reserved setting (Thread.start setting investigationId runId startedAt) := by
  have hleft : (Thread.start setting investigationId runId startedAt).state.callsLeft
      setting.budgets = setting.budgets.modelCalls := by
    simp [Thread.start, createdState, GraphState.callsLeft, modelCallsLeft]
  refine ⟨?_, fun _ hentry => absurd hentry List.not_mem_nil, (fun h => by cases h),
    (fun _ h => by cases h)⟩
  rintro node (hnode | ⟨_, hnode⟩)
  · rw [hleft]
    obtain rfl := Position.running.inj hnode
    simp only [startNode]
    split
    · exact le_trans (by decide) hcalls
    · exact hcalls
  · cases hnode

theorem reserved_after (hcalls : 2 ≤ setting.budgets.modelCalls) (investigationId runId : String)
    (startedAt : Time) (acts : List Act) :
    Reserved setting (after setting (Thread.start setting investigationId runId startedAt) acts) := by
  refine after_invariant ?_ ?_ ?_
    (reserved_start hcalls investigationId runId startedAt) acts (admits_unconditional _ acts)
  · intro thread node turn next hrunning h _ hsteps
    exact h.step hrunning hsteps
  · intro thread value payload _ h
    refine ⟨?_, h.asked, h.failure, h.report⟩
    rintro node (hnode | ⟨_, hnode⟩)
    · cases hnode
      trivial
    · cases hnode
  · intro thread node escape hraised h
    refine ⟨?_, h.asked, h.failure, h.report⟩
    rintro other (hother | ⟨_, hother⟩)
    · cases hother
      exact h.place node (Or.inr ⟨escape, hraised⟩)
    · cases hother

/-- Whatever an invocation returns, it does not report that the calls ran out. -/
theorem settled_reasonCode {reading : Time} {result : InvestigationResult}
    (h : Reserved setting thread)
    (hsettled : settleInvocation setting thread reading = .ok (.finished result)) :
    result.report.reasonCode ≠ some .modelCallBudgetExhausted := by
  have hfinished : ∀ {state : GraphState} {report : InvestigationReport},
      finishedResult state report = .ok (.finished result) → result.report = report := by
    intro state report hresult
    simp only [finishedResult] at hresult
    split at hresult
    · rw [← Settled.finished.inj (Except.ok.inj hresult)]
    · cases hresult
    · cases hresult
  have hcontained : ∀ {name : String},
      containedResult setting thread.state name reading = .ok (.finished result) →
        result.report.reasonCode ≠ some .modelCallBudgetExhausted := by
    intro name hresult
    simp only [containedResult] at hresult
    split at hresult
    · cases hresult
    · rename_i report hbuilt
      rw [hfinished hresult]
      exact reasonCode_of_built hbuilt nofun h.failure
  simp only [settleInvocation] at hsettled
  split at hsettled
  · cases hsettled
  · exact hcontained hsettled
  · exact hcontained hsettled
  · simp only [pausedResult] at hsettled
    split at hsettled
    · split at hsettled <;> cases hsettled
    · cases hsettled
    · cases hsettled
  · split at hsettled
    · rename_i report hreport
      rw [hfinished hsettled]
      exact h.report report hreport
    · cases hsettled

/-- With two model calls or more, every assessment and every turn starts with a call left
to make, and no run reports that it ran out of calls. -/
theorem reserved_final_call (setting : Setting) (hcalls : 2 ≤ setting.budgets.modelCalls)
    (investigationId runId : String) (startedAt : Time) (acts : List Act) :
    let thread := after setting (Thread.start setting investigationId runId startedAt) acts
    (∀ entry ∈ thread.journal, entry.node = .investigate ∨ entry.node = .finalAssessment →
        1 ≤ entry.before.callsLeft setting.budgets) ∧
      thread.state.failureReason ≠ some .modelCallBudgetExhausted ∧
      ∀ reading result, settleInvocation setting thread reading = .ok (.finished result) →
        result.report.reasonCode ≠ some .modelCallBudgetExhausted := by
  intro thread
  have hreserved := reserved_after hcalls investigationId runId startedAt acts
  exact ⟨hreserved.asked, hreserved.failure,
    fun _ _ hsettled => settled_reasonCode hreserved hsettled⟩

/-- A run that stops at once and asks for its assessment. -/
theorem reserved_final_call_diagnosing :
    (labRun (answeringTurn diagnosing)).state.failureReason ≠ some .modelCallBudgetExhausted :=
  (reserved_final_call labSetting (by decide) "investigation" "run" 0
    ((List.range graphRecursionLimit).map fun _ => .step (answeringTurn diagnosing))).2.1

end Reserved

end CausalOps.Investigation
