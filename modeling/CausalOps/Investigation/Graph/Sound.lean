import CausalOps.Investigation.Graph.Growth

set_option autoImplicit false

/-! What holds of the state in every run: its records are the incident's own and distinct,
its slots are within the budgets, and an assessment cites only evidence that the run
holds. -/

namespace CausalOps.Investigation

open ReservationLedger (spentOf)

section Growing

variable {setting : Setting} {state : GraphState} {proposal : ToolProposal} {outside : Outside}
  {receipts : List ToolReceipt} {evidence : List Evidence} {passages : List RunbookPassage}
  {mode : RetrievalMode} {failed : Bool}

structure NewReceipt (setting : Setting) (state : GraphState) (proposal : ToolProposal)
    (outside : Outside) (receipt : ToolReceipt) : Prop where
  receiptId : receipt.receiptId = outside.receiptId
  incidentId : receipt.incidentId = setting.incident.scope.incidentId
  tool : receipt.tool = (proposedCheck setting proposal).tool
  arguments : receipt.arguments = some (proposedCheck setting proposal)
  policy : receipt.policyResult = .denied ∧ receipt.state = .settled ∧
      receipt.outcome = some .notExecuted ∨
    receipt.policyResult = .allowed ∧ AllowedCheck setting state (proposedCheck setting proposal)

theorem growth_receipts
    (h : Growth setting state proposal outside receipts evidence passages mode failed) :
    receipts = [] ∨ ∃ receipt, receipts = [receipt] ∧
      NewReceipt setting state proposal outside receipt := by
  cases h with
  | nothing => exact Or.inl rfl
  | denied _ hdenied =>
      exact Or.inr ⟨_, rfl, ⟨rfl, rfl, rfl, rfl, Or.inl ⟨rfl, rfl, rfl⟩⟩⟩
  | reserved hallowed => exact Or.inr ⟨_, rfl, ⟨rfl, rfl, rfl, rfl, Or.inr ⟨rfl, hallowed⟩⟩⟩
  | searched found hallowed htool hfound hduration =>
      exact Or.inr ⟨_, rfl, ⟨rfl, rfl, rfl, rfl, Or.inr ⟨rfl, hallowed⟩⟩⟩
  | lost found hallowed htool hfound hduration hstrike =>
      exact Or.inr ⟨_, rfl, ⟨rfl, rfl, rfl, rfl, Or.inr ⟨rfl, hallowed⟩⟩⟩
  | failed found _ hallowed htool hfound hnot =>
      exact Or.inr ⟨_, rfl, ⟨rfl, rfl, rfl, rfl, Or.inr ⟨rfl, hallowed⟩⟩⟩
  | executed found evidence _ hallowed htool hfound hexecuted hevidence =>
      exact Or.inr ⟨_, rfl, ⟨rfl, rfl, rfl, rfl, Or.inr ⟨rfl, hallowed⟩⟩⟩

theorem buildEvidence_ok {hashing : Hashing} {evidenceId incidentId receiptId : String}
    {observedAt : Time} {found : CheckOutcome} {record : Evidence}
    (h : buildEvidence hashing evidenceId incidentId observedAt found receiptId = .ok record) :
    record.evidenceId = evidenceId ∧ record.incidentId = incidentId ∧
      record.receiptId = some receiptId ∧ record.kind = found.kind := by
  simp only [buildEvidence] at h
  split at h
  · rw [← Except.ok.inj h]
    exact ⟨rfl, rfl, rfl, rfl⟩
  · cases h

theorem growth_evidence
    (h : Growth setting state proposal outside receipts evidence passages mode failed) :
    evidence = [] ∨ ∃ record, evidence = [record] ∧ record.evidenceId = outside.evidenceId ∧
      record.incidentId = setting.incident.scope.incidentId := by
  cases h with
  | executed found record _ hallowed htool hfound hexecuted hevidence =>
      obtain ⟨hid, hincident, -, -⟩ := buildEvidence_ok hevidence
      exact Or.inr ⟨record, rfl, hid, hincident⟩
  | _ => exact Or.inl rfl

theorem spentOf_append (runbook : Bool) (receipts : List ToolReceipt) (receipt : ToolReceipt) :
    spentOf runbook (receipts ++ [receipt]) = spentOf runbook receipts +
      if receipt.policyResult = .allowed ∧ ReservationLedger.isRunbook receipt = runbook then 1
      else 0 := by
  simp [spentOf, List.countP_append, List.countP_singleton]

def slotBudget (budgets : Budgets) (runbook : Bool) : ℤ :=
  if runbook then budgets.runbookSearches else budgets.executedTools

theorem slotsLeftFor_ledgerOf (budgets : Budgets) (receipts : List ToolReceipt)
    (tool : ToolName) :
    (ledgerOf budgets receipts).slotsLeftFor tool =
      slotBudget budgets (tool = .searchRunbooks) -
        spentOf (tool = .searchRunbooks) receipts := by
  by_cases htool : tool = .searchRunbooks <;>
    simp [ReservationLedger.slotsLeftFor, ReservationLedger.runbookSlotsLeft,
      ReservationLedger.slotsLeft, ReservationLedger.spent, ledgerOf, slotBudget, htool]

end Growing

/-- The ids that a node mints are new to the state. -/
def Fresh (thread : Thread) (turn : Turn) : Prop :=
  ReservationLedger.Unused turn.outside.receiptId thread.state.receipts ∧
    ∀ record ∈ thread.state.evidence, record.evidenceId ≠ turn.outside.evidenceId

instance (thread : Thread) (turn : Turn) : Decidable (Fresh thread turn) :=
  inferInstanceAs (Decidable (_ ∧ _))

/-- The evidence of the incident was stored under distinct ids. -/
def DistinctRecords (setting : Setting) : Prop :=
  Rows.Keyed Evidence.evidenceId setting.incident.evidence

structure Sound (setting : Setting) (state : GraphState) : Prop where
  incident : state.incidentId = setting.incident.scope.incidentId
  receiptsOwn : ∀ receipt ∈ state.receipts,
    receipt.incidentId = setting.incident.scope.incidentId
  receiptsKeyed : Rows.Keyed ToolReceipt.receiptId state.receipts
  evidenceOwn : ∀ record ∈ state.evidence,
    record.incidentId = setting.incident.scope.incidentId
  evidenceKeyed : Rows.Keyed Evidence.evidenceId state.evidence
  slots : ∀ runbook, (spentOf runbook state.receipts : ℤ) ≤
    max 0 (slotBudget setting.budgets runbook)
  cited : ∀ assessment ∈ state.assessment,
    ∀ citedId ∈ assessment.supportingEvidenceIds ++ assessment.contraryEvidenceIds,
      ∃ record ∈ state.evidence, record.evidenceId = citedId

theorem labSetting_distinct : DistinctRecords labSetting := by
  unfold DistinctRecords Rows.Keyed
  decide

section Sound

variable {setting : Setting} {state state' : GraphState} {thread next : Thread} {node : Node}
  {turn : Turn}

theorem Sound.rebuildReceipts (h : Sound setting state) :
    rebuildReceipts state = .ok state.receipts :=
  rebuildReceipts_of_own fun receipt hmem => (h.receiptsOwn receipt hmem).trans h.incident.symm

theorem Sound.rebuildRecords (h : Sound setting state) :
    rebuildRecords state = .ok ⟨state.incidentId, state.evidence⟩ := by
  have hown : ∀ record ∈ state.evidence, record.incidentId = state.incidentId :=
    fun record hmem => (h.evidenceOwn record hmem).trans h.incident.symm
  simp only [CausalOps.Investigation.rebuildRecords,
    rebuildStore_of_distinct hown h.evidenceKeyed, Except.mapError]

theorem Sound.toolsLeft (h : Sound setting state) :
    toolsLeft setting.budgets state.receipts =
      .ok (setting.budgets.executedTools - spentOf false state.receipts) := by
  simp only [CausalOps.Investigation.toolsLeft, rebuildLedger_of_keyed setting.budgets
    h.receiptsKeyed]
  rfl

/-- A state with the same records and an assessment that is sound itself. -/
theorem Sound.keeps (h : Sound setting state) (hkeeps : Keeps state state')
    (hcited : ∀ assessment ∈ state'.assessment,
      ∀ citedId ∈ assessment.supportingEvidenceIds ++ assessment.contraryEvidenceIds,
        ∃ record ∈ state'.evidence, record.evidenceId = citedId) : Sound setting state' :=
  { incident := hkeeps.incident.trans h.incident
    receiptsOwn := by rw [hkeeps.receipts]; exact h.receiptsOwn
    receiptsKeyed := by rw [hkeeps.receipts]; exact h.receiptsKeyed
    evidenceOwn := by rw [hkeeps.evidence]; exact h.evidenceOwn
    evidenceKeyed := by rw [hkeeps.evidence]; exact h.evidenceKeyed
    slots := by rw [hkeeps.receipts]; exact h.slots
    cited := hcited }

theorem Sound.cited_of_same (h : Sound setting state) (hevidence : state'.evidence = state.evidence)
    (hsame : state'.assessment = state.assessment) :
    ∀ assessment ∈ state'.assessment,
      ∀ citedId ∈ assessment.supportingEvidenceIds ++ assessment.contraryEvidenceIds,
        ∃ record ∈ state'.evidence, record.evidenceId = citedId := by
  rw [hsame, hevidence]
  exact h.cited

theorem slots_append {receipts : List ToolReceipt} {receipt : ToolReceipt}
    {proposal : ToolProposal} (h : Sound setting state)
    (hnew : NewReceipt setting state proposal turn.outside receipt)
    (hreceipts : receipts = state.receipts ++ [receipt]) (runbook : Bool) :
    (spentOf runbook receipts : ℤ) ≤ max 0 (slotBudget setting.budgets runbook) := by
  rw [hreceipts, spentOf_append]
  have hbefore := h.slots runbook
  split
  · rename_i hspends
    obtain ⟨hallowed, hpool⟩ := hspends
    rcases hnew.policy with ⟨hdenied, -⟩ | ⟨-, hcheck⟩
    · rw [hdenied] at hallowed
      cases hallowed
    · have hslot := hcheck.slot
      rw [slotsLeftFor_ledgerOf, ← hnew.tool] at hslot
      have hsame : (decide (receipt.tool = .searchRunbooks)) = runbook := hpool
      rw [hsame] at hslot
      push_cast
      omega
  · simpa using hbefore

theorem Sound.dispatch {proposal : ToolProposal} {receipts : List ToolReceipt}
    {evidence : List Evidence} {passages : List RunbookPassage} {mode : RetrievalMode}
    {failed : Bool} (h : Sound setting state)
    (hfresh : ReservationLedger.Unused turn.outside.receiptId state.receipts ∧
      ∀ record ∈ state.evidence, record.evidenceId ≠ turn.outside.evidenceId)
    (hdispatches : Dispatches setting state turn.outside proposal receipts evidence passages mode
      failed state') : Sound setting state' := by
  obtain ⟨hincident, -, hassessment, -⟩ := hdispatches.restNow
  have hreceipts := growth_receipts hdispatches.growth
  have hevidence := growth_evidence hdispatches.growth
  refine ⟨hincident.trans h.incident, ?_, ?_, ?_, ?_, ?_, ?_⟩
  · rw [hdispatches.receiptsNow]
    intro receipt hmem
    rcases List.mem_append.1 hmem with hold | hnew
    · exact h.receiptsOwn receipt hold
    · rcases hreceipts with rfl | ⟨added, rfl, hadded⟩
      · cases hnew
      · obtain rfl := List.mem_singleton.1 hnew
        exact hadded.incidentId
  · rw [hdispatches.receiptsNow]
    rcases hreceipts with rfl | ⟨added, rfl, hadded⟩
    · simpa using h.receiptsKeyed
    · refine h.receiptsKeyed.append fun old hold heq => ?_
      exact hfresh.1 old hold (heq.trans hadded.receiptId)
  · rw [hdispatches.evidenceNow]
    intro record hmem
    rcases List.mem_append.1 hmem with hold | hnew
    · exact h.evidenceOwn record hold
    · rcases hevidence with rfl | ⟨added, rfl, -, hown⟩
      · cases hnew
      · obtain rfl := List.mem_singleton.1 hnew
        exact hown
  · rw [hdispatches.evidenceNow]
    rcases hevidence with rfl | ⟨added, rfl, hid, -⟩
    · simpa using h.evidenceKeyed
    · refine h.evidenceKeyed.append fun old hold heq => ?_
      exact hfresh.2 old hold (heq.trans hid)
  · intro runbook
    rcases hreceipts with rfl | ⟨added, rfl, hadded⟩
    · rw [hdispatches.receiptsNow, List.append_nil]
      exact h.slots runbook
    · exact slots_append h hadded hdispatches.receiptsNow runbook
  · rw [hassessment, hdispatches.evidenceNow]
    intro assessment hmem citedId hcited
    obtain ⟨record, hrecord, hid⟩ := h.cited assessment hmem citedId hcited
    exact ⟨record, List.mem_append_left _ hrecord, hid⟩

theorem known_of_unknownIds {store : EvidenceStore} {cited : List String}
    (h : store.unknownIds cited = []) {citedId : String} (hmem : citedId ∈ cited) :
    ∃ record ∈ store.records, record.evidenceId = citedId := by
  have hknown := (List.filter_eq_nil_iff.1 h) citedId hmem
  simpa using hknown

theorem Sound.perform {resumes : List Json} (h : Sound setting state)
    (hfresh : ReservationLedger.Unused turn.outside.receiptId state.receipts ∧
      ∀ record ∈ state.evidence, record.evidenceId ≠ turn.outside.evidenceId)
    (hleft : (perform setting node state resumes turn).left = .updated state') :
    Sound setting state' := by
  cases node with
  | dispatchTool =>
      have hown : ∀ receipt ∈ state.receipts, receipt.incidentId = state.incidentId :=
        fun receipt hmem => (h.receiptsOwn receipt hmem).trans h.incident.symm
      obtain ⟨proposal, receipts, evidence, passages, mode, failed, hdispatches⟩ :=
        dispatchTool_dispatches hown h.receiptsKeyed hfresh.1 hleft
      exact h.dispatch hfresh hdispatches
  | investigate =>
      have hkeeps : Keeps state state' ∧ state'.assessment = state.assessment := by
        simp only [CausalOps.Investigation.perform, investigate] at hleft
        split at hleft
        · exact ⟨(investigated_keeps hleft).1, (investigated_keeps hleft).2.1⟩
        · cases hleft
        · cases hleft
      exact h.keeps hkeeps.1 (h.cited_of_same hkeeps.1.evidence hkeeps.2)
  | finalAssessment =>
      simp only [CausalOps.Investigation.perform, finalAssessment, h.rebuildReceipts,
        h.rebuildRecords] at hleft
      obtain ⟨hkeeps, -, hnone | ⟨assessment, hassessment, -, hknown⟩⟩ := assessed_keeps hleft
      · refine h.keeps hkeeps fun assessment hmem => ?_
        rw [hnone.1] at hmem
        cases hmem
      · refine h.keeps hkeeps fun stored hmem citedId hcited => ?_
        rw [hassessment] at hmem
        obtain rfl := Option.some.inj hmem
        rw [hkeeps.evidence]
        exact known_of_unknownIds hknown hcited
  | normalizeEvidence =>
      obtain rfl := Left.updated.inj hleft
      exact h.keeps ⟨rfl, rfl, rfl, rfl, rfl, rfl, rfl⟩ (h.cited_of_same rfl rfl)
  | escalationInterrupt =>
      obtain ⟨reason, decision, note, -, rfl⟩ := escalationInterrupt_decides hleft
      exact h.keeps ⟨rfl, rfl, rfl, rfl, rfl, rfl, rfl⟩ (h.cited_of_same rfl rfl)
  | finalReport =>
      obtain ⟨report, -, rfl⟩ := finalReport_reports hleft
      exact h.keeps ⟨rfl, rfl, rfl, rfl, rfl, rfl, rfl⟩ (h.cited_of_same rfl rfl)

theorem sound_created (hdistinct : DistinctRecords setting) (investigationId runId : String)
    (startedAt : Time) : Sound setting (createdState setting investigationId runId startedAt) :=
  { incident := rfl
    receiptsOwn := fun _ hmem => absurd hmem List.not_mem_nil
    receiptsKeyed := Rows.keyed_nil _
    evidenceOwn := setting.incident.evidenceAgrees
    evidenceKeyed := hdistinct
    slots := fun runbook => by
      change ((0 : ℕ) : ℤ) ≤ _
      omega
    cited := fun _ hmem => by cases hmem }

theorem Sound.step (h : Sound setting thread.state) (hfresh : Fresh thread turn)
    (hsteps : Steps setting thread node turn next) : Sound setting next.state := by
  cases hsteps with
  | raised escape hraises => exact h
  | paused payload hpaused => exact h
  | ended state hleft hroute => exact h.perform hfresh hleft
  | moved state following hleft hroute => exact h.perform hfresh hleft

/-- The state is sound in every run under fresh ids, with pauses, resumptions and
recoveries anywhere. -/
theorem sound_after (hdistinct : DistinctRecords setting) (investigationId runId : String)
    (startedAt : Time) (acts : List Act)
    (hfresh : Machine.Admits (act setting) (Meets Fresh)
      (Thread.start setting investigationId runId startedAt) acts) :
    Sound setting
      (after setting (Thread.start setting investigationId runId startedAt) acts).state :=
  @after_invariant setting Fresh (fun thread => Sound setting thread.state)
    (fun _ _ _ _ _ h hcondition hsteps => h.step hcondition hsteps)
    (fun _ _ _ _ h => h) (fun _ _ _ _ h => h) _
    (sound_created hdistinct investigationId runId startedAt) acts hfresh

end Sound

end CausalOps.Investigation
