import CausalOps.Investigation.Mcp
import CausalOps.Investigation.ToolCalls.RoundTrip

set_option autoImplicit false

/-! One dispatch that no exception strikes, as one equation: what it settles, and how its
memory grows. -/

namespace CausalOps.Investigation

theorem resolveEffectiveWindow_idem (arguments : ToolArguments) (scope : IncidentScope) :
    resolveEffectiveWindow (resolveEffectiveWindow arguments scope) scope =
      resolveEffectiveWindow arguments scope := by
  cases arguments <;> simp [resolveEffectiveWindow]

namespace Mcp

section Settlement

structure Settlement where
  receipt : ToolReceipt
  evidence : Option Evidence
  passages : List RunbookPassage
  retrievalMode : Option RetrievalMode

def Settlement.result (s : Settlement) : DispatchResult :=
  ⟨s.receipt, s.evidence, s.passages, s.retrievalMode, ""⟩

def settledBy (reserved : ToolReceipt) (outcome : ToolOutcome) (reasonCode : Option ReasonCode)
    (durationMs : ℤ) (evidence : Option Evidence) (passages : List RunbookPassage)
    (retrievalMode : Option RetrievalMode) : Except Escape Settlement :=
  if durationMs < 0 then .error (.raised "ValidationError")
  else
    .ok ⟨ReservationLedger.settledReceipt reserved outcome reasonCode durationMs.toNat
      (evidence.map Evidence.contentHash) (evidence.map Evidence.evidenceId), evidence, passages,
      retrievalMode⟩

def settleSearch (reserved : ToolReceipt) :
    Except Escape RunbookCheckOutcome → Except Escape Settlement
  | .error escape => .error escape
  | .ok found => settledBy reserved found.outcome found.reasonCode found.durationMs none
      found.passages (some found.retrievalMode)

def settleCheck (hashing : Hashing) (incidentId : String) (outside : Outside)
    (reserved : ToolReceipt) : Except Escape CheckOutcome → Except Escape Settlement
  | .error escape => .error escape
  | .ok found =>
      if found.outcome = .executed then
        match buildEvidence hashing outside.evidenceId incidentId outside.observedAt found
            outside.receiptId with
        | .error escape => .error escape
        | .ok evidence =>
            settledBy reserved found.outcome found.reasonCode found.durationMs (some evidence) []
              none
      else settledBy reserved found.outcome found.reasonCode found.durationMs none [] none

def settlementOf (hashing : Hashing) (incidentId : String) (outside : Outside)
    (reserved : ToolReceipt) : Except Escape Settlement :=
  if reserved.tool = .searchRunbooks then settleSearch reserved outside.search
  else settleCheck hashing incidentId outside reserved outside.check

def settledLedger (ledger : ReservationLedger) (receiptId : String) (s : Settlement) :
    ReservationLedger :=
  { ledger.with s.receipt with
    evidence := match s.evidence with
      | none => ledger.evidence
      | some record => Rows.put Prod.fst (receiptId, record) ledger.evidence }

end Settlement

section Dispatch

variable {hashing : Hashing} {proposal : ToolProposal} {scope : IncidentScope}
  {seen : Finset String} {budgets : Budgets} {ledger : ReservationLedger} {outside : Outside}

theorem settledOutcome_calm (hcalm : outside.strike = none) (result : DispatchResult) :
    settledOutcome outside result = .ok result := by
  simp [settledOutcome, struckAt, hcalm]

theorem dispatch_denied (hcalm : outside.strike = none)
    (hunused : ReservationLedger.Unused outside.receiptId ledger.receipts)
    (hdenied : (decisionOf hashing proposal scope seen budgets ledger).result = .denied) :
    dispatch hashing proposal scope seen budgets ledger outside =
      let decision := decisionOf hashing proposal scope seen budgets ledger
      let receipt := deniedNow scope (resolveEffectiveWindow proposal.arguments scope) decision
        outside
      ⟨ledger.with receipt, insert decision.fingerprint seen, none,
        .ok ⟨receipt, none, [], none, decision.message⟩⟩ := by
  unfold decisionOf at hdenied
  have hstruck : struckAt outside .authorized = false := by simp [struckAt, hcalm]
  have hrecord := ReservationLedger.record_unused (deniedReceipt outside.receiptId
    (resolveEffectiveWindow proposal.arguments scope) scope
    (decisionOf hashing proposal scope seen budgets ledger) outside.requestedAt) hunused rfl rfl
  unfold decisionOf at hrecord
  simp only [dispatch, hstruck, Bool.false_eq_true, if_false, hdenied, if_true, hrecord,
    settledOutcome_calm hcalm]
  rfl

/-- The ledger and the outcome after the backend has answered. -/
def finishedBy (ledger : ReservationLedger) (reserved : ToolReceipt) :
    Except Escape Settlement → ReservationLedger × Except Escape DispatchResult
  | .error escape => (ledger.with reserved, .error escape)
  | .ok s => (settledLedger ledger reserved.receiptId s, .ok s.result)

theorem finishedBy_outcome (ledger : ReservationLedger) (reserved : ToolReceipt)
    (settled : Except Escape Settlement) :
    (finishedBy ledger reserved settled).2 = settled.map Settlement.result := by
  cases settled <;> rfl

theorem settle_reserved {reserved : ToolReceipt} (hstate : reserved.state = .reserved)
    (hunused : ReservationLedger.Unused reserved.receiptId ledger.receipts)
    (outcome : ToolOutcome) (reasonCode : Option ReasonCode) (durationMs : ℤ)
    (evidence : Option Evidence) (passages : List RunbookPassage) (mode : Option RetrievalMode) :
    (match (ledger.with reserved).settle reserved.receiptId outcome reasonCode durationMs
        (evidence.map Evidence.contentHash) (evidence.map Evidence.evidenceId) evidence with
      | .error escape => (ledger.with reserved, .error escape)
      | .ok (receipt, stored) => (stored, .ok ⟨receipt, evidence, passages, mode, ""⟩)) =
      finishedBy ledger reserved
        (settledBy reserved outcome reasonCode durationMs evidence passages mode) := by
  rw [ReservationLedger.settle_last (ledger.with reserved) outcome reasonCode durationMs
    (evidence.map Evidence.contentHash) (evidence.map Evidence.evidenceId) evidence rfl hunused
    hstate]
  by_cases hnegative : durationMs < 0
  · simp only [if_pos hnegative, settledBy, finishedBy]
  · simp only [if_neg hnegative, settledBy, finishedBy]
    cases evidence <;> rfl

theorem finishSearch_eq (hcalm : outside.strike = none) {reserved : ToolReceipt}
    (hstate : reserved.state = .reserved)
    (hunused : ReservationLedger.Unused reserved.receiptId ledger.receipts) :
    finishSearch outside (ledger.with reserved) reserved.receiptId =
      finishedBy ledger reserved (settleSearch reserved outside.search) := by
  cases hsearch : outside.search with
  | error escape => simp only [finishSearch, hsearch, settleSearch, finishedBy]
  | ok found =>
      simp only [finishSearch, hsearch, settleSearch, settledOutcome_calm hcalm]
      exact settle_reserved hstate hunused found.outcome found.reasonCode found.durationMs none
        found.passages (some found.retrievalMode)

theorem finishCheck_eq (hcalm : outside.strike = none) {reserved : ToolReceipt}
    (hstate : reserved.state = .reserved) (hid : reserved.receiptId = outside.receiptId)
    (hunused : ReservationLedger.Unused reserved.receiptId ledger.receipts) :
    finishCheck hashing scope outside (ledger.with reserved) reserved.receiptId =
      finishedBy ledger reserved
        (settleCheck hashing scope.incidentId outside reserved outside.check) := by
  cases hcheck : outside.check with
  | error escape => simp only [finishCheck, hcheck, settleCheck, finishedBy]
  | ok found =>
      simp only [finishCheck, hcheck, settleCheck, settledOutcome_calm hcalm, hid]
      split
      · cases hevidence : buildEvidence hashing outside.evidenceId scope.incidentId
            outside.observedAt found outside.receiptId with
        | error escape => simp only [finishedBy]
        | ok evidence =>
            rw [← hid]
            exact settle_reserved hstate hunused found.outcome found.reasonCode found.durationMs
              (some evidence) [] none
      · rw [← hid]
        exact settle_reserved hstate hunused found.outcome found.reasonCode found.durationMs none
          [] none

theorem dispatch_allowed (hcalm : outside.strike = none)
    (hunused : ReservationLedger.Unused outside.receiptId ledger.receipts)
    (hallowed : (decisionOf hashing proposal scope seen budgets ledger).result = .allowed) :
    dispatch hashing proposal scope seen budgets ledger outside =
      let effective := resolveEffectiveWindow proposal.arguments scope
      let decision := decisionOf hashing proposal scope seen budgets ledger
      let reserved := reservedNow scope effective decision outside
      let finished := finishedBy ledger reserved
        (settlementOf hashing scope.incidentId outside reserved)
      ⟨finished.1, insert decision.fingerprint seen, some effective, finished.2⟩ := by
  have hslots : 0 < ledger.slotsLeftFor (resolveEffectiveWindow proposal.arguments scope).tool :=
    (authorize_allowed hallowed).1
  have hstruck : struckAt outside .authorized = false := by simp [struckAt, hcalm]
  set effective := resolveEffectiveWindow proposal.arguments scope with heffective
  set decision := decisionOf hashing proposal scope seen budgets ledger with hdecision
  have hauthorize : authorize hashing effective scope seen budgets
      (ledger.slotsLeftFor effective.tool) = decision := rfl
  have hdenied : ¬ decision.result = .denied := by simp [hallowed]
  simp only [dispatch, ← heffective, hauthorize, hstruck, Bool.false_eq_true, if_false,
    if_neg hdenied, ReservationLedger.reserve_unused hunused hslots]
  have htool : (reservedNow scope effective decision outside).tool = effective.tool := rfl
  simp only [settlementOf, htool]
  by_cases hsearch : effective.tool = .searchRunbooks
  · simp only [if_pos hsearch]
    rw [← finishSearch_eq hcalm rfl hunused]
    rfl
  · simp only [if_neg hsearch]
    rw [← finishCheck_eq hcalm rfl rfl hunused]
    rfl

end Dispatch

section Growth

variable {hashing : Hashing} {proposal : ToolProposal} {scope : IncidentScope}
  {seen : Finset String} {budgets : Budgets} {ledger : ReservationLedger} {outside : Outside}

structure SettledFrom (reserved receipt : ToolReceipt) : Prop where
  receiptId : receipt.receiptId = reserved.receiptId
  tool : receipt.tool = reserved.tool
  fingerprint : receipt.fingerprint = reserved.fingerprint
  policyResult : receipt.policyResult = reserved.policyResult
  arguments : receipt.arguments = reserved.arguments

theorem settledBy_ok {reserved : ToolReceipt} {outcome : ToolOutcome}
    {reasonCode : Option ReasonCode} {durationMs : ℤ} {evidence : Option Evidence}
    {passages : List RunbookPassage} {mode : Option RetrievalMode} {s : Settlement}
    (h : settledBy reserved outcome reasonCode durationMs evidence passages mode = .ok s) :
    SettledFrom reserved s.receipt := by
  unfold settledBy at h
  split at h
  · cases h
  · cases h
    exact ⟨rfl, rfl, rfl, rfl, rfl⟩

theorem settlementOf_ok {incidentId : String} {reserved : ToolReceipt} {s : Settlement}
    (h : settlementOf hashing incidentId outside reserved = .ok s) :
    SettledFrom reserved s.receipt := by
  unfold settlementOf at h
  split at h
  · cases hsearch : outside.search with
    | error escape => simp [settleSearch, hsearch] at h
    | ok found =>
        simp only [settleSearch, hsearch] at h
        exact settledBy_ok h
  · cases hcheck : outside.check with
    | error escape => simp [settleCheck, hcheck] at h
    | ok found =>
        simp only [settleCheck, hcheck] at h
        split at h
        · split at h
          · cases h
          · exact settledBy_ok h
        · exact settledBy_ok h

theorem finishedBy_grown (ledger : ReservationLedger) (reserved : ToolReceipt)
    (settled : Except Escape Settlement)
    (hfrom : ∀ s, settled = .ok s → SettledFrom reserved s.receipt) :
    (∃ receipt, (finishedBy ledger reserved settled).1.receipts = ledger.receipts ++ [receipt] ∧
        SettledFrom reserved receipt) ∧
      (finishedBy ledger reserved settled).1.budget = ledger.budget ∧
      (finishedBy ledger reserved settled).1.runbookBudget = ledger.runbookBudget := by
  cases settled with
  | error escape => exact ⟨⟨reserved, rfl, rfl, rfl, rfl, rfl, rfl⟩, rfl, rfl⟩
  | ok s => exact ⟨⟨s.receipt, rfl, hfrom s rfl⟩, rfl, rfl⟩

/-- One more receipt, under the id that was drawn, and one more fingerprint. -/
structure Grown (ledger : ReservationLedger) (seen : Finset String) (receiptId : String)
    (tool : ToolName) (decision : PolicyDecision) (dispatched : Dispatched) : Prop where
  receipts : ∃ receipt, dispatched.ledger.receipts = ledger.receipts ++ [receipt] ∧
    receipt.receiptId = receiptId ∧ receipt.tool = tool ∧
    receipt.policyResult = decision.result
  budget : dispatched.ledger.budget = ledger.budget
  runbookBudget : dispatched.ledger.runbookBudget = ledger.runbookBudget
  seen : dispatched.seen = insert decision.fingerprint seen
  called : dispatched.called.isSome = true ↔ decision.result = .allowed

theorem dispatch_grown (hcalm : outside.strike = none)
    (hunused : ReservationLedger.Unused outside.receiptId ledger.receipts) :
    Grown ledger seen outside.receiptId (resolveEffectiveWindow proposal.arguments scope).tool
      (decisionOf hashing proposal scope seen budgets ledger)
      (dispatch hashing proposal scope seen budgets ledger outside) := by
  cases hdecision : (decisionOf hashing proposal scope seen budgets ledger).result with
  | denied =>
      rw [dispatch_denied hcalm hunused hdecision]
      exact ⟨⟨_, rfl, rfl, rfl, hdecision.symm⟩, rfl, rfl, rfl, by simp [hdecision]⟩
  | allowed =>
      rw [dispatch_allowed hcalm hunused hdecision]
      obtain ⟨⟨receipt, hreceipts, hfrom⟩, hbudget, hrunbook⟩ :=
        finishedBy_grown ledger _ _ fun s hs => settlementOf_ok hs
      refine ⟨⟨receipt, hreceipts, hfrom.receiptId, hfrom.tool, ?_⟩, hbudget, hrunbook, rfl,
        by simp [hdecision]⟩
      rw [hfrom.policyResult, hdecision]
      rfl

theorem Grown.spent {receiptId : String} {tool : ToolName} {decision : PolicyDecision}
    {dispatched : Dispatched} (h : Grown ledger seen receiptId tool decision dispatched)
    (runbook : Bool) :
    dispatched.ledger.spent runbook = ledger.spent runbook +
      if decision.result = .allowed ∧ (decide (tool = .searchRunbooks)) = runbook then 1
      else 0 := by
  obtain ⟨receipt, hreceipts, _, htool, hpolicy⟩ := h.receipts
  simp only [ReservationLedger.spent, ReservationLedger.spentOf, hreceipts, List.countP_append,
    List.countP_singleton, ReservationLedger.isRunbook, hpolicy, htool]
  simp

end Growth

end Mcp

end CausalOps.Investigation
