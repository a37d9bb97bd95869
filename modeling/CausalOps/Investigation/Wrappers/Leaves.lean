import CausalOps.Investigation.Wrappers

set_option autoImplicit false

/-! Everything one dispatch can leave behind. The receipts grow by at most one, and a
backend is called only under a reservation. -/

namespace CausalOps.Investigation

namespace ReservationLedger

/-- A receipt id that no receipt of the ledger has. -/
def Unused (receiptId : String) (receipts : List ToolReceipt) : Prop :=
  ∀ old ∈ receipts, old.receiptId ≠ receiptId

instance (receiptId : String) (receipts : List ToolReceipt) :
    Decidable (Unused receiptId receipts) :=
  inferInstanceAs (Decidable (∀ old ∈ receipts, old.receiptId ≠ receiptId))

section Operations

variable {ledger : ReservationLedger} {receiptId : String}

theorem put_unused (receipt : ToolReceipt) (hunused : Unused receipt.receiptId ledger.receipts) :
    ledger.put receipt = { ledger with receipts := ledger.receipts ++ [receipt] } := by
  rw [put, Rows.put_of_absent (Rows.lookup_eq_none.2 hunused)]

theorem any_unused (hunused : Unused receiptId ledger.receipts) :
    (ledger.receipts.any fun old => old.receiptId = receiptId) = false := by
  simpa [Unused] using hunused

theorem reserve_unused {incidentId fingerprint : String} {tool : ToolName} {requestedAt : Time}
    {arguments : ToolArguments} (hunused : Unused receiptId ledger.receipts)
    (hslots : 0 < ledger.slotsLeftFor tool) :
    ledger.reserve receiptId incidentId tool fingerprint requestedAt arguments =
      some (reservedReceipt receiptId incidentId tool fingerprint requestedAt arguments,
        { ledger with receipts := ledger.receipts ++
            [reservedReceipt receiptId incidentId tool fingerprint requestedAt arguments] }) := by
  simp only [reserve, if_neg (not_le.2 hslots)]
  rw [put_unused (reservedReceipt receiptId incidentId tool fingerprint requestedAt arguments)
    hunused]

theorem record_unused (receipt : ToolReceipt)
    (hunused : Unused receipt.receiptId ledger.receipts)
    (hsettled : receipt.state = .settled) (hdenied : receipt.policyResult = .denied) :
    ledger.record receipt = .ok { ledger with receipts := ledger.receipts ++ [receipt] } := by
  simp [record, hsettled, hdenied, any_unused hunused]

theorem put_last {before : List ToolReceipt} {current receipt : ToolReceipt}
    (hunused : Unused current.receiptId before) (hsame : receipt.receiptId = current.receiptId) :
    Rows.put ToolReceipt.receiptId receipt (before ++ [current]) = before ++ [receipt] := by
  have hpresent : ((before ++ [current]).any fun old =>
      old.receiptId = receipt.receiptId) = true := by
    simp [hsame]
  rw [Rows.put, if_pos hpresent, Rows.modify, List.map_append]
  congr 1
  · calc before.map (fun row => if row.receiptId = receipt.receiptId then receipt else row)
        = before.map id := List.map_congr_left fun row hrow => by
          simp [hsame, hunused row hrow]
      _ = before := List.map_id before
  · simp [hsame]

theorem lookup_last {before : List ToolReceipt} {current : ToolReceipt}
    (hunused : Unused current.receiptId before) :
    Rows.lookup ToolReceipt.receiptId current.receiptId (before ++ [current]) = some current := by
  rw [Rows.lookup_append, Rows.lookup_eq_none.2 hunused]
  simp

/-- Settling the receipt that was reserved last: refused only for a negative duration. -/
theorem settle_last (ledger : ReservationLedger) {before : List ToolReceipt}
    {current : ToolReceipt} (outcome : ToolOutcome) (reasonCode : Option ReasonCode)
    (durationMs : ℤ) (resultDigest evidenceId : Option String) (evidence : Option Evidence)
    (hreceipts : ledger.receipts = before ++ [current])
    (hunused : Unused current.receiptId before) (hreserved : current.state = .reserved) :
    ledger.settle current.receiptId outcome reasonCode durationMs resultDigest evidenceId evidence =
      if durationMs < 0 then .error (.raised "ValidationError")
      else
        let settled := settledReceipt current outcome reasonCode durationMs.toNat resultDigest
          evidenceId
        .ok (settled, { ledger with
          receipts := before ++ [settled]
          evidence := match evidence with
            | none => ledger.evidence
            | some record => Rows.put Prod.fst (current.receiptId, record) ledger.evidence }) := by
  have hput : ∀ settled : ToolReceipt, settled.receiptId = current.receiptId →
      ledger.put settled = { ledger with receipts := before ++ [settled] } := by
    intro settled hsame
    rw [put, hreceipts, put_last hunused hsame]
  rw [settle, hreceipts, lookup_last hunused]
  simp only [hreserved, ne_eq, not_true_eq_false, if_false]
  split
  · rfl
  · rw [hput (settledReceipt current outcome reasonCode durationMs.toNat resultDigest evidenceId)
      rfl]
    cases evidence <;> rfl

end Operations

end ReservationLedger

section Leaves

variable (hashing : Hashing) (scope : IncidentScope) (effective : ToolArguments)
  (decision : PolicyDecision) (seen : Finset String) (ledger : ReservationLedger)
  (outside : Outside)

def reservedNow : ToolReceipt :=
  ReservationLedger.reservedReceipt outside.receiptId scope.incidentId effective.tool
    decision.fingerprint outside.requestedAt effective

def deniedNow : ToolReceipt :=
  deniedReceipt outside.receiptId effective scope decision outside.requestedAt

def ReservationLedger.with (receipt : ToolReceipt) : ReservationLedger :=
  { ledger with receipts := ledger.receipts ++ [receipt] }

/-- An outcome whose value, if it has one, is the given result. -/
def Yields (outcome : Except Escape DispatchResult) (result : DispatchResult) : Prop :=
  outcome = .ok result ∨ ∃ name, outcome = .error (.raised name)

/-- One constructor for each way in which a dispatch ends. -/
inductive Leaves : Dispatched → Prop
  | struck (name : String) :
      Leaves ⟨ledger, insert decision.fingerprint seen, none, .error (.raised name)⟩
  | denied (outcome : Except Escape DispatchResult) (hdenied : decision.result = .denied)
      (hyields : Yields outcome
        ⟨deniedNow scope effective decision outside, none, [], none, decision.message⟩) :
      Leaves ⟨ledger.with (deniedNow scope effective decision outside),
        insert decision.fingerprint seen, none, outcome⟩
  | reserved (escape : Escape) (hallowed : decision.result = .allowed) :
      Leaves ⟨ledger.with (reservedNow scope effective decision outside),
        insert decision.fingerprint seen, some effective, .error escape⟩
  | searched (found : RunbookCheckOutcome) (outcome : Except Escape DispatchResult)
      (hallowed : decision.result = .allowed) (htool : effective.tool = .searchRunbooks)
      (hfound : outside.search = .ok found) (hduration : 0 ≤ found.durationMs)
      (hyields : outcome = settledOutcome outside
        ⟨ReservationLedger.settledReceipt (reservedNow scope effective decision outside)
          found.outcome found.reasonCode found.durationMs.toNat none none, none, found.passages,
          some found.retrievalMode, ""⟩) :
      Leaves ⟨ledger.with (ReservationLedger.settledReceipt
          (reservedNow scope effective decision outside) found.outcome found.reasonCode
          found.durationMs.toNat none none),
        insert decision.fingerprint seen, some effective, outcome⟩
  | failed (found : CheckOutcome) (outcome : Except Escape DispatchResult)
      (hallowed : decision.result = .allowed) (htool : effective.tool ≠ .searchRunbooks)
      (hfound : outside.check = .ok found) (hnot : found.outcome ≠ .executed)
      (hyields : Yields outcome
        ⟨ReservationLedger.settledReceipt (reservedNow scope effective decision outside)
          found.outcome found.reasonCode found.durationMs.toNat none none, none, [], none, ""⟩) :
      Leaves ⟨ledger.with (ReservationLedger.settledReceipt
          (reservedNow scope effective decision outside) found.outcome found.reasonCode
          found.durationMs.toNat none none),
        insert decision.fingerprint seen, some effective, outcome⟩
  | executed (found : CheckOutcome) (evidence : Evidence)
      (outcome : Except Escape DispatchResult)
      (hallowed : decision.result = .allowed) (htool : effective.tool ≠ .searchRunbooks)
      (hfound : outside.check = .ok found) (hexecuted : found.outcome = .executed)
      (hevidence : buildEvidence hashing outside.evidenceId scope.incidentId outside.observedAt
        found outside.receiptId = .ok evidence)
      (hyields : Yields outcome
        ⟨ReservationLedger.settledReceipt (reservedNow scope effective decision outside)
          .executed found.reasonCode found.durationMs.toNat (some evidence.contentHash)
          (some evidence.evidenceId), some evidence, [], none, ""⟩) :
      Leaves ⟨{ ledger.with (ReservationLedger.settledReceipt
            (reservedNow scope effective decision outside) .executed found.reasonCode
            found.durationMs.toNat (some evidence.contentHash) (some evidence.evidenceId)) with
          evidence := Rows.put Prod.fst (outside.receiptId, evidence) ledger.evidence },
        insert decision.fingerprint seen, some effective, outcome⟩

end Leaves

section Dispatch

def decisionOf (hashing : Hashing) (proposal : ToolProposal) (scope : IncidentScope)
    (seen : Finset String) (budgets : Budgets) (ledger : ReservationLedger) : PolicyDecision :=
  authorize hashing (resolveEffectiveWindow proposal.arguments scope) scope seen budgets
    (ledger.slotsLeftFor (resolveEffectiveWindow proposal.arguments scope).tool)

theorem yields_settledOutcome (outside : Outside) (result : DispatchResult) :
    Yields (settledOutcome outside result) result := by
  unfold settledOutcome
  split
  · exact Or.inr ⟨_, rfl⟩
  · exact Or.inl rfl

theorem dispatch_leaves (hashing : Hashing) (proposal : ToolProposal) (scope : IncidentScope)
    (seen : Finset String) (budgets : Budgets) (ledger : ReservationLedger) (outside : Outside)
    (hunused : ReservationLedger.Unused outside.receiptId ledger.receipts) :
    Leaves hashing scope (resolveEffectiveWindow proposal.arguments scope)
      (decisionOf hashing proposal scope seen budgets ledger) seen ledger outside
      (dispatch hashing proposal scope seen budgets ledger outside) := by
  set effective := resolveEffectiveWindow proposal.arguments scope with heffective
  set decision := decisionOf hashing proposal scope seen budgets ledger with hdecision
  have hauthorize : authorize hashing effective scope seen budgets
      (ledger.slotsLeftFor effective.tool) = decision := rfl
  simp only [dispatch, ← heffective, hauthorize]
  split
  · exact .struck _
  split
  · rename_i hdenied
    rw [ReservationLedger.record_unused (deniedReceipt outside.receiptId effective scope
      decision outside.requestedAt) hunused rfl rfl]
    exact .denied _ hdenied (yields_settledOutcome outside _)
  · rename_i hdenied
    have hallowed : decision.result = .allowed := by
      cases h : decision.result with
      | allowed => rfl
      | denied => exact absurd h hdenied
    have hslots : 0 < ledger.slotsLeftFor effective.tool := (authorize_allowed hallowed).1
    rw [ReservationLedger.reserve_unused hunused hslots]
    have hsettle := fun (outcome : ToolOutcome) (reasonCode : Option ReasonCode) (durationMs : ℤ)
        (resultDigest evidenceId : Option String) (evidence : Option Evidence) =>
      ReservationLedger.settle_last (ledger.with (reservedNow scope effective decision outside))
        outcome reasonCode durationMs resultDigest evidenceId evidence rfl hunused rfl
    dsimp only
    by_cases htool : effective.tool = .searchRunbooks
    · simp only [if_pos htool, finishSearch]
      cases hfound : outside.search with
      | error escape => exact .reserved escape hallowed
      | ok found =>
          have hnow := hsettle found.outcome found.reasonCode found.durationMs none none none
          simp only [ReservationLedger.with, reservedNow,
            ReservationLedger.reservedReceipt] at hnow ⊢
          simp only [hnow]
          by_cases hnegative : found.durationMs < 0
          · simp only [if_pos hnegative]
            exact .reserved _ hallowed
          · simp only [if_neg hnegative]
            exact .searched found _ hallowed htool hfound (not_lt.1 hnegative) rfl
    · simp only [if_neg htool, finishCheck]
      cases hfound : outside.check with
      | error escape => exact .reserved escape hallowed
      | ok found =>
          dsimp only
          by_cases hexecuted : found.outcome = .executed
          · simp only [if_pos hexecuted]
            cases hevidence : buildEvidence hashing outside.evidenceId scope.incidentId
                outside.observedAt found outside.receiptId with
            | error escape => exact .reserved escape hallowed
            | ok evidence =>
                have hnow := hsettle .executed found.reasonCode found.durationMs
                  (some evidence.contentHash) (some evidence.evidenceId) (some evidence)
                simp only [ReservationLedger.with, reservedNow,
                  ReservationLedger.reservedReceipt] at hnow ⊢
                simp only [hexecuted, hnow]
                by_cases hnegative : found.durationMs < 0
                · simp only [if_pos hnegative]
                  exact .reserved _ hallowed
                · simp only [if_neg hnegative]
                  exact .executed found evidence _ hallowed htool hfound hexecuted hevidence
                    (yields_settledOutcome outside _)
          · simp only [if_neg hexecuted]
            have hnow := hsettle found.outcome found.reasonCode found.durationMs none none none
            simp only [ReservationLedger.with, reservedNow,
              ReservationLedger.reservedReceipt] at hnow ⊢
            simp only [hnow]
            by_cases hnegative : found.durationMs < 0
            · simp only [if_pos hnegative]
              exact .reserved _ hallowed
            · simp only [if_neg hnegative]
              exact .failed found _ hallowed htool hfound hexecuted
                (yields_settledOutcome outside _)

end Dispatch

end CausalOps.Investigation
