import CausalOps.Investigation.Graph.Monitored

set_option autoImplicit false

/-! A ledger rebuilt before every dispatch beside one ledger kept through all of them: the
same decisions, receipts and slots, and every receipt on its way to being settled once. -/

namespace CausalOps.Investigation

namespace ReservationLedger

/-- Two ledgers that differ at most in the evidence that each settled itself. -/
structure SameBooks (ledger other : ReservationLedger) : Prop where
  budget : ledger.budget = other.budget
  runbookBudget : ledger.runbookBudget = other.runbookBudget
  receipts : ledger.receipts = other.receipts

section Books

variable {ledger other : ReservationLedger}

theorem SameBooks.slotsLeft (h : SameBooks ledger other) : ledger.slotsLeft = other.slotsLeft := by
  simp only [ReservationLedger.slotsLeft, spent, h.budget, h.receipts]

theorem SameBooks.runbookSlotsLeft (h : SameBooks ledger other) :
    ledger.runbookSlotsLeft = other.runbookSlotsLeft := by
  simp only [ReservationLedger.runbookSlotsLeft, spent, h.runbookBudget, h.receipts]

theorem SameBooks.slotsLeftFor (h : SameBooks ledger other) (tool : ToolName) :
    ledger.slotsLeftFor tool = other.slotsLeftFor tool := by
  simp only [ReservationLedger.slotsLeftFor, h.slotsLeft, h.runbookSlotsLeft]

theorem SameBooks.put (h : SameBooks ledger other) (receipt : ToolReceipt) :
    SameBooks (ledger.put receipt) (other.put receipt) :=
  ⟨h.budget, h.runbookBudget, by simp only [ReservationLedger.put, h.receipts]⟩

theorem SameBooks.reserve (h : SameBooks ledger other) (receiptId incidentId : String)
    (tool : ToolName) (fingerprint : String) (requestedAt : Time) (arguments : ToolArguments) :
    (ledger.reserve receiptId incidentId tool fingerprint requestedAt arguments = none ∧
        other.reserve receiptId incidentId tool fingerprint requestedAt arguments = none) ∨
      ∃ receipt held held',
        ledger.reserve receiptId incidentId tool fingerprint requestedAt arguments =
            some (receipt, held) ∧
          other.reserve receiptId incidentId tool fingerprint requestedAt arguments =
            some (receipt, held') ∧ SameBooks held held' := by
  simp only [ReservationLedger.reserve, h.slotsLeftFor tool]
  by_cases hslots : other.slotsLeftFor tool ≤ 0
  · exact Or.inl ⟨by rw [if_pos hslots], by rw [if_pos hslots]⟩
  · exact Or.inr ⟨_, _, _, by rw [if_neg hslots], by rw [if_neg hslots], h.put _⟩

theorem SameBooks.settle (h : SameBooks ledger other) (receiptId : String)
    (outcome : ToolOutcome) (reasonCode : Option ReasonCode) (durationMs : ℤ)
    (resultDigest evidenceId : Option String) (evidence : Option Evidence) :
    (∃ escape, ledger.settle receiptId outcome reasonCode durationMs resultDigest evidenceId
          evidence = .error escape ∧
        other.settle receiptId outcome reasonCode durationMs resultDigest evidenceId evidence =
          .error escape) ∨
      ∃ receipt stored stored',
        ledger.settle receiptId outcome reasonCode durationMs resultDigest evidenceId evidence =
            .ok (receipt, stored) ∧
          other.settle receiptId outcome reasonCode durationMs resultDigest evidenceId evidence =
            .ok (receipt, stored') ∧ SameBooks stored stored' := by
  simp only [ReservationLedger.settle, h.receipts]
  cases Rows.lookup ToolReceipt.receiptId receiptId other.receipts with
  | none => exact Or.inl ⟨_, rfl, rfl⟩
  | some current =>
      dsimp only
      by_cases hstate : current.state ≠ .reserved
      · exact Or.inl ⟨_, if_pos hstate, if_pos hstate⟩
      by_cases hnegative : durationMs < 0
      · simp only [if_neg hstate, if_pos hnegative]
        exact Or.inl ⟨_, rfl, rfl⟩
      have hput := h.put (settledReceipt current outcome reasonCode durationMs.toNat resultDigest
        evidenceId)
      simp only [if_neg hstate, if_neg hnegative]
      cases evidence with
      | none => exact Or.inr ⟨_, _, _, rfl, rfl, hput⟩
      | some record =>
          exact Or.inr ⟨_, _, _, rfl, rfl, ⟨hput.budget, hput.runbookBudget, hput.receipts⟩⟩

theorem SameBooks.record (h : SameBooks ledger other) (receipt : ToolReceipt) :
    (∃ escape, ledger.record receipt = .error escape ∧ other.record receipt = .error escape) ∨
      ∃ stored stored', ledger.record receipt = .ok stored ∧ other.record receipt = .ok stored' ∧
        SameBooks stored stored' := by
  simp only [ReservationLedger.record, h.receipts]
  split
  · exact Or.inl ⟨_, rfl, rfl⟩
  split
  · exact Or.inl ⟨_, rfl, rfl⟩
  split
  · exact Or.inl ⟨_, rfl, rfl⟩
  · exact Or.inr ⟨_, _, rfl, rfl, ⟨h.budget, h.runbookBudget, rfl⟩⟩

end Books

end ReservationLedger

open ReservationLedger (SameBooks)

section Dispatches

variable {ledger other : ReservationLedger}

/-- Two dispatches that leave the same, but for the evidence of their ledgers. -/
structure SameDispatched (dispatched other : Dispatched) : Prop where
  books : SameBooks dispatched.ledger other.ledger
  seen : dispatched.seen = other.seen
  called : dispatched.called = other.called
  outcome : dispatched.outcome = other.outcome

theorem finishSearch_same (h : SameBooks ledger other) (outside : Outside) (receiptId : String) :
    SameBooks (finishSearch outside ledger receiptId).1 (finishSearch outside other receiptId).1 ∧
      (finishSearch outside ledger receiptId).2 = (finishSearch outside other receiptId).2 := by
  simp only [finishSearch]
  cases outside.search with
  | error escape => exact ⟨h, rfl⟩
  | ok found =>
      rcases h.settle receiptId found.outcome found.reasonCode found.durationMs none none none with
        ⟨escape, hleft, hright⟩ | ⟨receipt, stored, stored', hleft, hright, hbooks⟩
      · simp only [hleft, hright]
        exact ⟨h, trivial⟩
      · simp only [hleft, hright]
        exact ⟨hbooks, trivial⟩

theorem finishCheck_same (hashing : Hashing) (scope : IncidentScope) (h : SameBooks ledger other)
    (outside : Outside) (receiptId : String) :
    SameBooks (finishCheck hashing scope outside ledger receiptId).1
        (finishCheck hashing scope outside other receiptId).1 ∧
      (finishCheck hashing scope outside ledger receiptId).2 =
        (finishCheck hashing scope outside other receiptId).2 := by
  simp only [finishCheck]
  cases outside.check with
  | error escape => exact ⟨h, rfl⟩
  | ok found =>
      dsimp only
      by_cases hexecuted : found.outcome = .executed
      · simp only [if_pos hexecuted]
        cases buildEvidence hashing outside.evidenceId scope.incidentId outside.observedAt found
            receiptId with
        | error escape => exact ⟨h, rfl⟩
        | ok evidence =>
            dsimp only
            rcases h.settle receiptId found.outcome found.reasonCode found.durationMs
                (some evidence.contentHash) (some evidence.evidenceId) (some evidence) with
              ⟨escape, hleft, hright⟩ | ⟨receipt, stored, stored', hleft, hright, hbooks⟩
            · simp only [hleft, hright]
              exact ⟨h, trivial⟩
            · simp only [hleft, hright]
              exact ⟨hbooks, trivial⟩
      · simp only [if_neg hexecuted]
        rcases h.settle receiptId found.outcome found.reasonCode found.durationMs none none none
          with ⟨escape, hleft, hright⟩ | ⟨receipt, stored, stored', hleft, hright, hbooks⟩
        · simp only [hleft, hright]
          exact ⟨h, trivial⟩
        · simp only [hleft, hright]
          exact ⟨hbooks, trivial⟩

theorem dispatch_same (hashing : Hashing) (proposal : ToolProposal) (scope : IncidentScope)
    (seen : Finset String) (budgets : Budgets) (h : SameBooks ledger other) (outside : Outside) :
    SameDispatched (dispatch hashing proposal scope seen budgets ledger outside)
      (dispatch hashing proposal scope seen budgets other outside) := by
  simp only [dispatch, h.slotsLeftFor]
  by_cases hstruck : struckAt outside .authorized
  · simp only [if_pos hstruck]
    exact ⟨h, rfl, rfl, rfl⟩
  simp only [if_neg hstruck]
  split
  · rcases h.record (deniedReceipt outside.receiptId
        (resolveEffectiveWindow proposal.arguments scope) scope
        (authorize hashing (resolveEffectiveWindow proposal.arguments scope) scope seen budgets
          (other.slotsLeftFor (resolveEffectiveWindow proposal.arguments scope).tool))
        outside.requestedAt) with
      ⟨escape, hleft, hright⟩ | ⟨stored, stored', hleft, hright, hbooks⟩
    · simp only [hleft, hright]
      exact ⟨h, rfl, rfl, rfl⟩
    · simp only [hleft, hright]
      exact ⟨hbooks, rfl, rfl, rfl⟩
  · rcases h.reserve outside.receiptId scope.incidentId
        (resolveEffectiveWindow proposal.arguments scope).tool
        (authorize hashing (resolveEffectiveWindow proposal.arguments scope) scope seen budgets
          (other.slotsLeftFor (resolveEffectiveWindow proposal.arguments scope).tool)).fingerprint
        outside.requestedAt (resolveEffectiveWindow proposal.arguments scope) with
      ⟨hleft, hright⟩ | ⟨receipt, held, held', hleft, hright, hbooks⟩
    · simp only [hleft, hright]
      exact ⟨h, rfl, rfl, rfl⟩
    · simp only [hleft, hright]
      split
      · obtain ⟨hledger, houtcome⟩ := finishSearch_same hbooks outside outside.receiptId
        exact ⟨hledger, rfl, rfl, houtcome⟩
      · obtain ⟨hledger, houtcome⟩ := finishCheck_same hashing scope hbooks outside
          outside.receiptId
        exact ⟨hledger, rfl, rfl, houtcome⟩

end Dispatches

section Live

variable {m : Monitor} {stored : Stored} {receipts : List ToolReceipt} {proposed : Proposed}

/-- One ledger kept through a whole sequence, with every dispatch so far. -/
structure Live where
  ledger : ReservationLedger
  seen : Finset String
  trace : List Record

def Live.start (m : Monitor) : Live :=
  ⟨ReservationLedger.empty m.budgets.executedTools m.budgets.runbookSearches, ∅, []⟩

def stepLive (m : Monitor) (live : Live) (proposed : Proposed) : Unit × Live :=
  let record := m.record live.ledger live.seen proposed
  ((), ⟨record.dispatched.ledger, record.dispatched.seen, live.trace ++ [record]⟩)

/-- The same dispatch, seen from the rebuilt ledger and from the live one. -/
structure SameRecord (m : Monitor) (record live : Record) : Prop where
  proposed : record.proposed = live.proposed
  decision : m.decision record = m.decision live
  called : record.dispatched.called = live.dispatched.called
  outcome : record.dispatched.outcome = live.dispatched.outcome
  seen : record.dispatched.seen = live.dispatched.seen
  books : SameBooks record.dispatched.ledger live.dispatched.ledger

/-- What is stored and a live ledger after the same dispatches. -/
structure Mirrors (m : Monitor) (stored : Stored) (live : Live) : Prop where
  monitored : Monitored m stored live.ledger.receipts
  books : SameBooks (ledgerOf m.budgets live.ledger.receipts) live.ledger
  seen : stored.seen = live.seen
  trace : List.Forall₂ (SameRecord m) stored.trace live.trace

theorem mirrors_start (m : Monitor) : Mirrors m Stored.empty (Live.start m) :=
  ⟨monitored_empty m, ⟨rfl, rfl, rfl⟩, rfl, .nil⟩

theorem sameRecord {ledger other : ReservationLedger} (h : SameBooks ledger other)
    (seen : Finset String) (proposed : Proposed) :
    SameRecord m (m.record ledger seen proposed) (m.record other seen proposed) :=
  have hsame := dispatch_same m.hashing proposed.proposal m.scope seen m.budgets h
    proposed.outside
  { proposed := rfl
    decision := by simp only [Monitor.decision, Monitor.record, decisionOf, h.slotsLeftFor]
    called := hsame.called
    outcome := hsame.outcome
    seen := hsame.seen
    books := hsame.books }

theorem Mirrors.step {live : Live} (h : Mirrors m stored live) (hfaithful : m.pydantic.Faithful)
    (hnew : New stored proposed) :
    Mirrors m (stepStored m stored proposed).2 (stepLive m live proposed).2 := by
  have hunused := h.monitored.unused hnew
  have hsame : SameRecord m
      (m.record (ledgerOf m.budgets live.ledger.receipts) stored.seen proposed)
      (m.record live.ledger stored.seen proposed) := sameRecord h.books stored.seen proposed
  have hstep := h.monitored.step hfaithful hunused
  have hstored := h.monitored.stored_step hfaithful proposed
  obtain ⟨added, -, -, hbudget, hrunbook, -⟩ := @dispatch_adds m.hashing proposed.proposal m.scope
    stored.seen m.budgets (ledgerOf m.budgets live.ledger.receipts) proposed.outside hunused
  have hlive : (stepLive m live proposed).2 =
      ⟨(m.record live.ledger stored.seen proposed).dispatched.ledger,
        (m.record live.ledger stored.seen proposed).dispatched.seen,
        live.trace ++ [m.record live.ledger stored.seen proposed]⟩ := by
    rw [h.seen]
    rfl
  rw [hsame.books.receipts] at hstep
  rw [hlive]
  refine ⟨hstep, ?_, ?_, ?_⟩
  · exact ⟨hbudget.symm.trans hsame.books.budget, hrunbook.symm.trans hsame.books.runbookBudget,
      rfl⟩
  · rw [hstored]
    exact hsame.seen
  · rw [hstored]
    exact List.rel_append h.trace (.cons hsame .nil)

theorem mirrors_run (hfaithful : m.pydantic.Faithful) (sequence : List Proposed)
    (hadmits : Machine.Admits (stepStored m) New Stored.empty sequence) :
    Mirrors m (Machine.run (stepStored m) Stored.empty sequence).2
      (Machine.run (stepLive m) (Live.start m) sequence).2 :=
  have hstep : ∀ (stored : Stored) (live : Live) (proposed : Proposed), Mirrors m stored live →
      New stored proposed → (stepStored m stored proposed).1 = (stepLive m live proposed).1 ∧
        Mirrors m (stepStored m stored proposed).2 (stepLive m live proposed).2 :=
    fun _ _ _ h hnew => ⟨rfl, h.step hfaithful hnew⟩
  (Machine.run_simulation hstep sequence Stored.empty (Live.start m) (mirrors_start m) hadmits).2

end Live

section Lifecycle

/-- The operations of a ledger, each reservation under an id that it mints. -/
inductive LedgerOp where
  | reserve (receiptId incidentId : String) (tool : ToolName) (fingerprint : String)
      (requestedAt : Time) (arguments : ToolArguments)
  | settle (receiptId : String) (outcome : ToolOutcome) (reasonCode : Option ReasonCode)
      (durationMs : ℤ) (resultDigest evidenceId : Option String) (evidence : Option Evidence)
  | record (receipt : ToolReceipt)

/-- A call on a ledger object: what it returns or raises, and the object as it leaves it. -/
abbrev LedgerCall (α : Type) := ExceptT Escape (StateM ReservationLedger) α

/-- `reserve`, statement by statement. -/
def reserveCall (receiptId incidentId : String) (tool : ToolName) (fingerprint : String)
    (requestedAt : Time) (arguments : ToolArguments) : LedgerCall (Option ToolReceipt) := do
  let ledger ← get
  if ledger.slotsLeftFor tool ≤ 0 then return none
  else
    let receipt := ReservationLedger.reservedReceipt receiptId incidentId tool fingerprint
      requestedAt arguments
    modify fun ledger => ledger.put receipt
    return some receipt

/-- `settle`: the settled receipt is validated before it is stored. -/
def settleCall (receiptId : String) (outcome : ToolOutcome) (reasonCode : Option ReasonCode)
    (durationMs : ℤ) (resultDigest evidenceId : Option String) (evidence : Option Evidence) :
    LedgerCall ToolReceipt := do
  let ledger ← get
  match Rows.lookup ToolReceipt.receiptId receiptId ledger.receipts with
  | none => throw (.raised "ReceiptAlreadySettled")
  | some current =>
      if current.state ≠ .reserved then throw (.raised "ReceiptAlreadySettled")
      else if durationMs < 0 then throw (.raised "ValidationError")
      else
        let settled := ReservationLedger.settledReceipt current outcome reasonCode
          durationMs.toNat resultDigest evidenceId
        modify fun ledger => ledger.put settled
        match evidence with
        | none => return settled
        | some record =>
            modify fun ledger =>
              { ledger with evidence := Rows.put Prod.fst (receiptId, record) ledger.evidence }
            return settled

def recordCall (receipt : ToolReceipt) : LedgerCall PUnit := do
  if receipt.state ≠ .settled then throw (.raised "ValueError")
  else
    let ledger ← get
    if ledger.receipts.any fun old => old.receiptId = receipt.receiptId then
      throw (.raised "ValueError")
    else if receipt.policyResult ≠ .denied then throw (.raised "ValueError")
    else modify fun ledger => { ledger with receipts := ledger.receipts ++ [receipt] }

/-- The call of an operation, and whether it accepts. -/
def LedgerOp.call : LedgerOp → LedgerCall Bool
  | .reserve receiptId incidentId tool fingerprint requestedAt arguments =>
      Option.isSome <$>
        reserveCall receiptId incidentId tool fingerprint requestedAt arguments
  | .settle receiptId outcome reasonCode durationMs resultDigest evidenceId evidence =>
      (fun _ => true) <$>
        settleCall receiptId outcome reasonCode durationMs resultDigest evidenceId evidence
  | .record receipt => (fun _ => true) <$> recordCall receipt

/-- Whether an operation is accepted, and the ledger as the call leaves it. -/
def ledgerStep (ledger : ReservationLedger) (op : LedgerOp) : Bool × ReservationLedger :=
  let (result, after) := (ExceptT.run op.call).run ledger
  (match result with
    | .ok accepted => accepted
    | .error _ => false, after)

section Calls

variable {α β : Type} (ledger : ReservationLedger)

theorem run_get (next : ReservationLedger → LedgerCall α) :
    (ExceptT.run (get >>= next)).run ledger = (ExceptT.run (next ledger)).run ledger := rfl

theorem run_map (f : α → β) (call : LedgerCall α) :
    (ExceptT.run (f <$> call)).run ledger =
      (((ExceptT.run call).run ledger).1.map f, ((ExceptT.run call).run ledger).2) := by
  change Id.run (StateT.run (ExceptT.run (f <$> call)) ledger) = _
  rw [ExceptT.run_map, StateT.run_map]
  rfl

/-- `reserve` as a function of the ledger. -/
theorem reserveCall_run (receiptId incidentId : String) (tool : ToolName) (fingerprint : String)
    (requestedAt : Time) (arguments : ToolArguments) :
    (ExceptT.run (reserveCall receiptId incidentId tool fingerprint requestedAt arguments)).run
        ledger =
      match ledger.reserve receiptId incidentId tool fingerprint requestedAt arguments with
      | none => (.ok none, ledger)
      | some (receipt, held) => (.ok (some receipt), held) := by
  rw [reserveCall, run_get, ReservationLedger.reserve]
  split <;> rfl

/-- `settle` as a function of the ledger: a call that raises has stored nothing. -/
theorem settleCall_run (receiptId : String) (outcome : ToolOutcome)
    (reasonCode : Option ReasonCode) (durationMs : ℤ) (resultDigest evidenceId : Option String)
    (evidence : Option Evidence) :
    (ExceptT.run (settleCall receiptId outcome reasonCode durationMs resultDigest evidenceId
        evidence)).run ledger =
      match ledger.settle receiptId outcome reasonCode durationMs resultDigest evidenceId
        evidence with
      | .error escape => (.error escape, ledger)
      | .ok (receipt, stored) => (.ok receipt, stored) := by
  rw [settleCall, run_get, ReservationLedger.settle]
  cases Rows.lookup ToolReceipt.receiptId receiptId ledger.receipts with
  | none => rfl
  | some current =>
      dsimp only
      split
      · rfl
      split
      · rfl
      · cases evidence <;> rfl

theorem recordCall_run (receipt : ToolReceipt) :
    (ExceptT.run (recordCall receipt)).run ledger =
      match ledger.record receipt with
      | .error escape => (.error escape, ledger)
      | .ok stored => (.ok ⟨⟩, stored) := by
  rw [recordCall, ReservationLedger.record]
  split
  · rfl
  rw [run_get]
  split
  · rfl
  split <;> rfl

theorem ledgerStep_reserve (receiptId incidentId : String) (tool : ToolName)
    (fingerprint : String) (requestedAt : Time) (arguments : ToolArguments) :
    ledgerStep ledger (.reserve receiptId incidentId tool fingerprint requestedAt arguments) =
      match ledger.reserve receiptId incidentId tool fingerprint requestedAt arguments with
      | none => (false, ledger)
      | some (_, held) => (true, held) := by
  rw [ledgerStep, LedgerOp.call, run_map, reserveCall_run]
  cases ledger.reserve receiptId incidentId tool fingerprint requestedAt arguments <;> rfl

theorem ledgerStep_settle (receiptId : String) (outcome : ToolOutcome)
    (reasonCode : Option ReasonCode) (durationMs : ℤ) (resultDigest evidenceId : Option String)
    (evidence : Option Evidence) :
    ledgerStep ledger (.settle receiptId outcome reasonCode durationMs resultDigest evidenceId
        evidence) =
      match ledger.settle receiptId outcome reasonCode durationMs resultDigest evidenceId
        evidence with
      | .error _ => (false, ledger)
      | .ok (_, stored) => (true, stored) := by
  rw [ledgerStep, LedgerOp.call, run_map, settleCall_run]
  cases ledger.settle receiptId outcome reasonCode durationMs resultDigest evidenceId evidence <;>
    rfl

theorem ledgerStep_record (receipt : ToolReceipt) :
    ledgerStep ledger (.record receipt) =
      match ledger.record receipt with
      | .error _ => (false, ledger)
      | .ok stored => (true, stored) := by
  rw [ledgerStep, LedgerOp.call, run_map, recordCall_run]
  cases ledger.record receipt <;> rfl

end Calls

def Minted (ledger : ReservationLedger) : LedgerOp → Prop
  | .reserve receiptId .. => ReservationLedger.Unused receiptId ledger.receipts
  | _ => True

def receiptOf (ledger : ReservationLedger) (receiptId : String) : Option ToolReceipt :=
  Rows.lookup ToolReceipt.receiptId receiptId ledger.receipts

inductive Moves : Option ToolReceipt → Option ToolReceipt → Prop
  | same (receipt : Option ToolReceipt) : Moves receipt receipt
  | reserved (receipt : ToolReceipt) (hstate : receipt.state = .reserved) :
      Moves none (some receipt)
  | settled (reserved receipt : ToolReceipt) (hreserved : reserved.state = .reserved)
      (hstate : receipt.state = .settled) : Moves (some reserved) (some receipt)
  | denied (receipt : ToolReceipt) (hstate : receipt.state = .settled)
      (hdenied : receipt.policyResult = .denied) : Moves none (some receipt)

def Advances (ledger next : ReservationLedger) : Prop :=
  ∀ receiptId, Moves (receiptOf ledger receiptId) (receiptOf next receiptId)

def KeepsSettled (ledger next : ReservationLedger) : Prop :=
  ∀ receiptId receipt, receiptOf ledger receiptId = some receipt → receipt.state = .settled →
    receiptOf next receiptId = some receipt

theorem Advances.keepsSettled {ledger next : ReservationLedger} (h : Advances ledger next) :
    KeepsSettled ledger next := by
  intro receiptId receipt hfound hsettled
  have hmoves := h receiptId
  rw [hfound] at hmoves
  generalize receiptOf next receiptId = after at hmoves
  cases hmoves with
  | same => rfl
  | settled reserved receipt hreserved hstate =>
      rw [hsettled] at hreserved
      cases hreserved

instance : Trans KeepsSettled KeepsSettled KeepsSettled where
  trans h h' := fun receiptId receipt hfound hsettled =>
    h' receiptId receipt (h receiptId receipt hfound hsettled) hsettled

theorem advances_refl (ledger : ReservationLedger) : Advances ledger ledger :=
  fun _ => .same _

theorem advances_put {ledger next : ReservationLedger} (receipt : ToolReceipt)
    (hreceipts : next.receipts = Rows.put ToolReceipt.receiptId receipt ledger.receipts)
    (hmoves : Moves (receiptOf ledger receipt.receiptId) (some receipt)) :
    Advances ledger next := by
  intro receiptId
  simp only [receiptOf, hreceipts, Rows.lookup_put] at hmoves ⊢
  split
  · rename_i heq
    rw [← heq]
    exact hmoves
  · exact .same _

theorem settle_ok {ledger stored : ReservationLedger} {receiptId : String} {outcome : ToolOutcome}
    {reasonCode : Option ReasonCode} {durationMs : ℤ} {resultDigest evidenceId : Option String}
    {evidence : Option Evidence} {receipt : ToolReceipt}
    (h : ledger.settle receiptId outcome reasonCode durationMs resultDigest evidenceId evidence =
      .ok (receipt, stored)) :
    ∃ current, receiptOf ledger receiptId = some current ∧ current.state = .reserved ∧
      receipt.receiptId = current.receiptId ∧ receipt.state = .settled ∧
      stored.receipts = Rows.put ToolReceipt.receiptId receipt ledger.receipts := by
  simp only [ReservationLedger.settle] at h
  split at h
  · cases h
  rename_i current hcurrent
  split at h
  · cases h
  rename_i hstate
  split at h
  · cases h
  have hfields : receipt = ReservationLedger.settledReceipt current outcome reasonCode
        durationMs.toNat resultDigest evidenceId ∧
      stored.receipts = Rows.put ToolReceipt.receiptId receipt ledger.receipts := by
    cases evidence with
    | none =>
        obtain ⟨rfl, rfl⟩ := Prod.mk.inj (Except.ok.inj h)
        exact ⟨rfl, rfl⟩
    | some record =>
        obtain ⟨rfl, rfl⟩ := Prod.mk.inj (Except.ok.inj h)
        exact ⟨rfl, rfl⟩
  obtain ⟨rfl, hreceipts⟩ := hfields
  exact ⟨current, hcurrent, not_not.1 hstate, rfl, rfl, hreceipts⟩

theorem record_ok {ledger stored : ReservationLedger} {receipt : ToolReceipt}
    (h : ledger.record receipt = .ok stored) :
    receiptOf ledger receipt.receiptId = none ∧ receipt.state = .settled ∧
      receipt.policyResult = .denied ∧
      stored.receipts = Rows.put ToolReceipt.receiptId receipt ledger.receipts := by
  simp only [ReservationLedger.record] at h
  split at h
  · cases h
  rename_i hstate
  split at h
  · cases h
  rename_i hpresent
  split at h
  · cases h
  rename_i hpolicy
  obtain rfl := Except.ok.inj h
  have habsent : receiptOf ledger receipt.receiptId = none :=
    Rows.lookup_eq_none.2 (by simpa using hpresent)
  exact ⟨habsent, not_not.1 hstate, not_not.1 hpolicy, (Rows.put_of_absent habsent).symm⟩

/-- One operation, whether accepted or refused, moves every receipt along its lifecycle. -/
theorem ledgerStep_advances (ledger : ReservationLedger) (op : LedgerOp)
    (hminted : Minted ledger op) : Advances ledger (ledgerStep ledger op).2 := by
  cases op with
  | reserve receiptId incidentId tool fingerprint requestedAt arguments =>
      simp only [ledgerStep_reserve]
      split
      · exact advances_refl ledger
      · rename_i receipt held hreserve
        obtain ⟨rfl, rfl⟩ := reserve_some hreserve
        have habsent : receiptOf ledger receiptId = none := Rows.lookup_eq_none.2 hminted
        refine advances_put _ rfl ?_
        change Moves (receiptOf ledger receiptId) _
        rw [habsent]
        exact .reserved _ rfl
  | settle receiptId outcome reasonCode durationMs resultDigest evidenceId evidence =>
      simp only [ledgerStep_settle]
      split
      · exact advances_refl ledger
      · rename_i receipt stored hsettle
        obtain ⟨current, hcurrent, hreserved, hid, hstate, hreceipts⟩ := settle_ok hsettle
        refine advances_put receipt hreceipts ?_
        rw [hid, Rows.lookup_key hcurrent, hcurrent]
        exact .settled _ _ hreserved hstate
  | record receipt =>
      simp only [ledgerStep_record]
      split
      · exact advances_refl ledger
      · rename_i stored hrecord
        obtain ⟨habsent, hstate, hpolicy, hreceipts⟩ := record_ok hrecord
        refine advances_put receipt hreceipts ?_
        rw [habsent]
        exact .denied _ hstate hpolicy

theorem ledgerStep_refused (ledger : ReservationLedger) (op : LedgerOp)
    (hrefused : (ledgerStep ledger op).1 = false) : (ledgerStep ledger op).2 = ledger := by
  cases op with
  | reserve receiptId incidentId tool fingerprint requestedAt arguments =>
      simp only [ledgerStep_reserve] at hrefused ⊢
      split at hrefused <;> simp_all
  | settle receiptId outcome reasonCode durationMs resultDigest evidenceId evidence =>
      simp only [ledgerStep_settle] at hrefused ⊢
      split at hrefused <;> simp_all
  | record receipt =>
      simp only [ledgerStep_record] at hrefused ⊢
      split at hrefused <;> simp_all

/-- Every run of operations moves every receipt along its lifecycle at each step. -/
theorem ledger_visited (ops : List LedgerOp) (ledger : ReservationLedger)
    (hminted : Machine.Admits ledgerStep Minted ledger ops) :
    (Machine.visited ledgerStep ledger ops).IsChain Advances :=
  have hstep : ∀ (ledger : ReservationLedger) (op : LedgerOp), True → Minted ledger op →
      True ∧ Advances ledger (ledgerStep ledger op).2 :=
    fun ledger op _ hminted => ⟨trivial, ledgerStep_advances ledger op hminted⟩
  Machine.visited_chain hstep ops ledger trivial hminted

/-- The operations that a settlement makes of a reserved ledger, if it comes to one. -/
theorem settle_ops (ledger : ReservationLedger) (receiptId : String) (outcome : ToolOutcome)
    (reasonCode : Option ReasonCode) (durationMs : ℤ) (resultDigest evidenceId : Option String)
    (evidence : Option Evidence) :
    (match ledger.settle receiptId outcome reasonCode durationMs resultDigest evidenceId
        evidence with
      | .error _ => ledger
      | .ok (_, stored) => stored) =
      (ledgerStep ledger (.settle receiptId outcome reasonCode durationMs resultDigest evidenceId
        evidence)).2 := by
  simp only [ledgerStep_settle]
  split <;> rfl

theorem finishSearch_ops (outside : Outside) (ledger : ReservationLedger) (receiptId : String) :
    (finishSearch outside ledger receiptId).1 = ledger ∨
      ∃ outcome reasonCode durationMs, (finishSearch outside ledger receiptId).1 =
        (ledgerStep ledger (.settle receiptId outcome reasonCode durationMs none none none)).2 := by
  simp only [finishSearch]
  cases outside.search with
  | error escape => exact Or.inl rfl
  | ok found =>
      refine Or.inr ⟨found.outcome, found.reasonCode, found.durationMs, ?_⟩
      rw [← settle_ops]
      dsimp only
      cases ledger.settle receiptId found.outcome found.reasonCode found.durationMs none none
        none <;> rfl

theorem finishCheck_ops (hashing : Hashing) (scope : IncidentScope) (outside : Outside)
    (ledger : ReservationLedger) (receiptId : String) :
    (finishCheck hashing scope outside ledger receiptId).1 = ledger ∨
      ∃ outcome reasonCode durationMs resultDigest evidenceId evidence,
        (finishCheck hashing scope outside ledger receiptId).1 =
          (ledgerStep ledger (.settle receiptId outcome reasonCode durationMs resultDigest
            evidenceId evidence)).2 := by
  simp only [finishCheck]
  cases outside.check with
  | error escape => exact Or.inl rfl
  | ok found =>
      dsimp only
      by_cases hexecuted : found.outcome = .executed
      · simp only [if_pos hexecuted]
        cases buildEvidence hashing outside.evidenceId scope.incidentId outside.observedAt found
            receiptId with
        | error escape => exact Or.inl rfl
        | ok evidence =>
            refine Or.inr ⟨found.outcome, found.reasonCode, found.durationMs,
              some evidence.contentHash, some evidence.evidenceId, some evidence, ?_⟩
            rw [← settle_ops]
            dsimp only
            cases ledger.settle receiptId found.outcome found.reasonCode found.durationMs
              (some evidence.contentHash) (some evidence.evidenceId) (some evidence) <;> rfl
      · refine Or.inr ⟨found.outcome, found.reasonCode, found.durationMs, none, none, none, ?_⟩
        rw [← settle_ops]
        simp only [if_neg hexecuted]
        cases ledger.settle receiptId found.outcome found.reasonCode found.durationMs none none
          none <;> rfl

theorem keepsSettled_run (ops : List LedgerOp) :
    ∀ ledger : ReservationLedger, Machine.Admits ledgerStep Minted ledger ops →
      KeepsSettled ledger (Machine.run ledgerStep ledger ops).2 := by
  induction ops with
  | nil => exact fun ledger _ => (advances_refl ledger).keepsSettled
  | cons op rest ih =>
      rintro ledger ⟨hminted, hrest⟩
      rw [Machine.run_cons]
      exact Trans.trans (ledgerStep_advances ledger op hminted).keepsSettled (ih _ hrest)

def Monitor.reservation (m : Monitor) (record : Record) : LedgerOp :=
  let effective := resolveEffectiveWindow record.proposed.proposal.arguments m.scope
  .reserve record.proposed.outside.receiptId m.scope.incidentId effective.tool
    (m.decision record).fingerprint record.proposed.outside.requestedAt effective

def Monitor.denial (m : Monitor) (record : Record) : LedgerOp :=
  .record (deniedReceipt record.proposed.outside.receiptId
    (resolveEffectiveWindow record.proposed.proposal.arguments m.scope) m.scope
    (m.decision record) record.proposed.outside.requestedAt)

/-- The calls that a dispatch makes on its ledger: a denial, a reservation, or a reservation
and its settlement; none where an exception strikes before them. -/
inductive LedgerCalls (m : Monitor) (record : Record) : List LedgerOp → Prop
  | struck : LedgerCalls m record []
  | denied (hdenied : (m.decision record).result = .denied) :
      LedgerCalls m record [m.denial record]
  | reserved (hallowed : (m.decision record).result ≠ .denied) :
      LedgerCalls m record [m.reservation record]
  | settled (hallowed : (m.decision record).result ≠ .denied) (outcome : ToolOutcome)
      (reasonCode : Option ReasonCode) (durationMs : ℤ) (resultDigest evidenceId : Option String)
      (evidence : Option Evidence) :
      LedgerCalls m record [m.reservation record,
        .settle record.proposed.outside.receiptId outcome reasonCode durationMs resultDigest
          evidenceId evidence]

/-- The ledger that a dispatch leaves is the one its calls leave of the ledger it was given. -/
theorem dispatch_calls (m : Monitor) (ledger : ReservationLedger) (seen : Finset String)
    (proposed : Proposed)
    (hunused : ReservationLedger.Unused proposed.outside.receiptId ledger.receipts) :
    ∃ ops, LedgerCalls m (m.record ledger seen proposed) ops ∧
      Machine.Admits ledgerStep Minted ledger ops ∧
      (Machine.run ledgerStep ledger ops).2 =
        (m.record ledger seen proposed).dispatched.ledger := by
  generalize hrecord : m.record ledger seen proposed = record
  have hdispatched : record.dispatched = dispatch m.hashing proposed.proposal m.scope seen
      m.budgets ledger proposed.outside := by rw [← hrecord]; rfl
  have hdenial : m.denial record = .record (deniedReceipt proposed.outside.receiptId
      (resolveEffectiveWindow proposed.proposal.arguments m.scope) m.scope
      (m.decision record) proposed.outside.requestedAt) := by rw [← hrecord]; rfl
  have hreservation : m.reservation record = .reserve proposed.outside.receiptId
      m.scope.incidentId (resolveEffectiveWindow proposed.proposal.arguments m.scope).tool
      (m.decision record).fingerprint proposed.outside.requestedAt
      (resolveEffectiveWindow proposed.proposal.arguments m.scope) := by rw [← hrecord]; rfl
  have hdecision : authorize m.hashing
      (resolveEffectiveWindow proposed.proposal.arguments m.scope) m.scope seen m.budgets
      (ledger.slotsLeftFor (resolveEffectiveWindow proposed.proposal.arguments m.scope).tool) =
      m.decision record := by rw [← hrecord]; rfl
  have hreceipt : record.proposed.outside.receiptId = proposed.outside.receiptId := by
    rw [← hrecord]
    rfl
  simp only [hdispatched, dispatch, hdecision]
  split
  · exact ⟨[], .struck, trivial, rfl⟩
  split
  · rename_i hdenied
    refine ⟨[m.denial record], .denied hdenied, ?_⟩
    rw [hdenial]
    refine ⟨⟨trivial, trivial⟩, ?_⟩
    simp only [Machine.run_cons, Machine.run_nil, ledgerStep_record]
    cases ledger.record (deniedReceipt proposed.outside.receiptId
      (resolveEffectiveWindow proposed.proposal.arguments m.scope) m.scope (m.decision record)
      proposed.outside.requestedAt) <;> rfl
  rename_i hallowed
  have hminted : Minted ledger (m.reservation record) := by
    rw [hreservation]
    exact hunused
  split
  · exact ⟨[], .struck, trivial, rfl⟩
  rename_i receipt held hreserve
  have hheld : (ledgerStep ledger (m.reservation record)).2 = held := by
    simp only [hreservation, ledgerStep_reserve, hreserve]
  -- what follows the reservation either leaves it or settles it
  have hthen : ∀ finished : ReservationLedger,
      (finished = held ∨ ∃ outcome reasonCode durationMs resultDigest evidenceId evidence,
        finished = (ledgerStep held (.settle proposed.outside.receiptId outcome reasonCode
          durationMs resultDigest evidenceId evidence)).2) →
      ∃ ops, LedgerCalls m record ops ∧ Machine.Admits ledgerStep Minted ledger ops ∧
        (Machine.run ledgerStep ledger ops).2 = finished := by
    rintro finished (rfl | ⟨outcome, reasonCode, durationMs, digest, evidenceId, evidence, rfl⟩)
    · exact ⟨[m.reservation record], .reserved hallowed, ⟨hminted, trivial⟩, hheld⟩
    · refine ⟨_, .settled hallowed outcome reasonCode durationMs digest evidenceId evidence,
        ⟨hminted, trivial, trivial⟩, ?_⟩
      simp only [Machine.run_cons, Machine.run_nil, hheld, hreceipt]
  apply hthen
  split
  · rcases finishSearch_ops proposed.outside held proposed.outside.receiptId with
      hsame | ⟨_, _, _, hsettled⟩
    · exact Or.inl hsame
    · exact Or.inr ⟨_, _, _, _, _, _, hsettled⟩
  · exact finishCheck_ops m.hashing m.scope proposed.outside held proposed.outside.receiptId

/-- Dispatch after dispatch, each one's calls made on the ledger that the one before it left. -/
inductive Performs (m : Monitor) :
    ReservationLedger → List Record → List LedgerOp → ReservationLedger → Prop
  | nil (ledger : ReservationLedger) : Performs m ledger [] [] ledger
  | cons {record : Record} {ops later : List LedgerOp} {records : List Record}
      {last : ReservationLedger} (hcalls : LedgerCalls m record ops)
      (hminted : Machine.Admits ledgerStep Minted record.ledger ops)
      (hreached : (Machine.run ledgerStep record.ledger ops).2 = record.dispatched.ledger)
      (hrest : Performs m record.dispatched.ledger records later last) :
      Performs m record.ledger (record :: records) (ops ++ later) last

section Performs

variable {m : Monitor} {ledger last : ReservationLedger} {records : List Record}
  {ops : List LedgerOp}

theorem Performs.append {later : List LedgerOp} {added : List Record} {next : ReservationLedger}
    (h : Performs m ledger records ops last) (hadded : Performs m last added later next) :
    Performs m ledger (records ++ added) (ops ++ later) next := by
  induction h with
  | nil => exact hadded
  | cons hcalls hminted hreached _ ih =>
      rw [List.append_assoc]
      exact .cons hcalls hminted hreached (ih hadded)

theorem Performs.run (h : Performs m ledger records ops last) :
    Machine.Admits ledgerStep Minted ledger ops ∧
      (Machine.run ledgerStep ledger ops).2 = last := by
  induction h with
  | nil => exact ⟨trivial, rfl⟩
  | cons hcalls hminted hreached _ ih =>
      rw [Machine.admits_append, Machine.run_append, hreached]
      exact ⟨⟨hminted, ih.1⟩, ih.2⟩

/-- What one dispatch left settled stays as it is through every later dispatch. -/
theorem Performs.keepsSettled (h : Performs m ledger records ops last) :
    (ledger :: records.map fun record => record.dispatched.ledger).IsChain KeepsSettled := by
  induction h with
  | nil => exact List.IsChain.singleton _
  | cons hcalls hminted hreached _ ih =>
      have hkept := keepsSettled_run _ _ hminted
      rw [hreached] at hkept
      exact ih.cons_cons hkept

end Performs

end Lifecycle

section LedgerRebuild

variable {m : Monitor} {stored : Stored} {proposed : Proposed}

/-- The life of a live ledger: the calls of its dispatches, one after another, move every
receipt along its lifecycle, and what was settled is never changed. -/
structure Lived (m : Monitor) (live : Live) (ops : List LedgerOp) : Prop where
  performed : Performs m (Live.start m).ledger live.trace ops live.ledger
  advances : (Machine.visited ledgerStep (Live.start m).ledger ops).IsChain Advances
  settled : (Machine.visited ledgerStep (Live.start m).ledger ops).Pairwise KeepsSettled
  kept : ((Live.start m).ledger :: live.trace.map fun record =>
    record.dispatched.ledger).Pairwise KeepsSettled

theorem Performs.lived {live : Live} {ops : List LedgerOp}
    (h : Performs m (Live.start m).ledger live.trace ops live.ledger) : Lived m live ops :=
  have hchain := ledger_visited ops (Live.start m).ledger h.run.1
  { performed := h
    advances := hchain
    settled := (hchain.imp fun _ _ h => h.keepsSettled).pairwise
    kept := h.keepsSettled.pairwise }

theorem Performs.step {live : Live} {ops : List LedgerOp}
    (h : Performs m (Live.start m).ledger live.trace ops live.ledger) (proposed : Proposed)
    (hunused : ReservationLedger.Unused proposed.outside.receiptId live.ledger.receipts) :
    ∃ ops', Performs m (Live.start m).ledger (stepLive m live proposed).2.trace ops'
      (stepLive m live proposed).2.ledger := by
  obtain ⟨later, hcalls, hminted, hreached⟩ := dispatch_calls m live.ledger live.seen proposed
    hunused
  exact ⟨ops ++ (later ++ []), h.append (.cons hcalls hminted hreached (.nil _))⟩

/-- What a sequence leaves on rebuilt ledgers, beside what it leaves on a live one. -/
structure Rebuilt (m : Monitor) (stored : Stored) (live : Live) : Prop where
  dispatches : List.Forall₂ (SameRecord m) stored.trace live.trace
  receipts : stored.receipts = live.ledger.receipts.map (dumpReceipt m.pydantic)
  ledger : ∃ ledger, m.rebuild stored.receipts = .ok ledger ∧
    ledger.receipts = live.ledger.receipts ∧ ledger.slotsLeft = live.ledger.slotsLeft ∧
    ledger.runbookSlotsLeft = live.ledger.runbookSlotsLeft
  lifecycle : ∃ ops, Lived m live ops

theorem performs_run (hfaithful : m.pydantic.Faithful) (sequence : List Proposed) :
    ∀ (stored : Stored) (live : Live) (ops : List LedgerOp), Mirrors m stored live →
      Performs m (Live.start m).ledger live.trace ops live.ledger →
      Machine.Admits (stepStored m) New stored sequence →
      ∃ ops', Performs m (Live.start m).ledger
        (Machine.run (stepLive m) live sequence).2.trace ops'
        (Machine.run (stepLive m) live sequence).2.ledger := by
  induction sequence with
  | nil => intro stored live ops _ hops _; exact ⟨ops, hops⟩
  | cons proposed rest ih =>
      rintro stored live ops h hops ⟨hnew, hrest⟩
      obtain ⟨later, hlater⟩ := hops.step proposed (h.monitored.unused hnew)
      exact ih _ _ _ (h.step hfaithful hnew) hlater hrest

/-- Dispatching every proposal on a ledger rebuilt from the stored receipts gives the same
decisions, receipts and slots as one live ledger, whose receipts go through their lifecycle
once; an operation that is refused changes nothing. -/
theorem ledger_rebuild (m : Monitor) (hfaithful : m.pydantic.Faithful)
    (sequence : List Proposed)
    (hdistinct : (sequence.map fun proposed => proposed.outside.receiptId).Nodup) :
    ((Machine.run (stepLive m) (Live.start m) sequence).2.trace.map Record.proposed = sequence ∧
        Rebuilt m (Machine.run (stepStored m) Stored.empty sequence).2
          (Machine.run (stepLive m) (Live.start m) sequence).2) ∧
      ∀ (ledger : ReservationLedger) (op : LedgerOp),
        (ledgerStep ledger op).1 = false → (ledgerStep ledger op).2 = ledger := by
  have hadmits := distinct_admits m sequence Stored.empty (by simp [New, Stored.empty]) hdistinct
  have hmirrors := mirrors_run hfaithful sequence hadmits
  obtain ⟨ops, hops⟩ := performs_run hfaithful sequence Stored.empty (Live.start m) []
    (mirrors_start m) (.nil _) hadmits
  have hevery := (Monitored.run hfaithful sequence Stored.empty [] (monitored_empty m) hadmits).2
  have hsame : ∀ {left right : List Record}, List.Forall₂ (SameRecord m) left right →
      right.map Record.proposed = left.map Record.proposed := by
    intro left right hall
    induction hall with
    | nil => rfl
    | cons hrecord _ ih => simp [hrecord.proposed, ih]
  refine ⟨⟨(hsame hmirrors.trace).trans hevery, hmirrors.trace, hmirrors.monitored.dumped, ?_,
    ops, hops.lived⟩, ledgerStep_refused⟩
  exact ⟨_, hmirrors.monitored.rebuild hfaithful, hmirrors.books.receipts,
    hmirrors.books.slotsLeft, hmirrors.books.runbookSlotsLeft⟩

theorem ledger_rebuild_duplicate :
    ((Machine.run (stepLive labMonitor) (Live.start labMonitor) labSequence).2.trace.map
          Record.proposed = labSequence ∧
        Rebuilt labMonitor (Machine.run (stepStored labMonitor) Stored.empty labSequence).2
          (Machine.run (stepLive labMonitor) (Live.start labMonitor) labSequence).2) ∧
      ∀ (ledger : ReservationLedger) (op : LedgerOp),
        (ledgerStep ledger op).1 = false → (ledgerStep ledger op).2 = ledger :=
  ledger_rebuild labMonitor labPydantic_faithful labSequence (by decide)

end LedgerRebuild

end CausalOps.Investigation
