import CausalOps.Investigation.Evidence
import CausalOps.Investigation.Policy

set_option autoImplicit false

/-! The only path from a proposal to a backend: authorize, reserve, dispatch, settle.
The ledger is the list of every receipt of one investigation. -/

namespace CausalOps.Investigation

section Escapes

/-- Why a model request is refused before it is sent. -/
inductive MoneyRefusal where
  | costCeilingExceeded
  | inputTooLarge
  | ambiguousReservationNotResent
  deriving DecidableEq, Repr

/-- How a call leaves without a value: a refusal, an exception of a named class, or
LangGraph's own control-flow signal. -/
inductive Escape where
  | refused (refusal : MoneyRefusal)
  | raised (name : String)
  | bubbled
  deriving DecidableEq, Repr

def MoneyRefusal.name : MoneyRefusal → String
  | .costCeilingExceeded => "CostCeilingExceeded"
  | .inputTooLarge => "InputTooLarge"
  | .ambiguousReservationNotResent => "AmbiguousReservationNotResent"

/-- `type(error).__name__`. -/
def Escape.name : Escape → String
  | .refused refusal => refusal.name
  | .raised name => name
  | .bubbled => "GraphBubbleUp"

end Escapes

/-- The receipts in call order, and the evidence settled by this ledger itself. -/
structure ReservationLedger where
  budget : ℤ
  runbookBudget : ℤ
  receipts : List ToolReceipt
  evidence : List (String × Evidence)

namespace ReservationLedger

def isRunbook (receipt : ToolReceipt) : Bool := receipt.tool = .searchRunbooks

def spentOf (runbook : Bool) (receipts : List ToolReceipt) : ℕ :=
  receipts.countP fun receipt =>
    receipt.policyResult = .allowed && (isRunbook receipt == runbook)

def empty (executedToolsBudget runbookSearchesBudget : ℤ) : ReservationLedger :=
  ⟨executedToolsBudget, runbookSearchesBudget, [], []⟩

/-- Rebuild a ledger from the receipts that a state holds. -/
def fromReceipts (receipts : List ToolReceipt) (executedToolsBudget : ℤ)
    (runbookSearchesBudget : ℤ) : Except String ReservationLedger :=
  receipts.foldlM
    (fun ledger receipt =>
      if ledger.receipts.any fun old => old.receiptId = receipt.receiptId then
        .error ("duplicate receipt_id " ++ receipt.receiptId ++ " in from_receipts")
      else .ok { ledger with receipts := ledger.receipts ++ [receipt] })
    (empty executedToolsBudget runbookSearchesBudget)

def spent (ledger : ReservationLedger) (runbook : Bool) : ℕ := spentOf runbook ledger.receipts

def slotsLeft (ledger : ReservationLedger) : ℤ := ledger.budget - ledger.spent false

def runbookSlotsLeft (ledger : ReservationLedger) : ℤ :=
  ledger.runbookBudget - ledger.spent true

def slotsLeftFor (ledger : ReservationLedger) (tool : ToolName) : ℤ :=
  if tool = .searchRunbooks then ledger.runbookSlotsLeft else ledger.slotsLeft

def put (ledger : ReservationLedger) (receipt : ToolReceipt) : ReservationLedger :=
  { ledger with receipts := Rows.put ToolReceipt.receiptId receipt ledger.receipts }

def reservedReceipt (receiptId incidentId : String) (tool : ToolName) (fingerprint : String)
    (requestedAt : Time) (arguments : ToolArguments) : ToolReceipt where
  receiptId := receiptId
  incidentId := incidentId
  tool := tool
  fingerprint := fingerprint
  policyResult := .allowed
  state := .reserved
  outcome := none
  reasonCode := none
  requestedAt := requestedAt
  durationMs := 0
  resultDigest := none
  evidenceId := none
  arguments := some arguments
  coherent := ⟨rfl, rfl, rfl⟩

/-- Spend a slot and record a `RESERVED` receipt, or refuse when none is left. -/
def reserve (ledger : ReservationLedger) (receiptId incidentId : String) (tool : ToolName)
    (fingerprint : String) (requestedAt : Time) (arguments : ToolArguments) :
    Option (ToolReceipt × ReservationLedger) :=
  if ledger.slotsLeftFor tool ≤ 0 then none
  else
    let receipt := reservedReceipt receiptId incidentId tool fingerprint requestedAt arguments
    some (receipt, ledger.put receipt)

def settledReceipt (current : ToolReceipt) (outcome : ToolOutcome)
    (reasonCode : Option ReasonCode) (durationMs : ℕ) (resultDigest evidenceId : Option String) :
    ToolReceipt :=
  { current with
    state := .settled
    outcome := some outcome
    reasonCode := reasonCode
    durationMs := durationMs
    resultDigest := resultDigest
    evidenceId := evidenceId
    coherent := rfl }

/-- Replace a reserved receipt by its settled result. The receipt is validated anew,
so a negative duration is refused. -/
def settle (ledger : ReservationLedger) (receiptId : String) (outcome : ToolOutcome)
    (reasonCode : Option ReasonCode) (durationMs : ℤ) (resultDigest evidenceId : Option String)
    (evidence : Option Evidence) : Except Escape (ToolReceipt × ReservationLedger) :=
  match Rows.lookup ToolReceipt.receiptId receiptId ledger.receipts with
  | none => .error (.raised "ReceiptAlreadySettled")
  | some current =>
      if current.state ≠ .reserved then .error (.raised "ReceiptAlreadySettled")
      else if durationMs < 0 then .error (.raised "ValidationError")
      else
        let settled := settledReceipt current outcome reasonCode durationMs.toNat resultDigest
          evidenceId
        let stored := ledger.put settled
        match evidence with
        | none => .ok (settled, stored)
        | some record =>
            .ok (settled, { stored with
              evidence := Rows.put Prod.fst (receiptId, record) stored.evidence })

def record (ledger : ReservationLedger) (receipt : ToolReceipt) :
    Except Escape ReservationLedger :=
  if receipt.state ≠ .settled then .error (.raised "ValueError")
  else if ledger.receipts.any fun old => old.receiptId = receipt.receiptId then
    .error (.raised "ValueError")
  else if receipt.policyResult ≠ .denied then .error (.raised "ValueError")
  else .ok { ledger with receipts := ledger.receipts ++ [receipt] }

end ReservationLedger

section Dispatch

structure DispatchResult where
  receipt : ToolReceipt
  evidence : Option Evidence
  passages : List RunbookPassage
  retrievalMode : Option RetrievalMode
  message : String

/-- A point of the dispatching node at which an exception may strike although no call
to a backend failed. -/
inductive Strike where
  | lookup
  | authorized
  | settled
  | recorded (events : ℕ)
  deriving DecidableEq, Repr

/-- What the outside answers while a proposal is dispatched: fresh ids, two readings of
the clock, the backend's result, and where an exception strikes. -/
structure Outside where
  receiptId : String
  evidenceId : String
  requestedAt : Time
  observedAt : Time
  check : Except Escape CheckOutcome
  search : Except Escape RunbookCheckOutcome
  strike : Option Strike

/-- What a dispatch leaves: the ledger and the seen fingerprints whether or not it
returned a result, and the arguments with which a backend was called, if one was. -/
structure Dispatched where
  ledger : ReservationLedger
  seen : Finset String
  called : Option ToolArguments
  outcome : Except Escape DispatchResult

def deniedReceipt (receiptId : String) (arguments : ToolArguments) (scope : IncidentScope)
    (decision : PolicyDecision) (requestedAt : Time) : ToolReceipt where
  receiptId := receiptId
  incidentId := scope.incidentId
  tool := arguments.tool
  fingerprint := decision.fingerprint
  policyResult := .denied
  state := .settled
  outcome := some .notExecuted
  reasonCode := decision.reasonCode
  requestedAt := requestedAt
  durationMs := 0
  resultDigest := none
  evidenceId := none
  arguments := some arguments
  coherent := rfl

/-- `build_evidence`: the record is validated, so a long summary is refused. -/
def buildEvidence (hashing : Hashing) (evidenceId incidentId : String) (observedAt : Time)
    (outcome : CheckOutcome) (receiptId : String) : Except Escape Evidence :=
  if h : outcome.summary.length ≤ 400 then
    .ok { evidenceId := evidenceId
          incidentId := incidentId
          kind := outcome.kind
          source := outcome.source
          observedAt := observedAt
          summary := outcome.summary
          payload := outcome.payload
          receiptId := some receiptId
          contentHash := hashing.contentHash outcome.payload
          summaryBound := h }
  else .error (.raised "ValidationError")

/-- An exception at a point, when one strikes there. -/
def struckAt (outside : Outside) (point : Strike) : Bool := outside.strike = some point

/-- What follows a settlement that the ledger accepted. -/
def settledOutcome (outside : Outside) (result : DispatchResult) : Except Escape DispatchResult :=
  if struckAt outside .settled then .error (.raised "Exception") else .ok result

/-- The retrieval branch: passages are guidance, never evidence. -/
def finishSearch (outside : Outside) (ledger : ReservationLedger) (receiptId : String) :
    ReservationLedger × Except Escape DispatchResult :=
  match outside.search with
  | .error escape => (ledger, .error escape)
  | .ok outcome =>
      match ledger.settle receiptId outcome.outcome outcome.reasonCode outcome.durationMs none
          none none with
      | .error escape => (ledger, .error escape)
      | .ok (receipt, stored) =>
          (stored, settledOutcome outside
            ⟨receipt, none, outcome.passages, some outcome.retrievalMode, ""⟩)

/-- The four diagnostic tools: an executed check becomes evidence. -/
def finishCheck (hashing : Hashing) (scope : IncidentScope) (outside : Outside)
    (ledger : ReservationLedger) (receiptId : String) :
    ReservationLedger × Except Escape DispatchResult :=
  match outside.check with
  | .error escape => (ledger, .error escape)
  | .ok outcome =>
      if outcome.outcome = .executed then
        match buildEvidence hashing outside.evidenceId scope.incidentId outside.observedAt outcome
            receiptId with
        | .error escape => (ledger, .error escape)
        | .ok evidence =>
            match ledger.settle receiptId outcome.outcome outcome.reasonCode outcome.durationMs
                (some evidence.contentHash) (some evidence.evidenceId) (some evidence) with
            | .error escape => (ledger, .error escape)
            | .ok (receipt, stored) =>
                (stored, settledOutcome outside ⟨receipt, some evidence, [], none, ""⟩)
      else
        match ledger.settle receiptId outcome.outcome outcome.reasonCode outcome.durationMs none
            none none with
        | .error escape => (ledger, .error escape)
        | .ok (receipt, stored) =>
            (stored, settledOutcome outside ⟨receipt, none, [], none, ""⟩)

/-- `ToolWrapper.dispatch` of the tool that the proposal names. -/
def dispatch (hashing : Hashing) (proposal : ToolProposal) (scope : IncidentScope)
    (seen : Finset String) (budgets : Budgets) (ledger : ReservationLedger) (outside : Outside) :
    Dispatched :=
  let effective := resolveEffectiveWindow proposal.arguments scope
  let decision :=
    authorize hashing effective scope seen budgets (ledger.slotsLeftFor effective.tool)
  let seen := insert decision.fingerprint seen
  if struckAt outside .authorized then ⟨ledger, seen, none, .error (.raised "Exception")⟩
  else if decision.result = .denied then
    let receipt := deniedReceipt outside.receiptId effective scope decision outside.requestedAt
    match ledger.record receipt with
    | .error escape => ⟨ledger, seen, none, .error escape⟩
    | .ok stored =>
        ⟨stored, seen, none, settledOutcome outside ⟨receipt, none, [], none, decision.message⟩⟩
  else
    match ledger.reserve outside.receiptId scope.incidentId effective.tool decision.fingerprint
        outside.requestedAt effective with
    | none => ⟨ledger, seen, none, .error (.raised "AssertionError")⟩
    | some (_, reserved) =>
        let finished :=
          if effective.tool = .searchRunbooks then
            finishSearch outside reserved outside.receiptId
          else finishCheck hashing scope outside reserved outside.receiptId
        ⟨finished.1, seen, some effective, finished.2⟩

end Dispatch

end CausalOps.Investigation
