import CausalOps.Investigation.Wrappers.Leaves
import CausalOps.Investigation.ToolCalls.RoundTrip

set_option autoImplicit false

/-! Receipts as they are stored between two dispatches: dumped to JSON, and validated
back into the same receipts. -/

namespace CausalOps.Investigation

section Codes

variable {α : Type}

/-- `'A', 'B' or 'C'`, as pydantic lists the values of an enumeration. -/
def expectedValues : List String → String
  | [] => ""
  | [last] => "'" ++ last ++ "'"
  | [first, last] => "'" ++ first ++ "' or '" ++ last ++ "'"
  | first :: rest => "'" ++ first ++ "', " ++ expectedValues rest

def readCode (codes : List α) (value : α → String) : Json → Except String α
  | .str text =>
      match codes.find? fun code => value code = text with
      | some code => .ok code
      | none => .error ("Input should be " ++ expectedValues (codes.map value))
  | _ => .error ("Input should be " ++ expectedValues (codes.map value))

def readOptional (read : Json → Except String α) : Json → Except String (Option α)
  | .null => .ok none
  | value => (read value).map some

def policyResults : List PolicyResult := [.allowed, .denied]

def PolicyResult.value : PolicyResult → String
  | .allowed => "ALLOWED"
  | .denied => "DENIED"

def receiptStates : List ReceiptState := [.reserved, .settled]

def ReceiptState.value : ReceiptState → String
  | .reserved => "RESERVED"
  | .settled => "SETTLED"

def toolOutcomes : List ToolOutcome :=
  [.executed, .timeout, .unavailable, .error, .notExecuted]

def ToolOutcome.value : ToolOutcome → String
  | .executed => "EXECUTED"
  | .timeout => "TIMEOUT"
  | .unavailable => "UNAVAILABLE"
  | .error => "ERROR"
  | .notExecuted => "NOT_EXECUTED"

def reasonCodes : List ReasonCode :=
  [.budgetExhausted, .crossIncidentRequest, .unknownService, .outsideIncidentWindow,
    .unresolvedWindow, .resultLimitExceeded, .duplicateProposal, .toolTimeout, .toolUnavailable,
    .toolError, .modelOutputInvalid, .repairExhausted, .modelCallBudgetExhausted,
    .wallClockExpired, .forgedEvidenceReference, .resultAlreadyFinalized, .costCeilingExceeded,
    .inputTokenCapExceeded, .ambiguousModelRequest, .internalError]

def toolNames : List ToolName :=
  [.queryMetric, .queryLogs, .listRecentChanges, .getTopology, .searchRunbooks]

theorem readCode_value [DecidableEq α] {codes : List α} {value : α → String} (code : α)
    (hfind : codes.find? (fun other => value other = value code) = some code) :
    readCode codes value (.str (value code)) = .ok code := by
  simp [readCode, hfind]

@[simp] theorem readCode_policyResult (result : PolicyResult) :
    readCode policyResults PolicyResult.value (.str result.value) = .ok result :=
  readCode_value result (by cases result <;> decide)

@[simp] theorem readCode_receiptState (state : ReceiptState) :
    readCode receiptStates ReceiptState.value (.str state.value) = .ok state :=
  readCode_value state (by cases state <;> decide)

@[simp] theorem readCode_toolOutcome (outcome : ToolOutcome) :
    readCode toolOutcomes ToolOutcome.value (.str outcome.value) = .ok outcome :=
  readCode_value outcome (by cases outcome <;> decide)

@[simp] theorem readCode_reasonCode (reason : ReasonCode) :
    readCode reasonCodes ReasonCode.value (.str reason.value) = .ok reason :=
  readCode_value reason (by cases reason <;> decide)

@[simp] theorem readCode_toolName (tool : ToolName) :
    readCode toolNames ToolName.value (.str tool.value) = .ok tool :=
  readCode_value tool (by cases tool <;> decide)

end Codes

section Receipts

instance (state : ReceiptState) (outcome : Option ToolOutcome)
    (resultDigest evidenceId : Option String) :
    Decidable (LifecycleCoherent state outcome resultDigest evidenceId) := by
  unfold LifecycleCoherent
  split <;> infer_instance

variable (pydantic : Pydantic)

def schemaVersion : String := "1"

/-- `duration_ms`, which has `ge=0`. -/
def readDuration (value : Json) : Except String ℕ :=
  match pydantic.integer value with
  | .error msg => .error msg
  | .ok n => if 0 ≤ n then .ok n.toNat else .error "Input should be greater than or equal to 0"

/-- What `check_lifecycle_coherence` says of a receipt that is not coherent. -/
def lifecycleIssue : ReceiptState → Issues
  | .reserved => [⟨[], "Value error, a reserved receipt has not run yet and cannot carry a " ++
      "result"⟩]
  | .settled => [⟨[], "Value error, a settled receipt must carry an outcome"⟩]

/-- The `arguments` of a receipt: absent in receipts from before the field existed. -/
def readArguments (entries : Json.Dict) : Except Issues (Option ToolArguments) :=
  match Json.get entries "arguments" with
  | none => .ok none
  | some .null => .ok none
  | some (.obj fields) => (validateArguments pydantic ["arguments"] fields).map some
  | some _ => .error [⟨["arguments"],
      "Input should be a valid dictionary or object to extract fields from"⟩]

structure ReceiptFields where
  receiptId : String
  incidentId : String
  tool : ToolName
  fingerprint : String
  policyResult : PolicyResult
  state : ReceiptState
  outcome : Option ToolOutcome
  reasonCode : Option ReasonCode
  requestedAt : Time
  durationMs : ℕ
  resultDigest : Option String
  evidenceId : Option String

def readReceiptFields (entries : Json.Dict) : Except Issues ReceiptFields :=
  match readField [] entries "schema_version" (some schemaVersion) readString,
    readField [] entries "receipt_id" none readString,
    readField [] entries "incident_id" none readString,
    readField [] entries "tool" none (readCode toolNames ToolName.value),
    readField [] entries "fingerprint" none readString,
    readField [] entries "policy_result" none (readCode policyResults PolicyResult.value),
    readField [] entries "state" (some .settled) (readCode receiptStates ReceiptState.value),
    readField [] entries "outcome" (some none)
      (readOptional (readCode toolOutcomes ToolOutcome.value)),
    readField [] entries "reason_code" (some none)
      (readOptional (readCode reasonCodes ReasonCode.value)),
    readField [] entries "requested_at" none pydantic.dateTime,
    readField [] entries "duration_ms" none (readDuration pydantic),
    readField [] entries "result_digest" (some none) (readOptional readString),
    readField [] entries "evidence_id" (some none) (readOptional readString) with
  | .ok _, .ok receiptId, .ok incidentId, .ok tool, .ok fingerprint, .ok policyResult, .ok state,
    .ok outcome, .ok reasonCode, .ok requestedAt, .ok durationMs, .ok resultDigest,
    .ok evidenceId =>
      .ok ⟨receiptId, incidentId, tool, fingerprint, policyResult, state, outcome, reasonCode,
        requestedAt, durationMs, resultDigest, evidenceId⟩
  | version, receiptId, incidentId, tool, fingerprint, policyResult, state, outcome, reasonCode,
    requestedAt, durationMs, resultDigest, evidenceId =>
      .error (issue version ++ issue receiptId ++ issue incidentId ++ issue tool ++
        issue fingerprint ++ issue policyResult ++ issue state ++ issue outcome ++
        issue reasonCode ++ issue requestedAt ++ issue durationMs ++ issue resultDigest ++
        issue evidenceId)

/-- `ToolReceipt.model_validate`. -/
def validateReceipt (entries : Json.Dict) : Except Issues ToolReceipt :=
  match readReceiptFields pydantic entries, readArguments pydantic entries with
  | .ok fields, .ok arguments =>
      if h : LifecycleCoherent fields.state fields.outcome fields.resultDigest
          fields.evidenceId then
        .ok { receiptId := fields.receiptId
              incidentId := fields.incidentId
              tool := fields.tool
              fingerprint := fields.fingerprint
              policyResult := fields.policyResult
              state := fields.state
              outcome := fields.outcome
              reasonCode := fields.reasonCode
              requestedAt := fields.requestedAt
              durationMs := fields.durationMs
              resultDigest := fields.resultDigest
              evidenceId := fields.evidenceId
              arguments := arguments
              coherent := h }
      else .error (lifecycleIssue fields.state)
  | .error issues, .ok _ => .error issues
  | .ok _, .error issues => .error issues
  | .error issues, .error others => .error (issues ++ others)

def dumpOptional (text : Option String) : Json :=
  match text with
  | none => .null
  | some text => .str text

/-- `receipt.model_dump(mode="json")`. -/
def dumpReceipt (receipt : ToolReceipt) : Json.Dict :=
  [("schema_version", .str schemaVersion), ("receipt_id", .str receipt.receiptId),
    ("incident_id", .str receipt.incidentId), ("tool", .str receipt.tool.value),
    ("fingerprint", .str receipt.fingerprint),
    ("policy_result", .str receipt.policyResult.value), ("state", .str receipt.state.value),
    ("outcome", dumpOptional (receipt.outcome.map ToolOutcome.value)),
    ("reason_code", dumpOptional (receipt.reasonCode.map ReasonCode.value)),
    ("requested_at", .str (pydantic.formatDateTime receipt.requestedAt)),
    ("duration_ms", .int receipt.durationMs), ("result_digest", dumpOptional receipt.resultDigest),
    ("evidence_id", dumpOptional receipt.evidenceId),
    ("arguments", match receipt.arguments with
      | none => .null
      | some arguments => .obj (dumpArguments pydantic arguments))]

end Receipts

section RoundTrip

variable {pydantic : Pydantic}

theorem readOptional_dump {α : Type} {read : Json → Except String α} {value : α → String}
    (hread : ∀ code, read (.str (value code)) = .ok code) (code : Option α) :
    readOptional read (dumpOptional (code.map value)) = .ok code := by
  cases code with
  | none => rfl
  | some code => simp [readOptional, dumpOptional, hread, Except.map]

theorem readOptional_text (text : Option String) :
    readOptional readString (dumpOptional text) = .ok text := by
  cases text <;> rfl

theorem readDuration_dump (hfaithful : pydantic.Faithful) (n : ℕ) :
    readDuration pydantic (.int n) = .ok n := by
  simp [readDuration, hfaithful.integer]

theorem readReceiptFields_dump (hfaithful : pydantic.Faithful) (receipt : ToolReceipt) :
    readReceiptFields pydantic (dumpReceipt pydantic receipt) =
      .ok ⟨receipt.receiptId, receipt.incidentId, receipt.tool, receipt.fingerprint,
        receipt.policyResult, receipt.state, receipt.outcome, receipt.reasonCode,
        receipt.requestedAt, receipt.durationMs, receipt.resultDigest, receipt.evidenceId⟩ := by
  simp only [readReceiptFields]
  rw [readField_of_get (.str schemaVersion) schemaVersion (by simp [dumpReceipt, Json.get]) rfl,
    readField_of_get (.str receipt.receiptId) receipt.receiptId
      (by simp [dumpReceipt, Json.get]) rfl,
    readField_of_get (.str receipt.incidentId) receipt.incidentId
      (by simp [dumpReceipt, Json.get]) rfl,
    readField_of_get (.str receipt.tool.value) receipt.tool
      (by simp [dumpReceipt, Json.get]) (by simp),
    readField_of_get (.str receipt.fingerprint) receipt.fingerprint
      (by simp [dumpReceipt, Json.get]) rfl,
    readField_of_get (.str receipt.policyResult.value) receipt.policyResult
      (by simp [dumpReceipt, Json.get]) (by simp),
    readField_of_get (.str receipt.state.value) receipt.state
      (by simp [dumpReceipt, Json.get]) (by simp),
    readField_of_get _ receipt.outcome (by simp [dumpReceipt, Json.get])
      (readOptional_dump readCode_toolOutcome receipt.outcome),
    readField_of_get _ receipt.reasonCode (by simp [dumpReceipt, Json.get])
      (readOptional_dump readCode_reasonCode receipt.reasonCode),
    readField_of_get _ receipt.requestedAt (by simp [dumpReceipt, Json.get])
      (hfaithful.dateTime receipt.requestedAt),
    readField_of_get _ receipt.durationMs (by simp [dumpReceipt, Json.get])
      (readDuration_dump hfaithful receipt.durationMs),
    readField_of_get _ receipt.resultDigest (by simp [dumpReceipt, Json.get])
      (readOptional_text receipt.resultDigest),
    readField_of_get _ receipt.evidenceId (by simp [dumpReceipt, Json.get])
      (readOptional_text receipt.evidenceId)]

theorem readArguments_dump (hfaithful : pydantic.Faithful) (receipt : ToolReceipt) :
    readArguments pydantic (dumpReceipt pydantic receipt) = .ok receipt.arguments := by
  have hget : Json.get (dumpReceipt pydantic receipt) "arguments" =
      some (match receipt.arguments with
        | none => .null
        | some arguments => .obj (dumpArguments pydantic arguments)) := by
    simp [dumpReceipt, Json.get]
  simp only [readArguments, hget]
  cases receipt.arguments with
  | none => rfl
  | some arguments => simp [validateArguments_dump hfaithful, Except.map]

theorem validateReceipt_dump (hfaithful : pydantic.Faithful) (receipt : ToolReceipt) :
    validateReceipt pydantic (dumpReceipt pydantic receipt) = .ok receipt := by
  simp only [validateReceipt, readReceiptFields_dump hfaithful, readArguments_dump hfaithful,
    dif_pos receipt.coherent]

theorem mapM_validateReceipt (hfaithful : pydantic.Faithful) (receipts : List ToolReceipt) :
    (receipts.map (dumpReceipt pydantic)).mapM (validateReceipt pydantic) = .ok receipts := by
  induction receipts with
  | nil => rfl
  | cons receipt rest ih =>
      rw [List.map_cons, List.mapM_cons, validateReceipt_dump hfaithful, ih]
      rfl

end RoundTrip

end CausalOps.Investigation
