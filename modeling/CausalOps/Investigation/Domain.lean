import CausalOps.Library.Json
import CausalOps.Library.Text

set_option autoImplicit false

/-! What an investigation is about and what it writes down: the incident's scope,
evidence, proposals, receipts, assessments and budgets. -/

namespace CausalOps.Investigation

abbrev Time := ℤ

section Codes

inductive RootCauseCode where
  | configChange
  | downstreamTimeoutRetryAmplification
  | resourcePoolSaturation
  | undetermined
  deriving DecidableEq, Repr

inductive Disposition where
  | diagnosed
  | insufficientEvidence
  | failedSafe
  deriving DecidableEq, Repr

/-- What the model may say; `FAILED_SAFE` is application code's alone. -/
inductive ModelDisposition where
  | diagnosed
  | insufficientEvidence
  deriving DecidableEq, Repr

inductive EvidenceKind where
  | symptom
  | topology
  | metric
  | log
  | change
  deriving DecidableEq, Repr

def EvidenceKind.value : EvidenceKind → String
  | .symptom => "SYMPTOM"
  | .topology => "TOPOLOGY"
  | .metric => "METRIC"
  | .log => "LOG"
  | .change => "CHANGE"

inductive RetrievalMode where
  | disabled
  | fts5Lexical
  | pineconeSemantic
  deriving DecidableEq, Repr

def RetrievalMode.value : RetrievalMode → String
  | .disabled => "disabled"
  | .fts5Lexical => "fts5_lexical"
  | .pineconeSemantic => "pinecone_semantic"

inductive GatewaySymptom where
  | elevatedErrors
  | elevatedLatency
  | elevatedErrorsAndLatency
  deriving DecidableEq, Repr

def GatewaySymptom.value : GatewaySymptom → String
  | .elevatedErrors => "ELEVATED_ERRORS"
  | .elevatedLatency => "ELEVATED_LATENCY"
  | .elevatedErrorsAndLatency => "ELEVATED_ERRORS_AND_LATENCY"

inductive PolicyResult where
  | allowed
  | denied
  deriving DecidableEq, Repr

inductive ToolOutcome where
  | executed
  | timeout
  | unavailable
  | error
  | notExecuted
  deriving DecidableEq, Repr

inductive ReasonCode where
  | budgetExhausted
  | crossIncidentRequest
  | unknownService
  | outsideIncidentWindow
  | unresolvedWindow
  | resultLimitExceeded
  | duplicateProposal
  | toolTimeout
  | toolUnavailable
  | toolError
  | modelOutputInvalid
  | repairExhausted
  | modelCallBudgetExhausted
  | wallClockExpired
  | forgedEvidenceReference
  | resultAlreadyFinalized
  | costCeilingExceeded
  | inputTokenCapExceeded
  | ambiguousModelRequest
  | internalError
  deriving DecidableEq, Repr

def ReasonCode.value : ReasonCode → String
  | .budgetExhausted => "BUDGET_EXHAUSTED"
  | .crossIncidentRequest => "CROSS_INCIDENT_REQUEST"
  | .unknownService => "UNKNOWN_SERVICE"
  | .outsideIncidentWindow => "OUTSIDE_INCIDENT_WINDOW"
  | .unresolvedWindow => "UNRESOLVED_WINDOW"
  | .resultLimitExceeded => "RESULT_LIMIT_EXCEEDED"
  | .duplicateProposal => "DUPLICATE_PROPOSAL"
  | .toolTimeout => "TOOL_TIMEOUT"
  | .toolUnavailable => "TOOL_UNAVAILABLE"
  | .toolError => "TOOL_ERROR"
  | .modelOutputInvalid => "MODEL_OUTPUT_INVALID"
  | .repairExhausted => "REPAIR_EXHAUSTED"
  | .modelCallBudgetExhausted => "MODEL_CALL_BUDGET_EXHAUSTED"
  | .wallClockExpired => "WALL_CLOCK_EXPIRED"
  | .forgedEvidenceReference => "FORGED_EVIDENCE_REFERENCE"
  | .resultAlreadyFinalized => "RESULT_ALREADY_FINALIZED"
  | .costCeilingExceeded => "COST_CEILING_EXCEEDED"
  | .inputTokenCapExceeded => "INPUT_TOKEN_CAP_EXCEEDED"
  | .ambiguousModelRequest => "AMBIGUOUS_MODEL_REQUEST"
  | .internalError => "INTERNAL_ERROR"

inductive GraphPhase where
  | created
  | investigate
  | dispatchTool
  | normalizeEvidence
  | finalAssessment
  | escalationInterrupt
  | finalReport
  deriving DecidableEq, Repr

def GraphPhase.value : GraphPhase → String
  | .created => "CREATED"
  | .investigate => "INVESTIGATE"
  | .dispatchTool => "DISPATCH_TOOL"
  | .normalizeEvidence => "NORMALIZE_EVIDENCE"
  | .finalAssessment => "FINAL_ASSESSMENT"
  | .escalationInterrupt => "ESCALATION_INTERRUPT"
  | .finalReport => "FINAL_REPORT"

inductive EscalationReason where
  | conflictingEvidence
  | toolUnavailable
  | insufficientEvidenceWithCheckRemaining
  | retrievalCoverageInsufficient
  deriving DecidableEq, Repr

end Codes

section Tools

inductive ToolName where
  | queryMetric
  | queryLogs
  | listRecentChanges
  | getTopology
  | searchRunbooks
  deriving DecidableEq, Repr

def ToolName.value : ToolName → String
  | .queryMetric => "query_metric"
  | .queryLogs => "query_logs"
  | .listRecentChanges => "list_recent_changes"
  | .getTopology => "get_topology"
  | .searchRunbooks => "search_runbooks"

inductive MetricTemplate where
  | gatewayErrorRate
  | gatewayLatencyP95
  | downstreamTimeoutShare
  | resourcePoolAttemptsPerCapacity
  deriving DecidableEq, Repr

def MetricTemplate.value : MetricTemplate → String
  | .gatewayErrorRate => "gateway_error_rate"
  | .gatewayLatencyP95 => "gateway_latency_p95"
  | .downstreamTimeoutShare => "downstream_timeout_share"
  | .resourcePoolAttemptsPerCapacity => "resource_pool_attempts_per_capacity"

inductive LogFilter where
  | errorsOnly
  | timeoutsOnly
  | poolExhaustion
  | configReload
  deriving DecidableEq, Repr

def LogFilter.value : LogFilter → String
  | .errorsOnly => "errors_only"
  | .timeoutsOnly => "timeouts_only"
  | .poolExhaustion => "pool_exhaustion"
  | .configReload => "config_reload"

inductive RunbookTopic where
  | gatewayErrors
  | gatewayLatency
  | downstreamTimeouts
  | resourcePoolPressure
  | recentConfigChanges
  deriving DecidableEq, Repr

def RunbookTopic.value : RunbookTopic → String
  | .gatewayErrors => "gateway_errors"
  | .gatewayLatency => "gateway_latency"
  | .downstreamTimeouts => "downstream_timeouts"
  | .resourcePoolPressure => "resource_pool_pressure"
  | .recentConfigChanges => "recent_config_changes"

structure QueryMetricArguments where
  template : MetricTemplate
  service : String
  windowStart : Option Time
  windowEnd : Option Time
  deriving DecidableEq, Repr

structure QueryLogsArguments where
  logFilter : LogFilter
  service : String
  windowStart : Option Time
  windowEnd : Option Time
  rowLimit : { n : ℤ // 1 ≤ n ∧ n ≤ 200 }
  deriving DecidableEq, Repr

structure ListRecentChangesArguments where
  service : String
  windowStart : Option Time
  windowEnd : Option Time
  deriving DecidableEq, Repr

structure GetTopologyArguments where
  incidentId : String
  deriving DecidableEq, Repr

structure SearchRunbooksArguments where
  topic : RunbookTopic
  limit : { n : ℤ // 1 ≤ n ∧ n ≤ 20 }
  deriving DecidableEq, Repr

/-- The tool registry: which tools exist, and the arguments each takes. -/
inductive ToolArguments where
  | queryMetric (arguments : QueryMetricArguments)
  | queryLogs (arguments : QueryLogsArguments)
  | listRecentChanges (arguments : ListRecentChangesArguments)
  | getTopology (arguments : GetTopologyArguments)
  | searchRunbooks (arguments : SearchRunbooksArguments)
  deriving DecidableEq, Repr

def ToolArguments.tool : ToolArguments → ToolName
  | .queryMetric _ => .queryMetric
  | .queryLogs _ => .queryLogs
  | .listRecentChanges _ => .listRecentChanges
  | .getTopology _ => .getTopology
  | .searchRunbooks _ => .searchRunbooks

structure ToolProposal where
  arguments : ToolArguments
  evidenceGap : String
  expectedObservation : String
  gapBound : evidenceGap.length ≤ 300
  observationBound : expectedObservation.length ≤ 300
  deriving DecidableEq, Repr

def ToolProposal.tool (proposal : ToolProposal) : ToolName := proposal.arguments.tool

end Tools

section Incident

structure Budgets where
  wallClockSeconds : ℤ
  toolTimeoutSeconds : ℤ
  modelCalls : ℤ
  executedTools : ℤ
  runbookSearches : ℤ
  runbookPassages : ℤ
  repairs : ℕ
  logRows : ℤ
  repairsBound : repairs ≤ 2
  deriving DecidableEq, Repr

/-- `Budgets()`. -/
def defaultBudgets : Budgets where
  wallClockSeconds := 360
  toolTimeoutSeconds := 10
  modelCalls := 4
  executedTools := 2
  runbookSearches := 1
  runbookPassages := 5
  repairs := 2
  logRows := 40
  repairsBound := by decide

structure IncidentScope where
  incidentId : String
  services : List String
  startedAt : Time
  endedAt : Time
  endpoint : String
  servicesNonempty : services ≠ []
  windowOrdered : startedAt < endedAt
  deriving DecidableEq, Repr

def IncidentScope.environment (_ : IncidentScope) : String := "local-lab"

structure Evidence where
  evidenceId : String
  incidentId : String
  kind : EvidenceKind
  source : String
  observedAt : Time
  summary : String
  payload : Json.Dict
  receiptId : Option String
  contentHash : String
  summaryBound : summary.length ≤ 400
  deriving Repr

structure InitialAlertPacket where
  incidentId : String
  windowStart : Time
  windowEnd : Time
  endpoint : String
  symptom : GatewaySymptom
  services : List String
  alertedAt : Time
  alertSourceVersion : String
  symptomEvidenceId : String
  topologyEvidenceId : String
  servicesNonempty : services ≠ []
  deriving DecidableEq, Repr

/-- An incident as it was stored: its packet and its evidence are its own. -/
structure StoredIncident where
  scope : IncidentScope
  packet : InitialAlertPacket
  evidence : List Evidence
  packetAgrees : packet.incidentId = scope.incidentId
  evidenceAgrees : ∀ record ∈ evidence, record.incidentId = scope.incidentId

structure RunbookPassage where
  passageId : String
  content : String
  sourceVersion : String
  contentHash : String
  score : ℚ
  retrievalMode : RetrievalMode
  contentBound : content.length ≤ 800
  deriving DecidableEq, Repr

end Incident

section Receipts

inductive ReceiptState where
  | reserved
  | settled
  deriving DecidableEq, Repr

/-- A reserved receipt carries no result, a settled one carries an outcome. -/
def LifecycleCoherent (state : ReceiptState) (outcome : Option ToolOutcome)
    (resultDigest evidenceId : Option String) : Prop :=
  match state with
  | .reserved => outcome = none ∧ resultDigest = none ∧ evidenceId = none
  | .settled => outcome.isSome

structure ToolReceipt where
  receiptId : String
  incidentId : String
  tool : ToolName
  fingerprint : String
  policyResult : PolicyResult
  state : ReceiptState
  outcome : Option ToolOutcome
  reasonCode : Option ReasonCode
  requestedAt : Time
  durationMs : ℕ
  resultDigest : Option String
  evidenceId : Option String
  arguments : Option ToolArguments
  coherent : LifecycleCoherent state outcome resultDigest evidenceId

structure CheckOutcome where
  outcome : ToolOutcome
  kind : EvidenceKind
  source : String
  summary : String
  payload : Json.Dict
  reasonCode : Option ReasonCode
  durationMs : ℤ
  deriving Repr

structure RunbookCheckOutcome where
  outcome : ToolOutcome
  passages : List RunbookPassage
  retrievalMode : RetrievalMode
  reasonCode : Option ReasonCode
  durationMs : ℤ
  deriving DecidableEq, Repr

end Receipts

section Stages

structure Hypothesis where
  rootCause : RootCauseCode
  rank : ℕ
  supportingEvidenceIds : List String
  contraryEvidenceIds : List String
  missingEvidence : String
  rankBound : 1 ≤ rank
  missingBound : missingEvidence.length ≤ 300
  deriving DecidableEq, Repr

/-- `InitialPlan` and `HypothesisUpdate`, which have the same fields and checks. -/
structure Plan where
  hypotheses : List Hypothesis
  proposal : Option ToolProposal
  stopReason : Option String
  hypothesesBound : 2 ≤ hypotheses.length ∧ hypotheses.length ≤ 3
  stopBound : ∀ reason ∈ stopReason, 1 ≤ reason.length ∧ reason.length ≤ 600
  proposalOrStop : proposal.isNone ≠ stopReason.isNone
  deriving DecidableEq, Repr

/-- A diagnosis names a cause and cites support, an abstention names none. -/
def TerminalInvariants (disposition : ModelDisposition) (rootCause : RootCauseCode)
    (supportingEvidenceIds : List String) : Prop :=
  match disposition with
  | .diagnosed => rootCause ≠ .undetermined ∧ supportingEvidenceIds ≠ []
  | .insufficientEvidence => rootCause = .undetermined

structure FinalAssessment where
  disposition : ModelDisposition
  rootCause : RootCauseCode
  supportingEvidenceIds : List String
  contraryEvidenceIds : List String
  runbookCitations : List String
  uncertainty : String
  nextStep : String
  uncertaintyBound : uncertainty.length ≤ 600
  nextStepBound : nextStep.length ≤ 300
  terminal : TerminalInvariants disposition rootCause supportingEvidenceIds

structure ModelUsage where
  inputTokens : ℤ
  outputTokens : ℤ
  deriving DecidableEq, Repr

inductive Stage where
  | initialPlan
  | hypothesisUpdate
  | finalAssessment
  deriving DecidableEq, Repr

def Stage.value : Stage → String
  | .initialPlan => "initial_plan"
  | .hypothesisUpdate => "hypothesis_update"
  | .finalAssessment => "final_assessment"

end Stages

section Samples

def labScope : IncidentScope where
  incidentId := "incident"
  services := ["gateway", "orders"]
  startedAt := 0
  endedAt := 600000000
  endpoint := "/checkout"
  servicesNonempty := by decide
  windowOrdered := by decide

def labPacket : InitialAlertPacket where
  incidentId := "incident"
  windowStart := 0
  windowEnd := 600000000
  endpoint := "/checkout"
  symptom := .elevatedErrors
  services := ["gateway", "orders"]
  alertedAt := 600000000
  alertSourceVersion := "1"
  symptomEvidenceId := "symptom"
  topologyEvidenceId := "topology"
  servicesNonempty := by decide

def symptomRecord : Evidence where
  evidenceId := "symptom"
  incidentId := "incident"
  kind := .symptom
  source := "alert"
  observedAt := 600000000
  summary := "elevated errors at the gateway"
  payload := []
  receiptId := none
  contentHash := "empty"
  summaryBound := by decide

def topologyRecord : Evidence where
  evidenceId := "topology"
  incidentId := "incident"
  kind := .topology
  source := "manifest"
  observedAt := 0
  summary := "1 service edges in this incident"
  payload := []
  receiptId := none
  contentHash := "empty"
  summaryBound := by decide

/-- An incident as `build_incident` makes one: one symptom and one topology record. -/
def labIncident : StoredIncident where
  scope := labScope
  packet := labPacket
  evidence := [symptomRecord, topologyRecord]
  packetAgrees := rfl
  evidenceAgrees := by decide

end Samples

end CausalOps.Investigation
