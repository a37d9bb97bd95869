import CausalOps.Library.Machine
import CausalOps.Investigation.ToolCalls.RoundTrip
import CausalOps.Investigation.Report

set_option autoImplicit false

/-! The investigation as a graph of nodes over one state: what each node does, where it
leads, and how an invocation is settled whatever happens inside it. -/

namespace CausalOps.Investigation

open CausalOps.ControlPlane (Verdict)

structure Setting where
  incident : StoredIncident
  budgets : Budgets
  hashing : Hashing
  pydantic : Pydantic
  suppressEscalation : Bool
  noToolBaseline : Bool

section Stages

/-- `_StageCounters`, with the requests and events of the stage so far. -/
structure Asking where
  modelCallsUsed : ℕ
  repairsUsed : ℕ
  invalidResponses : ℕ
  usage : Option ModelUsage
  contextDigest : String
  stopReason : Option ReasonCode
  requests : List ModelRequest
  details : List EventDetail

def accumulateUsage : Option ModelUsage → Option ModelUsage → Option ModelUsage
  | existing, none => existing
  | none, some latest => some latest
  | some total, some latest =>
      some ⟨total.inputTokens + latest.inputTokens, total.outputTokens + latest.outputTokens⟩

namespace Asking

def start (state : GraphState) (stage : Stage) : Asking where
  modelCallsUsed := state.modelCallsUsed
  repairsUsed := state.repairsUsed
  invalidResponses := state.invalidResponses
  usage := state.usage
  contextDigest := state.contextDigest
  stopReason := none
  requests := []
  details := [.stageStarted stage]

def recordCall (asking : Asking) (request : ModelRequest) : Asking :=
  { asking with
    contextDigest := request.contextDigest
    modelCallsUsed := asking.modelCallsUsed + 1
    requests := asking.requests ++ [request] }

def recordUsage (asking : Asking) (latest : Option ModelUsage) : Asking :=
  { asking with usage := accumulateUsage asking.usage latest }

def note (asking : Asking) (detail : EventDetail) : Asking :=
  { asking with details := asking.details ++ [detail] }

def stop (asking : Asking) (reason : ReasonCode) : Asking :=
  { asking with stopReason := some reason, details := asking.details ++ [.stageStopped reason] }

def invalid (asking : Asking) (stage : Stage) (errors : String) : Asking :=
  { asking with
    invalidResponses := asking.invalidResponses + 1
    details := asking.details ++ [.invalidResponse stage errors] }

def repair (asking : Asking) : Asking := { asking with repairsUsed := asking.repairsUsed + 1 }

def callsLeft (asking : Asking) (budgets : Budgets) : ℤ :=
  modelCallsLeft asking.modelCallsUsed asking.repairsUsed budgets

end Asking

structure StageContext where
  setting : Setting
  store : EvidenceStore
  receipts : List ToolReceipt
  passages : List RunbookPassage
  stage : Stage
  runId : String
  graphPhase : GraphPhase
  modelTurn : ℕ

/-- One note for each denied receipt; a reason without guidance is a `KeyError`. -/
def deniedCheckNotes (budgets : Budgets) (receipts : List ToolReceipt) :
    Except Escape (List DeniedCheckNote) :=
  (receipts.filter fun receipt => receipt.policyResult = .denied).mapM fun receipt =>
    match receipt.reasonCode with
    | none => .error (.raised "AssertionError")
    | some reasonCode =>
        match denialGuidance receipt.tool reasonCode budgets with
        | none => .error (.raised "KeyError")
        | some guidance => .ok ⟨receipt.tool, reasonCode, guidance⟩

def contextText (context : StageContext) (modelCallsLeft checksLeft searchesLeft : ℤ)
    (notes : List DeniedCheckNote) : String :=
  let chosen := context.store.contextEvidence
    (deriveContextQuotas context.setting.budgets.executedTools)
  renderContext context.setting.incident.packet context.setting.incident.scope chosen.1 chosen.2
      modelCallsLeft checksLeft context.passages notes searchesLeft ++
    "\n\n## Task\n" ++ stageInstructions context.stage

def renderStageRequest (context : StageContext) (asking : Asking)
    (repairErrors : Option String) : Except Escape ModelRequest :=
  match toolsLeft context.setting.budgets context.receipts,
    deniedCheckNotes context.setting.budgets context.receipts,
    runbookSearchesLeft context.setting.budgets context.receipts with
  | .ok checksLeft, .ok notes, .ok searchesLeft =>
      let text := contextText context (asking.callsLeft context.setting.budgets) checksLeft
        searchesLeft notes
      .ok {
        stage := context.stage
        systemText := systemText
        contextText := text
        repairErrors := repairErrors
        runId := context.runId
        graphPhase := context.graphPhase
        modelTurn := context.modelTurn
        contextDigest := context.setting.hashing.digestText
          (systemText ++ text ++ repairErrors.getD "") }
  | .error escape, _, _ => .error escape
  | _, .error escape, _ => .error escape
  | _, _, .error escape => .error escape

/-- A model's answer to a request: its usage, and the parsed answer or what was wrong. -/
abbrev Reply (α : Type) := ModelRequest → Except Escape (Option ModelUsage × Except String α)

section Ask

variable {α : Type}

def askOnce (context : StageContext) (asking : Asking) (repairErrors : Option String)
    (reply : Reply α) : Asking × Except Escape (Except String α) :=
  match renderStageRequest context asking repairErrors with
  | .error escape => (asking, .error escape)
  | .ok request =>
      match reply request with
      | .error escape => (asking.recordCall request, .error escape)
      | .ok (usage, parsed) => ((asking.recordCall request).recordUsage usage, .ok parsed)

/-- Once, and at most once more with what was wrong the first time. -/
def askWithRepair (context : StageContext) (startedAt reading : Time) (asking : Asking)
    (first second : Reply α) : Asking × Except Escape (Option α) :=
  if expired startedAt context.setting.budgets reading then
    (asking.stop .wallClockExpired, .ok none)
  else if asking.callsLeft context.setting.budgets ≤ 0 then
    (asking.stop .modelCallBudgetExhausted, .ok none)
  else
    match askOnce context asking none first with
    | (asked, .error escape) => (asked, .error escape)
    | (asked, .ok (.ok value)) => (asked, .ok (some value))
    | (asked, .ok (.error errors)) =>
        let refused := asked.invalid context.stage errors
        if context.setting.budgets.repairs ≤ refused.repairsUsed then
          (refused.stop .repairExhausted, .ok none)
        else
          match askOnce context refused.repair (some errors) second with
          | (again, .error escape) => (again, .error escape)
          | (again, .ok (.ok value)) => (again, .ok (some value))
          | (again, .ok (.error errors)) =>
              ((again.invalid context.stage errors).stop .modelOutputInvalid, .ok none)

end Ask

/-- What the outside answers while one node and its route run. -/
structure Turn where
  stageReading : Time
  firstProposal : ModelRequest → Except Escape ProposedTurn
  secondProposal : ModelRequest → Except Escape ProposedTurn
  firstResponse : ModelRequest → Except Escape ModelResponse
  secondResponse : ModelRequest → Except Escape ModelResponse
  outside : Outside
  routeReading : Time
  reportReading : Time
  fault : Option String

def proposalReply (pydantic : Pydantic) (propose : ModelRequest → Except Escape ProposedTurn) :
    Reply (Plan × Option ToolProposal) := fun request =>
  (propose request).map fun turn => (turn.usage, readTurn pydantic turn)

/-- `parse_response(FinalAssessment, …)`, unless the adapter reports an error itself. -/
def readAssessment (pydantic : Pydantic) (response : ModelResponse) :
    Except String FinalAssessment :=
  if response.errors ≠ "" then .error response.errors
  else (pydantic.assessment response.content).mapError summarizeErrors

def responseReply (pydantic : Pydantic) (respond : ModelRequest → Except Escape ModelResponse) :
    Reply FinalAssessment := fun request =>
  (respond request).map fun response => (response.usage, readAssessment pydantic response)

end Stages

section Nodes

inductive Node where
  | investigate
  | dispatchTool
  | normalizeEvidence
  | finalAssessment
  | escalationInterrupt
  | finalReport
  deriving DecidableEq, Repr

structure InterruptPayload where
  reason : EscalationReason
  evidenceIds : List String
  remainingCheckCount : ℤ
  retry : Bool
  deriving DecidableEq, Repr

/-- How a node ends: with an updated state, at an interrupt, or with an exception. -/
inductive Left where
  | updated (state : GraphState)
  | paused (payload : InterruptPayload)
  | escaped (escape : Escape)

/-- What a node did: the requests it made, and the backend call if there was one. -/
structure Performed where
  left : Left
  requests : List ModelRequest
  called : Option ToolArguments

def escapedAtOnce (escape : Escape) : Performed := ⟨.escaped escape, [], none⟩

def MoneyRefusal.reasonCode : MoneyRefusal → ReasonCode
  | .costCeilingExceeded => .costCeilingExceeded
  | .inputTooLarge => .inputTokenCapExceeded
  | .ambiguousReservationNotResent => .ambiguousModelRequest

/-- The counters, digest, usage and events of a stage, written back into the state. -/
def GraphState.counted (state : GraphState) (phase : GraphPhase) (asking : Asking) :
    GraphState :=
  { state with
    phase := phase
    modelCallsUsed := asking.modelCallsUsed
    repairsUsed := asking.repairsUsed
    invalidResponses := asking.invalidResponses
    contextDigest := asking.contextDigest
    usage := asking.usage
    events := recordEvents phase state.events asking.details }

/-- A later turn that is stopped still leads to the assessment, so only the first fails. -/
def stoppedState (state : GraphState) (asking : Asking) (reason : Option ReasonCode) :
    GraphState :=
  { state.counted .investigate asking with
    pendingProposal := none
    failureReason := if state.modelTurn = 0 then reason else none }

def investigatedState (state : GraphState) (asking : Asking) (plan : Plan)
    (proposal : Option ToolProposal) (stage : Stage) : GraphState :=
  { state.counted .investigate ((asking.note (.stageFinished proposal.isSome)).note
      (.proposalRecorded state.modelTurn stage plan.hypotheses proposal)) with
    modelTurn := state.modelTurn + 1
    pendingProposal := proposal
    failureReason := none }

def stageContext (setting : Setting) (state : GraphState) (store : EvidenceStore)
    (receipts : List ToolReceipt) (stage : Stage) (phase : GraphPhase) : StageContext where
  setting := setting
  store := store
  receipts := receipts
  passages := state.runbookPassages
  stage := stage
  runId := state.runId
  graphPhase := phase
  modelTurn := state.modelTurn

def investigateStage (state : GraphState) : Stage :=
  if state.modelTurn = 0 then .initialPlan else .hypothesisUpdate

/-- What the node makes of the question that it asked. -/
def investigated (state : GraphState) (stage : Stage)
    (asked : Asking × Except Escape (Option (Plan × Option ToolProposal))) : Left :=
  match asked.2 with
  | .ok none => .updated (stoppedState state asked.1 asked.1.stopReason)
  | .ok (some (plan, proposal)) =>
      .updated (investigatedState state asked.1 plan proposal stage)
  | .error .bubbled => .escaped .bubbled
  | .error (.refused refusal) =>
      .updated (stoppedState state (asked.1.note (.stageStopped refusal.reasonCode))
        (some refusal.reasonCode))
  | .error (.raised name) =>
      .updated { state.counted .investigate (asked.1.note (.internalError name)) with
        pendingProposal := none
        failureReason := some .internalError }

def investigate (setting : Setting) (state : GraphState) (turn : Turn) : Performed :=
  match rebuildReceipts state, rebuildRecords state with
  | .ok receipts, .ok store =>
      let stage := investigateStage state
      let asked := askWithRepair (stageContext setting state store receipts stage .investigate)
        state.startedAt turn.stageReading (Asking.start state stage)
        (proposalReply setting.pydantic turn.firstProposal)
        (proposalReply setting.pydantic turn.secondProposal)
      ⟨investigated state stage asked, asked.1.requests, none⟩
  | .error escape, _ => escapedAtOnce escape
  | _, .error escape => escapedAtOnce escape

/-- The events of a dispatch that returned, given the turn that proposed it. -/
def dispatchDetails (state : GraphState) (proposal : ToolProposal) (result : DispatchResult) :
    List EventDetail :=
  let proposalTurn : ℤ := state.modelTurn - 1
  if result.receipt.policyResult = .denied then
    [.proposalDenied proposalTurn result.receipt.receiptId result.receipt.reasonCode result.message]
  else
    [.checkStarted proposal.tool,
      .checkFinished proposalTurn result.receipt.receiptId result.receipt.outcome
        result.receipt.durationMs]

/-- The handler of `dispatch_tool`: what the ledger settled is kept, the passages and
the mode of a search are not. -/
def crashedState (state : GraphState) (ledger : ReservationLedger) (seen : Finset String)
    (details : List EventDetail) (error : String) : GraphState :=
  { state with
    phase := .dispatchTool
    receipts := ledger.receipts
    seenFingerprints := seen
    pendingProposal := none
    evidence := state.evidence ++ ledger.evidence.map Prod.snd
    failureReason := some .internalError
    events := recordEvents .dispatchTool state.events (details ++ [.backendCrashed error]) }

def dispatchedState (state : GraphState) (ledger : ReservationLedger) (seen : Finset String)
    (details : List EventDetail) (result : DispatchResult) : GraphState :=
  { state with
    phase := .dispatchTool
    receipts := ledger.receipts
    seenFingerprints := seen
    pendingProposal := none
    evidence := state.evidence ++ result.evidence.toList
    runbookPassages := state.runbookPassages ++ result.passages
    retrievalMode := result.retrievalMode.getD state.retrievalMode
    events := recordEvents .dispatchTool state.events details }

/-- An exception after some of the events were recorded. -/
def struckWhileRecording (outside : Outside) : Option ℕ :=
  match outside.strike with
  | some (.recorded events) => some events
  | _ => none

/-- What the node makes of the dispatch that it asked the wrapper for. -/
def dispatchedLeft (state : GraphState) (proposal : ToolProposal) (outside : Outside)
    (dispatched : Dispatched) : Left :=
  let received := [EventDetail.proposalReceived proposal.tool]
  match dispatched.outcome with
  | .error .bubbled => .escaped .bubbled
  | .error escape =>
      .updated (crashedState state dispatched.ledger dispatched.seen received escape.name)
  | .ok result =>
      let details := dispatchDetails state proposal result
      match struckWhileRecording outside with
      | some events =>
          .updated (crashedState state dispatched.ledger dispatched.seen
            (received ++ details.take events) "Exception")
      | none =>
          .updated (dispatchedState state dispatched.ledger dispatched.seen
            (received ++ details) result)

def dispatchTool (setting : Setting) (state : GraphState) (turn : Turn) : Performed :=
  match state.pendingProposal with
  | none => escapedAtOnce (.raised "AssertionError")
  | some proposal =>
      match rebuildReceipts state with
      | .error escape => escapedAtOnce escape
      | .ok receipts =>
          match rebuildLedger setting.budgets receipts with
          | .error escape => escapedAtOnce escape
          | .ok ledger =>
              if struckAt turn.outside .lookup then
                ⟨.updated (crashedState state ledger state.seenFingerprints
                  [.proposalReceived proposal.tool] "KeyError"), [], none⟩
              else
                let dispatched := dispatch setting.hashing proposal setting.incident.scope
                  state.seenFingerprints setting.budgets ledger turn.outside
                ⟨dispatchedLeft state proposal turn.outside dispatched, [], dispatched.called⟩

def normalizeEvidence (state : GraphState) : Performed :=
  ⟨.updated { state with
    phase := .normalizeEvidence
    events := recordEvent .normalizeEvidence state.events
      (.evidenceNormalized state.evidence.length) }, [], none⟩

def failedState (state : GraphState) (asking : Asking) (reason : ReasonCode) : GraphState :=
  { state.counted .finalAssessment asking with
    assessment := none
    failureReason := some reason }

/-- What the node makes of the question that it asked. A citation of evidence that the
run does not hold is refused. -/
def assessed (state : GraphState) (store : EvidenceStore)
    (asked : Asking × Except Escape (Option FinalAssessment)) : Left :=
  match asked.2 with
  | .ok none =>
      match asked.1.stopReason with
      | some reason => .updated (failedState state asked.1 reason)
      | none => .updated (failedState state (asked.1.note (.internalError "AssertionError"))
          .internalError)
  | .ok (some assessment) =>
      let forged := store.unknownIds
        (assessment.supportingEvidenceIds ++ assessment.contraryEvidenceIds)
      if forged ≠ [] then
        .updated (failedState state (asked.1.note (.forgedCitation forged.length))
          .forgedEvidenceReference)
      else
        .updated { state.counted .finalAssessment asked.1 with
          assessment := some assessment
          failureReason := none }
  | .error .bubbled => .escaped .bubbled
  | .error (.refused refusal) =>
      .updated (failedState state (asked.1.note (.stageStopped refusal.reasonCode))
        refusal.reasonCode)
  | .error (.raised name) =>
      .updated (failedState state (asked.1.note (.internalError name)) .internalError)

def finalAssessment (setting : Setting) (state : GraphState) (turn : Turn) : Performed :=
  match rebuildReceipts state, rebuildRecords state with
  | .ok receipts, .ok store =>
      let asked := askWithRepair
        (stageContext setting state store receipts .finalAssessment .finalAssessment)
        state.startedAt turn.stageReading (Asking.start state .finalAssessment)
        (responseReply setting.pydantic turn.firstResponse)
        (responseReply setting.pydantic turn.secondResponse)
      ⟨assessed state store asked, asked.1.requests, none⟩
  | .error escape, _ => escapedAtOnce escape
  | _, .error escape => escapedAtOnce escape

/-- Why a state needs the owner, and how many checks are left in it. -/
def escalationOf (budgets : Budgets) (state : GraphState) :
    Except Escape (Option EscalationReason × ℤ) :=
  match rebuildReceipts state, state.assessment with
  | .ok receipts, some assessment =>
      match toolsLeft budgets receipts with
      | .ok remaining =>
          .ok (escalationReason receipts assessment remaining state.runbookPassages.length,
            remaining)
      | .error escape => .error escape
  | .error escape, _ => .error escape
  | _, none => .error (.raised "ValidationError")

def decidedState (state : GraphState) (reason : EscalationReason) (decision : Verdict)
    (rejectionNote : Option String) : GraphState :=
  { state with
    phase := .escalationInterrupt
    escalationReason := some reason
    escalationDecision := some decision
    rejectionNote := rejectionNote
    events := recordEvent .escalationInterrupt state.events (.escalationDecided reason decision) }

/-- Every run of the node replays the earlier resume values in order, and asks again
after one that is malformed. -/
def escalationInterrupt (setting : Setting) (state : GraphState) (resumes : List Json) :
    Performed :=
  match escalationOf setting.budgets state, rebuildRecords state with
  | .ok (some reason, remaining), .ok store =>
      match resumes.findSome? parseResumeDecision with
      | some (decision, note) =>
          ⟨.updated (decidedState state reason decision note), [], none⟩
      | none =>
          ⟨.paused ⟨reason, store.ordered.map Evidence.evidenceId, remaining,
            !resumes.isEmpty⟩, [], none⟩
  | .ok (none, _), .ok _ => escapedAtOnce (.raised "AssertionError")
  | .error escape, _ => escapedAtOnce escape
  | _, .error escape => escapedAtOnce escape

def reportedState (state : GraphState) (report : InvestigationReport) : GraphState :=
  let unresolved := unresolvedRunbookCitations state.assessment state.runbookPassages
  { state with
    phase := .finalReport
    report := some report
    events := recordEvents .finalReport state.events
      (if unresolved = [] then [] else [.runbookCitationUnresolved unresolved.length]) }

def finalReport (setting : Setting) (state : GraphState) (turn : Turn) : Performed :=
  match buildReport setting.budgets state turn.reportReading none with
  | .error escape => escapedAtOnce escape
  | .ok report => ⟨.updated (reportedState state report), [], none⟩

def perform (setting : Setting) (node : Node) (state : GraphState) (resumes : List Json)
    (turn : Turn) : Performed :=
  match node with
  | .investigate => investigate setting state turn
  | .dispatchTool => dispatchTool setting state turn
  | .normalizeEvidence => normalizeEvidence state
  | .finalAssessment => finalAssessment setting state turn
  | .escalationInterrupt => escalationInterrupt setting state resumes
  | .finalReport => finalReport setting state turn

end Nodes

section Routes

def routeAfterInvestigate (state : GraphState) : Node :=
  if state.pendingProposal.isSome then .dispatchTool
  else if state.failureReason.isSome then .finalReport
  else .finalAssessment

def routeAfterNormalize (setting : Setting) (state : GraphState) (reading : Time) :
    Except Escape Node :=
  if state.failureReason.isSome then .ok .finalReport
  else
    match rebuildReceipts state with
    | .error escape => .error escape
    | .ok receipts =>
        match toolsLeft setting.budgets receipts with
        | .error escape => .error escape
        | .ok remaining =>
            if remaining > 0 ∧
                modelCallsLeft state.modelCallsUsed state.repairsUsed setting.budgets ≥ 2 ∧
                ¬ expired state.startedAt setting.budgets reading ∧
                (state.modelTurn : ℤ) < setting.budgets.modelCalls then
              .ok .investigate
            else .ok .finalAssessment

def routeAfterFinalAssessment (setting : Setting) (state : GraphState) : Except Escape Node :=
  if state.failureReason.isSome then .ok .finalReport
  else if setting.suppressEscalation then .ok .finalReport
  else
    match escalationOf setting.budgets state with
    | .error escape => .error escape
    | .ok (some _, _) => .ok .escalationInterrupt
    | .ok (none, _) => .ok .finalReport

def route (setting : Setting) (node : Node) (state : GraphState) (reading : Time) :
    Except Escape (Option Node) :=
  match node with
  | .investigate => .ok (some (routeAfterInvestigate state))
  | .dispatchTool => .ok (some .normalizeEvidence)
  | .normalizeEvidence => (routeAfterNormalize setting state reading).map some
  | .finalAssessment => (routeAfterFinalAssessment setting state).map some
  | .escalationInterrupt => .ok (some .finalReport)
  | .finalReport => .ok none

end Routes

section Threads

/-- Where a thread stands: before a node, over, paused at the interrupt, or at a node
that raised. -/
inductive Position where
  | running (node : Node)
  | ended
  | paused (payload : InterruptPayload)
  | raised (node : Node) (escape : Escape)
  deriving DecidableEq, Repr

/-- One executed superstep: the node, the state it started from, and what it did. -/
structure Entry where
  node : Node
  before : GraphState
  turn : Turn
  requests : List ModelRequest
  called : Option ToolArguments

/-- A thread with its last checkpoint, the resume values sent to it, and every superstep
so far. -/
structure Thread where
  state : GraphState
  position : Position
  resumes : List Json
  journal : List Entry

def createdState (setting : Setting) (investigationId runId : String) (startedAt : Time) :
    GraphState where
  investigationId := investigationId
  runId := runId
  incidentId := setting.incident.scope.incidentId
  phase := .created
  modelTurn := 0
  modelCallsUsed := 0
  repairsUsed := 0
  invalidResponses := 0
  startedAt := startedAt
  contextDigest := ""
  seenFingerprints := ∅
  receipts := []
  evidence := setting.incident.evidence
  runbookPassages := []
  retrievalMode := .disabled
  events := recordEvent .created []
    (.investigationStarted setting.incident.scope.incidentId runId)
  pendingProposal := none
  assessment := none
  usage := none
  failureReason := none
  escalationReason := none
  escalationDecision := none
  rejectionNote := none
  report := none

def startNode (setting : Setting) : Node :=
  if setting.noToolBaseline then .finalAssessment else .investigate

def Thread.start (setting : Setting) (investigationId runId : String) (startedAt : Time) :
    Thread where
  state := createdState setting investigationId runId startedAt
  position := .running (startNode setting)
  resumes := []
  journal := []

/-- Where a node's end leads. An exception of the node or of its route commits nothing. -/
def land (setting : Setting) (thread : Thread) (node : Node) (turn : Turn) (left : Left) :
    Thread :=
  match left with
  | .escaped escape => { thread with position := .raised node escape }
  | .paused payload =>
      match turn.fault with
      | some name => { thread with position := .raised node (.raised name) }
      | none => { thread with position := .paused payload }
  | .updated state =>
      match turn.fault with
      | some name => { thread with position := .raised node (.raised name) }
      | none =>
          match route setting node state turn.routeReading with
          | .error escape => { thread with position := .raised node escape }
          | .ok none => { thread with state := state, position := .ended }
          | .ok (some next) => { thread with state := state, position := .running next }

/-- One superstep. A thread that is not at a node stays as it is. -/
def superstep (setting : Setting) (thread : Thread) (turn : Turn) : Thread :=
  match thread.position with
  | .running node =>
      let performed := perform setting node thread.state thread.resumes turn
      land setting
        { thread with journal := thread.journal ++
            [⟨node, thread.state, turn, performed.requests, performed.called⟩] }
        node turn performed.left
  | _ => thread

/-- What happens to a thread: a superstep, an answer to its interrupt, or the next
invocation after one that raised. -/
inductive Act where
  | step (turn : Turn)
  | resume (value : Json)
  | recover

/-- A resume value makes only the interrupted node run again. -/
def resumeThread (thread : Thread) (value : Json) : Thread :=
  match thread.position with
  | .paused _ =>
      { thread with position := .running .escalationInterrupt, resumes := thread.resumes ++ [value] }
  | _ => thread

def recoverThread (thread : Thread) : Thread :=
  match thread.position with
  | .raised node _ => { thread with position := .running node }
  | _ => thread

def act (setting : Setting) (thread : Thread) : Act → Unit × Thread
  | .step turn => ((), superstep setting thread turn)
  | .resume value => ((), resumeThread thread value)
  | .recover => ((), recoverThread thread)

def after (setting : Setting) (thread : Thread) (acts : List Act) : Thread :=
  (Machine.run (act setting) thread acts).2

end Threads

section Invocations

def graphRecursionLimit : ℕ := 25

structure InvestigationResult where
  report : InvestigationReport
  evidence : List Evidence
  receipts : List ToolReceipt

structure EscalatedInvestigation where
  threadId : String
  runId : String
  reason : EscalationReason
  evidence : List Evidence
  receipts : List ToolReceipt
  remainingCheckCount : ℕ

inductive Settled where
  | finished (result : InvestigationResult)
  | escalated (paused : EscalatedInvestigation)

/-- `compiled.invoke`: supersteps until the thread stops, at most the recursion limit. -/
def invoke (setting : Setting) (thread : Thread) (turns : ℕ → Turn) : Thread :=
  after setting thread ((List.range graphRecursionLimit).map fun n => .step (turns n))

def finishedResult (state : GraphState) (report : InvestigationReport) :
    Except Escape Settled :=
  match rebuildRecords state, rebuildReceipts state with
  | .ok store, .ok receipts => .ok (.finished ⟨report, store.ordered, receipts⟩)
  | .error escape, _ => .error escape
  | _, .error escape => .error escape

def pausedResult (state : GraphState) (payload : InterruptPayload) : Except Escape Settled :=
  match rebuildRecords state, rebuildReceipts state with
  | .ok store, .ok receipts =>
      if 0 ≤ payload.remainingCheckCount then
        .ok (.escalated ⟨state.investigationId, state.runId, payload.reason, store.ordered,
          receipts, payload.remainingCheckCount.toNat⟩)
      else .error (.raised "ValidationError")
  | .error escape, _ => .error escape
  | _, .error escape => .error escape

/-- The handler of an exception that left the graph: a forced report, from the last
checkpoint. -/
def containedResult (setting : Setting) (state : GraphState) (name : String) (reading : Time) :
    Except Escape Settled :=
  let state := { state with
    events := recordEvent .finalReport state.events (.internalError name) }
  match buildReport setting.budgets state reading (some .internalError) with
  | .error escape => .error escape
  | .ok report => finishedResult { state with report := some report } report

/-- `_settle_invocation`, given the thread that the invocation left. -/
def settleInvocation (setting : Setting) (thread : Thread) (reading : Time) :
    Except Escape Settled :=
  match thread.position with
  | .raised _ .bubbled => .error .bubbled
  | .raised _ escape => containedResult setting thread.state escape.name reading
  | .running _ => containedResult setting thread.state "GraphRecursionError" reading
  | .paused payload => pausedResult thread.state payload
  | .ended =>
      match thread.state.report with
      | some report => finishedResult thread.state report
      | none => .error (.raised "ValidationError")

def runGraphInvestigation (setting : Setting) (investigationId runId : String)
    (startedAt : Time) (turns : ℕ → Turn) (reading : Time) : Except Escape Settled :=
  settleInvocation setting
    (invoke setting (Thread.start setting investigationId runId startedAt) turns) reading

def resumeInvocation (setting : Setting) (thread : Thread) (value : Json) (turns : ℕ → Turn) :
    Thread :=
  invoke setting (resumeThread thread value) turns

end Invocations

section Samples

def labHashing : Hashing where
  digestText := fun text => "digest of " ++ text
  contentHash := fun payload => "hash of " ++ toString payload.length
  fingerprint := fun arguments => "fingerprint of " ++ arguments.tool.value

def labDiagnosis : FinalAssessment where
  disposition := .diagnosed
  rootCause := .configChange
  supportingEvidenceIds := ["symptom"]
  contraryEvidenceIds := []
  runbookCitations := []
  uncertainty := "one alert only"
  nextStep := "roll the change back"
  uncertaintyBound := by decide
  nextStepBound := by decide
  terminal := ⟨by decide, by decide⟩

def labAbstention : FinalAssessment where
  disposition := .insufficientEvidence
  rootCause := .undetermined
  supportingEvidenceIds := ["symptom"]
  contraryEvidenceIds := []
  runbookCitations := []
  uncertainty := "two causes fit"
  nextStep := "query the metric"
  uncertaintyBound := by decide
  nextStepBound := by decide
  terminal := rfl

def assessmentContent (disposition rootCause uncertainty nextStep : String) : Json.Dict :=
  [("disposition", .str disposition), ("root_cause", .str rootCause),
    ("supporting_evidence_ids", .arr [.str "symptom"]), ("contrary_evidence_ids", .arr []),
    ("runbook_citations", .arr []), ("uncertainty", .str uncertainty),
    ("next_step", .str nextStep)]

def labReader : Pydantic :=
  { labPydantic with
    assessment := fun content =>
      match Json.get content "disposition" with
      | some (.str "DIAGNOSED") => .ok labDiagnosis
      | some (.str "INSUFFICIENT_EVIDENCE") => .ok labAbstention
      | _ => .error [⟨["disposition"], "Field required"⟩] }

def labSetting : Setting := ⟨labIncident, defaultBudgets, labHashing, labReader, false, false⟩

def labPlan : Plan where
  hypotheses := labHypotheses
  proposal := none
  stopReason := some "the alert is enough"
  hypothesesBound := labHypotheses_bound
  stopBound := by decide
  proposalOrStop := by decide

def stoppingTurn : ModelRequest → Except Escape ProposedTurn :=
  fun _ => .ok ⟨some labPlan, "", [], none⟩

def diagnosing : ModelRequest → Except Escape ModelResponse := fun _ =>
  .ok ⟨assessmentContent "DIAGNOSED" "CONFIG_CHANGE" "one alert only" "roll the change back",
    none, ""⟩

def abstaining : ModelRequest → Except Escape ModelResponse := fun _ =>
  .ok ⟨assessmentContent "INSUFFICIENT_EVIDENCE" "UNDETERMINED" "two causes fit"
    "query the metric", none, ""⟩

/-- Backends that are down, with the ids that the turn would mint. -/
def labOutside (receiptId evidenceId : String) : Outside where
  receiptId := receiptId
  evidenceId := evidenceId
  requestedAt := 0
  observedAt := 0
  check := .error (.raised "ConnectionError")
  search := .error (.raised "ConnectionError")
  strike := none

/-- A turn in which the model stops at once and then answers with an assessment. -/
def answeringTurn (respond : ModelRequest → Except Escape ModelResponse) : Turn where
  stageReading := 0
  firstProposal := stoppingTurn
  secondProposal := stoppingTurn
  firstResponse := respond
  secondResponse := respond
  outside := labOutside "receipt" "evidence"
  routeReading := 0
  reportReading := 0
  fault := none

def labSearch : ToolProposal where
  arguments := .searchRunbooks ⟨.gatewayErrors, 5, by decide⟩
  evidenceGap := "is this known"
  expectedObservation := "a runbook"
  gapBound := by decide
  observationBound := by decide

theorem noStop_bound :
    ∀ reason ∈ (none : Option String), 1 ≤ reason.length ∧ reason.length ≤ 600 := by simp

def labSearchPlan : Plan where
  hypotheses := labHypotheses
  proposal := some labSearch
  stopReason := none
  hypothesesBound := labHypotheses_bound
  stopBound := noStop_bound
  proposalOrStop := by decide

def labPassage : RunbookPassage where
  passageId := "passage"
  content := "roll the change back"
  sourceVersion := "1"
  contentHash := "hash"
  score := 1
  retrievalMode := .fts5Lexical
  contentBound := by decide

/-- A turn in which the model proposes a search that finds one passage. -/
def searchingTurn (strike : Option Strike) : Turn :=
  { answeringTurn diagnosing with
    firstProposal := fun _ =>
      .ok ⟨some labSearchPlan, "", [toToolCall labReader labSearch "call-1"], none⟩
    outside := { labOutside "receipt" "evidence" with
      search := .ok ⟨.executed, [labPassage], .fts5Lexical, none, 12⟩
      strike := strike } }

def labStart : Thread := Thread.start labSetting "investigation" "run" 0

/-- The lab's investigation with one behaviour of the outside throughout. -/
def labRun (turn : Turn) : Thread := invoke labSetting labStart fun _ => turn

end Samples

end CausalOps.Investigation
