import CausalOps.Investigation.ToolCalls
import CausalOps.Investigation.Wrappers.Leaves

set_option autoImplicit false

/-! Dispatch over MCP: the client's wrappers forward the four observability tools to a child
process, which authorizes, reserves and settles once more with a memory of its own.

A message stands for its line of text; what pydantic does with a line is a parameter. -/

namespace CausalOps.Investigation

section Checks

/-- What a backend hands over: `executed_check` sets no reason, `failed_check` always one. -/
abbrev BackendCheck :=
  { outcome : CheckOutcome // outcome.outcome = .executed ↔ outcome.reasonCode = none }

def failedCheck (kind : EvidenceKind) (source : String) (outcome : ToolOutcome)
    (reason : ReasonCode) (note : String) : CheckOutcome where
  outcome := outcome
  kind := kind
  source := source
  summary := note
  payload := []
  reasonCode := some reason
  durationMs := 0

def Evidence.sortKeys (evidence : Evidence) : Evidence :=
  { evidence with payload := Json.sortKeys.sortEntries evidence.payload }

def DispatchResult.sortKeys (result : DispatchResult) : DispatchResult :=
  { result with evidence := result.evidence.map Evidence.sortKeys }

end Checks

namespace Mcp

section Session

/-- A `tools/call` request. -/
structure Request where
  id : ℕ
  name : String
  arguments : Json.Dict

structure CallResult (Wire : Type) where
  content : List Wire
  isError : Bool

/-- A response; without a result it reports an error or is no valid one. -/
structure Response (Wire : Type) where
  id : ℕ
  result : Option (CallResult Wire)

/-- `McpStdioSession`: `ready` once the tools of the peer are verified. -/
structure Session where
  ready : Bool
  requestId : ℕ
  pending : Option ℕ

/-- After `initialize` and `tools/list`. -/
def Session.verified : Session := ⟨true, 2, none⟩

/-- `{"tool": name.value, **arguments}`. -/
def payloadOf (name : ToolName) (arguments : Json.Dict) : Json.Dict :=
  arguments.foldl (fun payload entry => Json.set payload entry.1 entry.2)
    [("tool", .str name.value)]

/-- `None` stands for `McpProtocolError`. -/
def Session.toolCallRequest (strict : Pydantic) (session : Session) (name : ToolName)
    (arguments : Json.Dict) : Option (Session × Request) :=
  if !session.ready then none
  else
    match validateArguments strict [] (payloadOf name arguments) with
    | .error _ => none
    | .ok parsed =>
        if parsed.tool ≠ name then none
        else if session.pending.isSome then none
        else
          let id := session.requestId + 1
          some ({ session with requestId := id, pending := some id },
            ⟨id, name.value, dumpArguments strict parsed⟩)

def Session.acceptToolCallResponse {Wire : Type} (session : Session) (response : Response Wire) :
    Session × Option (List Wire) :=
  if session.pending ≠ some response.id then (session, none)
  else
    ({ session with pending := none },
      match response.result with
      | none => none
      | some result => if result.isError then none else some result.content)

end Session

/-- What both processes are configured with, and what pydantic does on both ends. -/
structure Setting (Wire : Type) where
  hashing : Hashing
  scope : IncidentScope
  budgets : Budgets
  strict : Pydantic
  dumpResult : DispatchResult → Wire
  readResult : Wire → Option DispatchResult

/-- A result is read back with the keys of its payload in order; `content_hash` puts them in
order as well before it digests a payload. The numbers and moments of a payload are those that a
backend's answer can hold: the finitely many of a run, on which the library is as here. -/
structure Setting.Faithful {Wire : Type} (c : Setting Wire) : Prop where
  strict : c.strict.Faithful
  result : ∀ result, c.readResult (c.dumpResult result) = some result.sortKeys
  hash : ∃ digest : Json.Dict → String, ∀ payload,
    c.hashing.contentHash payload = digest (Json.sortKeys.sortEntries payload)

/-- The ids and clock readings that one dispatch draws. -/
structure Fresh where
  receiptId : String
  evidenceId : String
  requestedAt : Time
  observedAt : Time

def Fresh.outside (fresh : Fresh) (check : Except Escape CheckOutcome)
    (search : Except Escape RunbookCheckOutcome) : Outside where
  receiptId := fresh.receiptId
  evidenceId := fresh.evidenceId
  requestedAt := fresh.requestedAt
  observedAt := fresh.observedAt
  check := check
  search := search
  strike := none

/-- The seen fingerprints and the ledger of one process. -/
structure Memory where
  seen : Finset String
  ledger : ReservationLedger

section Child

variable {Wire : Type}

inductive Answer (Wire : Type) where
  | responds (response : Response Wire)
  | silent
  | exits

structure Served (Wire : Type) where
  memory : Memory
  decision : Option PolicyDecision
  answer : Answer Wire

/-- `ReservationLedger(budgets.executed_tools)` and no fingerprint. -/
def Memory.child (budgets : Budgets) : Memory :=
  ⟨∅, ReservationLedger.empty budgets.executedTools 1⟩

/-- The proposal of `PolicyWrappedMcpExecutor.call`. -/
def observabilityProposal (arguments : ToolArguments) : ToolProposal where
  arguments := arguments
  evidenceGap := "MCP-observability request"
  expectedObservation := "policy-wrapped observability result"
  gapBound := by decide
  observationBound := by decide

/-- `PolicyWrappedMcpExecutor.call`; a wrapper that raises ends the process. -/
def Setting.execute (c : Setting Wire) (memory : Memory) (id : ℕ) (arguments : ToolArguments)
    (fresh : Fresh) (backend : ToolArguments → BackendCheck) : Served Wire :=
  let proposal := observabilityProposal arguments
  let effective := resolveEffectiveWindow arguments c.scope
  let outside := fresh.outside (.ok (backend effective)) (.error (.raised "KeyError"))
  let dispatched :=
    dispatch c.hashing proposal c.scope memory.seen c.budgets memory.ledger outside
  { memory := ⟨dispatched.seen, dispatched.ledger⟩
    decision :=
      some (decisionOf c.hashing proposal c.scope memory.seen c.budgets memory.ledger)
    answer :=
      match dispatched.outcome with
      | .ok result => .responds ⟨id, some ⟨[c.dumpResult result], false⟩⟩
      | .error _ => .exits }

/-- `McpObservabilityServer.handle` of a `tools/call`; a refused request gets no response. -/
def Setting.handle (c : Setting Wire) (memory : Memory) (request : Request) (fresh : Fresh)
    (backend : ToolArguments → BackendCheck) : Served Wire :=
  match readToolName request.name with
  | none => ⟨memory, none, .silent⟩
  | some name =>
      match validateArguments c.strict [] (payloadOf name request.arguments) with
      | .error _ => ⟨memory, none, .silent⟩
      | .ok arguments =>
          if arguments.tool ≠ name then ⟨memory, none, .silent⟩
          -- The child's registry has the four observability tools only.
          else if arguments.tool = .searchRunbooks then ⟨memory, none, .exits⟩
          else c.execute memory request.id arguments fresh backend

end Child

section Process

variable {Wire : Type}

/-- `McpChildProcess`: its session and the memory of the process. -/
structure McpChild where
  session : Session
  memory : Memory
  poisoned : Bool

def McpChild.started (budgets : Budgets) : McpChild :=
  ⟨Session.verified, Memory.child budgets, false⟩

/-- A start that fails leaves no process, or one whose handshake did not end. -/
inductive Spawn where
  | handshakes
  | fails (poisoned : Bool)

/-- What comes back for a request that was written, and whether the child has handled it. -/
inductive Reply (Wire : Type) where
  | answers
  | late (handled : Bool)
  | closes (handled : Bool)
  | garbled (handled : Bool) (response : Option (Response Wire))

/-- The child's fortune around one call; `exited` says that it is found dead. -/
structure Link (Wire : Type) where
  exited : Bool
  spawn : Spawn
  reply : Reply Wire

inductive McpError where
  | timeout
  | unavailable
  | protocol
  | diedMidCall
  deriving DecidableEq, Repr

/-- What a call leaves: the child, what the child's policy decided if it was asked, and the
content of the result. -/
structure Called (Wire : Type) where
  child : McpChild
  decision : Option PolicyDecision
  content : Except McpError (List Wire)

def McpChild.respawnIfDead (budgets : Budgets) (child : McpChild) (link : Link Wire) :
    McpChild × Bool :=
  if !child.poisoned && !link.exited then (child, true)
  else
    match link.spawn with
    | .handshakes => (McpChild.started budgets, true)
    | .fails poisoned => (⟨⟨false, 2, none⟩, Memory.child budgets, poisoned⟩, false)

def McpChild.accept (child : McpChild) (decision : Option PolicyDecision)
    (response : Response Wire) : Called Wire :=
  let (session, content) := child.session.acceptToolCallResponse response
  ⟨{ child with session := session }, decision,
    match content with
    | none => .error .protocol
    | some content => .ok content⟩

def McpChild.poison (child : McpChild) : McpChild := { child with poisoned := true }

def Setting.call (c : Setting Wire) (child : McpChild) (link : Link Wire) (tool : ToolName)
    (arguments : Json.Dict) (fresh : Fresh) (backend : ToolArguments → BackendCheck) :
    Called Wire :=
  match child.respawnIfDead c.budgets link with
  | (child, false) => ⟨child, none, .error .unavailable⟩
  | (child, true) =>
      match child.session.toolCallRequest c.strict tool arguments with
      | none => ⟨child, none, .error .protocol⟩
      | some (session, request) =>
          let served := c.handle child.memory request fresh backend
          let reached (handled : Bool) : McpChild :=
            ⟨session, if handled then served.memory else child.memory, child.poisoned⟩
          let decided (handled : Bool) : Option PolicyDecision :=
            if handled then served.decision else none
          match link.reply with
          | .late handled => ⟨(reached handled).poison, decided handled, .error .timeout⟩
          | .closes handled => ⟨(reached handled).poison, decided handled, .error .diedMidCall⟩
          | .garbled handled none => ⟨reached handled, decided handled, .error .protocol⟩
          | .garbled handled (some response) =>
              (reached handled).accept (decided handled) response
          | .answers =>
              match served.answer with
              | .responds response => (reached true).accept served.decision response
              | .silent => ⟨(reached true).poison, served.decision, .error .timeout⟩
              | .exits => ⟨(reached true).poison, served.decision, .error .diedMidCall⟩

end Process

section Client

variable {Wire : Type}

/-- `_KIND_BY_TOOL`; `search_runbooks` is never looked up. -/
def kindByTool : ToolName → EvidenceKind
  | .queryMetric => .metric
  | .queryLogs => .log
  | .listRecentChanges => .change
  | .getTopology | .searchRunbooks => .topology

/-- `_forwarding_run_check`, from a parsed result on. -/
def forwardedOutcome (tool : ToolName) (result : DispatchResult) : CheckOutcome :=
  match result.receipt.outcome, result.evidence with
  | some .executed, some evidence =>
      { outcome := .executed
        kind := evidence.kind
        source := evidence.source
        summary := evidence.summary
        payload := evidence.payload
        reasonCode := none
        durationMs := result.receipt.durationMs }
  | outcome, _ =>
      failedCheck (kindByTool tool) tool.value (outcome.getD .error)
        (result.receipt.reasonCode.getD .toolError) "MCP child reported a non-executed outcome"

def Setting.parseDispatchResult (c : Setting Wire) : List Wire → Option DispatchResult
  | [] => none
  | text :: _ => c.readResult text

/-- `_forwarding_run_check`, from the end of the call on. -/
def Setting.checkOf (c : Setting Wire) (tool : ToolName) :
    Except McpError (List Wire) → Except Escape CheckOutcome
  | .error .timeout => .ok (failedCheck (kindByTool tool) tool.value .timeout .toolTimeout
      "MCP child did not respond in time")
  | .error .unavailable => .ok (failedCheck (kindByTool tool) tool.value .unavailable
      .toolUnavailable "MCP child is unavailable")
  | .error .protocol => .ok (failedCheck (kindByTool tool) tool.value .error .toolError
      "MCP child returned a malformed response")
  | .error .diedMidCall => .error (.raised "McpChildDiedMidCallError")
  | .ok content =>
      match c.parseDispatchResult content with
      | none => .error (.raised "McpProtocolError")
      | some result => .ok (forwardedOutcome tool result)

/-- One proposal, with the backends of its moment, what each process draws for it, and the
child's fortune. -/
structure Turn (Wire : Type) where
  proposal : ToolProposal
  backend : ToolArguments → BackendCheck
  search : ToolArguments → RunbookCheckOutcome
  direct : Fresh
  client : Fresh
  child : Fresh
  link : Link Wire

def Setting.direct (c : Setting Wire) (memory : Memory) (turn : Turn Wire) :
    Except Escape DispatchResult × Memory :=
  let effective := resolveEffectiveWindow turn.proposal.arguments c.scope
  let dispatched := dispatch c.hashing turn.proposal c.scope memory.seen c.budgets memory.ledger
    (turn.direct.outside (.ok (turn.backend effective)) (.ok (turn.search effective)))
  (dispatched.outcome, ⟨dispatched.seen, dispatched.ledger⟩)

structure Client where
  memory : Memory
  child : McpChild

/-- What a dispatch over MCP shows: its outcome, and what both policies decided. -/
structure Shown where
  outcome : Except Escape DispatchResult
  decision : PolicyDecision
  childDecision : Option PolicyDecision

/-- A dispatch through the client registry. The child is called where a backend would be;
`search_runbooks` is answered locally. -/
def Setting.forwarding (c : Setting Wire) (client : Client) (turn : Turn Wire) :
    Shown × Client :=
  let memory := client.memory
  let effective := resolveEffectiveWindow turn.proposal.arguments c.scope
  let tool := effective.tool
  let called := c.call client.child turn.link tool (dumpArguments c.strict effective) turn.child
    turn.backend
  let dispatched := dispatch c.hashing turn.proposal c.scope memory.seen c.budgets memory.ledger
    (turn.client.outside (c.checkOf tool called.content) (.ok (turn.search effective)))
  let asked := dispatched.called.isSome && decide (tool ≠ .searchRunbooks)
  (⟨dispatched.outcome,
      decisionOf c.hashing turn.proposal c.scope memory.seen c.budgets memory.ledger,
      if asked then called.decision else none⟩,
    ⟨⟨dispatched.seen, dispatched.ledger⟩, if asked then called.child else client.child⟩)

/-- A new investigation: nothing seen, and nothing spent. -/
def Memory.start (budgets : Budgets) : Memory :=
  ⟨∅, ReservationLedger.empty budgets.executedTools budgets.runbookSearches⟩

def Client.start (budgets : Budgets) : Client :=
  ⟨Memory.start budgets, McpChild.started budgets⟩

end Client

end Mcp

end CausalOps.Investigation
