import CausalOps.Library.Machine
import CausalOps.Investigation.Mcp.Safety
import CausalOps.Investigation.ToolCalls.RoundTrip

set_option autoImplicit false

/-! Line by line: what the client makes of the one line that its child writes in answer to a
call, and what that leaves for the calls to come. -/

namespace CausalOps.Investigation.Mcp

section Lines

/-- What `json.loads` makes of a text, non-finite numbers refused. -/
inductive Loads where
  | value (value : Json)
  /-- `ValueError` or `TypeError`. -/
  | invalid
  /-- `RecursionError`, for values nested too deep. -/
  | tooDeep

/-- What `json` and pydantic do on the client's end. -/
structure Transport where
  schemas : Schemas
  strict : Pydantic
  loads : String → Loads
  /-- `DispatchResult.model_validate_json`. -/
  readDispatchResult : String → Option DispatchResult

/-- `removesuffix` of one character. -/
def removeSuffix (c : Char) (line : List Char) : List Char :=
  if line.getLast? = some c then line.dropLast else line

def decodeJsonrpcLine (loads : String → Loads) (line : String) : Except Raised Json.Dict :=
  let payload := removeSuffix '\r' (removeSuffix '\n' line.toList)
  if payload = [] ∨ '\n' ∈ payload ∨ '\r' ∈ payload then
    .error (.protocol "MCP stdio message must be one newline-free line")
  else
    match loads (String.ofList payload) with
    | .invalid => .error (.protocol "MCP stdio message is not valid JSON")
    | .tooDeep => .error (.other "RecursionError")
    | .value (.obj entries) =>
        if getString entries "jsonrpc" ≠ some "2.0" then
          .error (.protocol "MCP message must be a JSON-RPC 2.0 object")
        else .ok entries
    | .value _ => .error (.protocol "MCP message must be a JSON-RPC 2.0 object")

inductive Arrival where
  | line (text : String)
  /-- The end of stdout. -/
  | closed
  /-- Nothing within the time allowed. -/
  | silence

/-- A line as the child writes it. One that is no text ends the reading thread. -/
inductive Written where
  | text (line : String)
  | undecodable

def Written.arrival : Written → Arrival
  | .text line => .line line
  | .undecodable => .closed

inductive ChildRaised where
  /-- `McpChildTimeoutError`. -/
  | timeout
  /-- `McpChildUnavailableError`. -/
  | unavailable
  /-- `McpChildDiedMidCallError`. -/
  | diedMidCall
  | raised (raised : Raised)

end Lines

section Process

structure McpChildProcess where
  session : Option McpStdioSession
  poisoned : Bool

/-- The lines that a new child writes in its handshake; no process at all when `Popen` fails. -/
inductive Spawning where
  | starts (first second : Arrival)
  | fails

/-- The child's fortune around one call; `exited` says that it is found dead. -/
structure Fortune where
  exited : Bool
  spawning : Spawning

namespace Transport

variable (t : Transport)

/-- `_read_one`, and whether it poisons the child. -/
def readOne : Arrival → Except ChildRaised Json.Dict × Bool
  | .silence => (.error .timeout, true)
  | .closed => (.error .diedMidCall, true)
  | .line text => ((decodeJsonrpcLine t.loads text).mapError .raised, false)

/-- `_handshake`: the child it leaves, and whether it ended well. -/
def handshake (first second : Arrival) : McpChildProcess × Bool :=
  let (_, session) := McpStdioSession.start.initializeRequest
  match t.readOne first with
  | (.error _, poisoned) => (⟨some session, poisoned⟩, false)
  | (.ok message, _) =>
      match session.acceptInitializeResponse t.schemas message with
      | (.error _, session) => (⟨some session, false⟩, false)
      | (.ok _, session) =>
          let (_, session) := session.initializedNotification
          let (_, session) := session.toolsListRequest
          match t.readOne second with
          | (.error _, poisoned) => (⟨some session, poisoned⟩, false)
          | (.ok message, _) =>
              match session.acceptToolsListResponse t.schemas message with
              | (.error _, session) => (⟨some session, false⟩, false)
              | (.ok _, session) => (⟨some session, false⟩, true)

/-- `start`. -/
def spawn : Spawning → McpChildProcess × Bool
  | .fails => (⟨none, false⟩, false)
  | .starts first second => t.handshake first second

def respawnIfDead (child : McpChildProcess) (fortune : Fortune) : McpChildProcess × Bool :=
  if !child.poisoned && child.session.isSome && !fortune.exited then (child, true)
  else t.spawn fortune.spawning

/-- `call`, on a session. -/
def callSession (session : McpStdioSession) (tool : ToolName) (arguments : Json.Dict)
    (answer : Arrival) : Except ChildRaised McpToolCallResult × McpChildProcess :=
  match session.toolCallRequest t.strict tool arguments with
  | (.error raised, session) => (.error (.raised raised), ⟨some session, false⟩)
  | (.ok _, session) =>
      match t.readOne answer with
      | (.error raised, poisoned) => (.error raised, ⟨some session, poisoned⟩)
      | (.ok message, _) =>
          let (result, session) := session.acceptToolCallResponse message
          (result.mapError .raised, ⟨some session, false⟩)

def call (child : McpChildProcess) (tool : ToolName) (arguments : Json.Dict) (fortune : Fortune)
    (answer : Arrival) : Except ChildRaised McpToolCallResult × McpChildProcess :=
  match t.respawnIfDead child fortune with
  | (child, false) => (.error .unavailable, child)
  | (child, true) =>
      match child.session with
      | none => (.error (.raised (.other "AssertionError")), child)
      | some session => t.callSession session tool arguments answer

def parseDispatchResult (result : McpToolCallResult) : Except Raised DispatchResult :=
  match result.content with
  | [] => .error (.protocol "MCP tool result carried no content")
  | text :: _ =>
      match t.readDispatchResult text with
      | none => .error (.protocol "MCP tool result content is not a valid DispatchResult")
      | some result => .ok result

def failed (tool : ToolName) (outcome : ToolOutcome) (reason : ReasonCode) (note : String) :
    CheckOutcome :=
  failedCheck (kindByTool tool) tool.value outcome reason note

/-- `run_check` of `_forwarding_run_check`. The parsing stands outside of its `try`. -/
def runCheck (child : McpChildProcess) (tool : ToolName) (arguments : Json.Dict)
    (fortune : Fortune) (answer : Arrival) :
    Except ChildRaised CheckOutcome × McpChildProcess :=
  match t.call child tool arguments fortune answer with
  | (.error .timeout, child) =>
      (.ok (failed tool .timeout .toolTimeout "MCP child did not respond in time"), child)
  | (.error .unavailable, child) =>
      (.ok (failed tool .unavailable .toolUnavailable "MCP child is unavailable"), child)
  | (.error (.raised (.protocol _)), child) =>
      (.ok (failed tool .error .toolError "MCP child returned a malformed response"), child)
  | (.error raised, child) => (.error raised, child)
  | (.ok result, child) =>
      (match t.parseDispatchResult result with
      | .error raised => .error (.raised raised)
      | .ok result => .ok (forwardedOutcome tool result), child)

end Transport

end Process

section Isolation

namespace Transport

variable (t : Transport)

/-- What a response carries, when it reports no error. -/
def carried (message : Json.Dict) : Option McpToolCallResult :=
  if given (Json.get message "error") then none
  else
    match resultOf message with
    | none => none
    | some result =>
        match McpToolCallResult.modelValidate result with
        | none => none
        | some parsed => if parsed.isError then none else some parsed

/-- The dispatch result that a line carries in answer to a request. -/
def dispatched (id : ℕ) (line : String) : Option DispatchResult :=
  match decodeJsonrpcLine t.loads line with
  | .error _ => none
  | .ok message =>
      if isInt (Json.get message "id") id then
        (carried message).bind fun result => (t.parseDispatchResult result).toOption
      else none

/-- A session that has been verified and waits for nothing. -/
structure Idle (session : McpStdioSession) : Prop where
  ready : session.state = .ready
  verified : session.manifest.isSome
  free : session.pending = none

def Usable (child : McpChildProcess) : Prop :=
  child.poisoned = false ∧ ∃ session, child.session = some session ∧ Idle session

/-- The next call runs on a session without an outstanding request, or on a new child. -/
def Restored (child : McpChildProcess) : Prop :=
  child.poisoned = true ∨ ∃ session, child.session = some session ∧ session.pending = none

/-- The session that a call runs on, when its child is there or can be started again. -/
def Running (child : McpChildProcess) (fortune : Fortune) (session : McpStdioSession) : Prop :=
  (t.respawnIfDead child fortune).2 = true ∧
    (t.respawnIfDead child fortune).1.session = some session

/-- Arguments that the session puts into a request. -/
def Approved (tool : ToolName) (arguments : Json.Dict) : Prop :=
  ∃ parsed, validateStrictToolArguments t.strict (payloadOf tool arguments) = .ok parsed ∧
    parsed.tool = tool

/-- One call, with the line that is written in answer to it. -/
structure Asked where
  tool : ToolName
  arguments : Json.Dict
  fortune : Fortune
  written : Written

def ask (child : McpChildProcess) (asked : Asked) :
    Except ChildRaised CheckOutcome × McpChildProcess :=
  t.runCheck child asked.tool asked.arguments asked.fortune asked.written.arrival

/-- The dispatch result that is written in answer to a call. -/
def Carries (session : McpStdioSession) (asked : Asked) (result : DispatchResult) : Prop :=
  ∃ line, asked.written = .text line ∧ t.dispatched (session.requestId + 1) line = some result

/-- A call of approved arguments, to a child that answers it with a dispatch result. -/
def WellBehaved (child : McpChildProcess) (asked : Asked) (result : DispatchResult) : Prop :=
  ∃ session, t.Running child asked.fortune session ∧ t.Approved asked.tool asked.arguments ∧
    t.Carries session asked result

def Unharmed (child : McpChildProcess) : Prop :=
  ∀ asked result, t.WellBehaved child asked result →
    (t.ask child asked).1 = .ok (forwardedOutcome asked.tool result)

/-- What one answer may do: the check is the one of the dispatch result that came, or else
`TOOL_ERROR`, and no later call is harmed. -/
structure Isolated (child : McpChildProcess) (session : McpStdioSession) (asked : Asked) :
    Prop where
  check : ∀ result, t.Carries session asked result →
    (t.ask child asked).1 = .ok (forwardedOutcome asked.tool result)
  error : (¬ ∃ result, t.Carries session asked result) →
    ∃ note, (t.ask child asked).1 = .ok (failed asked.tool .error .toolError note)
  restored : Restored (t.ask child asked).2
  later : t.Unharmed (t.ask child asked).2

/-- A line with the id of the request, whose result, if it is one of a call, is a dispatch's. -/
def Isolates (id : ℕ) (written : Written) : Prop :=
  ∃ line message, written = .text line ∧ decodeJsonrpcLine t.loads line = .ok message ∧
    isInt (Json.get message "id") id = true ∧
    ∀ result, carried message = some result → ∃ parsed, t.parseDispatchResult result = .ok parsed

end Transport

end Isolation

section Calls

namespace Transport

variable {t : Transport} {child : McpChildProcess} {session : McpStdioSession}
  {tool : ToolName} {arguments : Json.Dict} {fortune : Fortune} {line : String}
  {message : Json.Dict}

theorem decode_version (h : decodeJsonrpcLine t.loads line = .ok message) :
    getString message "jsonrpc" = some "2.0" := by
  simp only [decodeJsonrpcLine] at h
  split at h
  · cases h
  split at h
  · cases h
  · cases h
  · split at h
    · cases h
    · rename_i hversion
      obtain rfl := Except.ok.inj h
      exact not_not.1 hversion
  · cases h

def sent (session : McpStdioSession) : McpStdioSession :=
  { session with
    requestId := session.requestId + 1
    pending := some (session.requestId + 1, "tools/call") }

def answered (session : McpStdioSession) : McpStdioSession :=
  { session with requestId := session.requestId + 1, pending := none }

theorem toolCallRequest_idle (hidle : Idle session) (happroved : t.Approved tool arguments) :
    ∃ request, session.toolCallRequest t.strict tool arguments = (.ok request, sent session) := by
  obtain ⟨parsed, hparsed, htool⟩ := happroved
  have hmanifest : session.manifest.isNone = false := by
    rw [Option.isNone_eq_false_iff]
    exact hidle.verified
  unfold McpStdioSession.toolCallRequest
  rw [if_neg (not_not.2 hidle.ready), hmanifest, if_neg Bool.false_ne_true, hparsed]
  dsimp only
  rw [if_neg (not_not.2 htool), McpStdioSession.request, hidle.free]
  exact ⟨_, rfl⟩

theorem accept_other (hversion : getString message "jsonrpc" = some "2.0")
    (hid : isInt (Json.get message "id") (session.requestId + 1 : ℕ) = false) :
    ∃ text, (sent session).acceptToolCallResponse message =
      (.error (.protocol text), sent session) := by
  refine ⟨"MCP response id does not match its request", ?_⟩
  simp only [McpStdioSession.acceptToolCallResponse, McpStdioSession.response, sent, ne_eq,
    not_true_eq_false, if_false, hversion, hid, Bool.not_false, if_true]

theorem response_own (hversion : getString message "jsonrpc" = some "2.0")
    (hid : isInt (Json.get message "id") (session.requestId + 1 : ℕ) = true) :
    ∃ text, (sent session).response message "tools/call" =
      (if given (Json.get message "error") then .error (.protocol text)
        else
          match resultOf message with
          | none => .error (.protocol text)
          | some result => .ok result, answered session) := by
  refine ⟨"MCP " ++ "tools/call" ++ " request did not return an object result", ?_⟩
  simp only [McpStdioSession.response, sent, ne_eq, not_true_eq_false, if_false, hversion, hid,
    Bool.not_true, Bool.false_eq_true, resultOf]
  cases herror : given (Json.get message "error") with
  | true =>
      simp only [if_true]
      split <;> rfl
  | false =>
      simp only [Bool.false_eq_true, if_false]
      split <;> rfl

theorem accept_own (hversion : getString message "jsonrpc" = some "2.0")
    (hid : isInt (Json.get message "id") (session.requestId + 1 : ℕ) = true) :
    ((sent session).acceptToolCallResponse message).2 = answered session ∧
      match carried message with
      | some result => ((sent session).acceptToolCallResponse message).1 = .ok result
      | none => ∃ text, ((sent session).acceptToolCallResponse message).1 =
          .error (.protocol text) := by
  obtain ⟨text, hresponse⟩ := response_own hversion hid
  rw [McpStdioSession.acceptToolCallResponse, hresponse, carried]
  cases given (Json.get message "error") with
  | true => exact ⟨rfl, text, rfl⟩
  | false =>
      simp only [Bool.false_eq_true, if_false]
      cases resultOf message with
      | none => exact ⟨rfl, text, rfl⟩
      | some result =>
          dsimp only
          cases McpToolCallResult.modelValidate result with
          | none => exact ⟨rfl, _, rfl⟩
          | some parsed =>
              dsimp only
              cases parsed.isError with
              | true => exact ⟨rfl, _, rfl⟩
              | false => exact ⟨rfl, rfl⟩

theorem call_running {child : McpChildProcess} (hrunning : t.Running child fortune session)
    (hidle : Idle session) (happroved : t.Approved tool arguments) (answer : Arrival) :
    t.call child tool arguments fortune answer =
      match t.readOne answer with
      | (.error raised, poisoned) => (.error raised, ⟨some (sent session), poisoned⟩)
      | (.ok message, _) =>
          ((((sent session).acceptToolCallResponse message).1).mapError .raised,
            ⟨some ((sent session).acceptToolCallResponse message).2, false⟩) := by
  obtain ⟨request, hrequest⟩ := toolCallRequest_idle hidle happroved
  obtain ⟨hruns, hsession⟩ := hrunning
  cases hrespawned : t.respawnIfDead child fortune with
  | mk respawned runs =>
      rw [hrespawned] at hruns hsession
      obtain rfl : runs = true := hruns
      replace hsession : respawned.session = some session := hsession
      simp only [call, hrespawned, hsession, callSession, hrequest]

/-- The child that a call leaves, and what its check says of the answer. -/
inductive Outcome (t : Transport) (session : McpStdioSession) (tool : ToolName)
    (written : Written) : Except ChildRaised CheckOutcome × McpChildProcess → Prop
  | undecodable (h : written = .undecodable) {raised : ChildRaised} {after : McpChildProcess} :
      Outcome t session tool written (.error raised, after)
  | stuck {line : String} (h : written = .text line)
      (other : ∀ message, decodeJsonrpcLine t.loads line = .ok message →
        isInt (Json.get message "id") (session.requestId + 1 : ℕ) = false)
      {check : Except ChildRaised CheckOutcome} :
      Outcome t session tool written (check, ⟨some (sent session), false⟩)
  | refused {line : String} {message : Json.Dict} (h : written = .text line)
      (decodes : decodeJsonrpcLine t.loads line = .ok message)
      (own : isInt (Json.get message "id") (session.requestId + 1 : ℕ) = true)
      (nothing : carried message = none) {note : String} :
      Outcome t session tool written
        (.ok (failed tool .error .toolError note), ⟨some (answered session), false⟩)
  | unread {line : String} {message : Json.Dict} {result : McpToolCallResult} {raised : Raised}
      (h : written = .text line) (decodes : decodeJsonrpcLine t.loads line = .ok message)
      (own : isInt (Json.get message "id") (session.requestId + 1 : ℕ) = true)
      (carries : carried message = some result)
      (fails : t.parseDispatchResult result = .error raised) :
      Outcome t session tool written
        (.error (.raised raised), ⟨some (answered session), false⟩)
  | forwarded {line : String} {message : Json.Dict} {result : McpToolCallResult}
      {parsed : DispatchResult} (h : written = .text line)
      (decodes : decodeJsonrpcLine t.loads line = .ok message)
      (own : isInt (Json.get message "id") (session.requestId + 1 : ℕ) = true)
      (carries : carried message = some result)
      (parses : t.parseDispatchResult result = .ok parsed) :
      Outcome t session tool written
        (.ok (forwardedOutcome tool parsed), ⟨some (answered session), false⟩)

theorem runCheck_outcome {child : McpChildProcess} (hrunning : t.Running child fortune session)
    (hidle : Idle session) (happroved : t.Approved tool arguments) (written : Written) :
    Outcome t session tool written
      (t.runCheck child tool arguments fortune written.arrival) := by
  rw [runCheck, call_running hrunning hidle happroved]
  cases written with
  | undecodable => exact .undecodable rfl
  | text line =>
      simp only [Written.arrival, readOne]
      cases hdecode : decodeJsonrpcLine t.loads line with
      | error raised =>
          have hother : ∀ message, decodeJsonrpcLine t.loads line = .ok message →
              isInt (Json.get message "id") (session.requestId + 1 : ℕ) = false := by
            intro message hmessage
            rw [hdecode] at hmessage
            cases hmessage
          simp only [Except.mapError]
          cases raised <;> exact .stuck rfl hother
      | ok message =>
          have hversion := decode_version hdecode
          simp only [Except.mapError]
          cases hid : isInt (Json.get message "id") (session.requestId + 1 : ℕ) with
          | false =>
              obtain ⟨text, haccept⟩ := accept_other hversion hid
              rw [haccept]
              refine .stuck rfl fun other hother => ?_
              rw [hdecode] at hother
              rw [← Except.ok.inj hother]
              exact hid
          | true =>
              obtain ⟨hafter, hanswer⟩ := accept_own hversion hid
              rw [hafter]
              cases hcarried : carried message with
              | none =>
                  rw [hcarried] at hanswer
                  obtain ⟨text, hrefused⟩ := hanswer
                  rw [hrefused]
                  exact .refused rfl hdecode hid hcarried
              | some result =>
                  rw [hcarried] at hanswer
                  rw [hanswer]
                  cases hparsed : t.parseDispatchResult result with
                  | error raised =>
                      simp only [hparsed]
                      exact .unread rfl hdecode hid hcarried hparsed
                  | ok parsed =>
                      simp only [hparsed]
                      exact .forwarded rfl hdecode hid hcarried hparsed

theorem idle_answered (hidle : Idle session) : Idle (answered session) :=
  ⟨hidle.ready, hidle.verified, rfl⟩

theorem acceptInitialize_ok {schemas : Schemas} {after : McpStdioSession}
    (h : session.acceptInitializeResponse schemas message = (.ok (), after)) :
    after = { session with pending := none, state := .initialized } := by
  unfold McpStdioSession.acceptInitializeResponse at h
  rcases response_cases session message "initialize" with
    ⟨_, answer, _, _, _, heq, _⟩ | ⟨⟨raised, heq⟩, _⟩
  swap
  · rw [heq] at h
    cases h
  rw [heq] at h
  cases answer with
  | error raised => cases h
  | ok result =>
      dsimp only at h
      split at h
      · cases h
      split at h
      · cases h
      split at h
      · cases h
      · exact (Prod.mk.inj h).2.symm

theorem acceptToolsList_ok {schemas : Schemas} {manifest : McpToolManifest}
    {after : McpStdioSession}
    (h : session.acceptToolsListResponse schemas message = (.ok manifest, after)) :
    after = { session with pending := none, manifest := some manifest } := by
  unfold McpStdioSession.acceptToolsListResponse at h
  rcases response_cases session message "tools/list" with
    ⟨_, answer, _, _, _, heq, _⟩ | ⟨⟨raised, heq⟩, _⟩
  swap
  · rw [heq] at h
    cases h
  rw [heq] at h
  cases answer with
  | error raised => cases h
  | ok result =>
      dsimp only at h
      split at h
      · cases h
      split at h
      · cases h
      split at h
      · cases h
      · obtain ⟨hmanifest, hafter⟩ := Prod.mk.inj h
        rw [← Except.ok.inj hmanifest]
        exact hafter.symm

theorem handshake_usable {first second : Arrival} {child : McpChildProcess}
    (h : t.handshake first second = (child, true)) : Usable child := by
  have hfalse : ∀ {left right : McpChildProcess}, (left, false) ≠ (right, true) :=
    fun heq => absurd (Prod.mk.inj heq).2 Bool.false_ne_true
  unfold handshake at h
  dsimp only at h
  split at h
  · exact absurd h hfalse
  split at h
  · exact absurd h hfalse
  rename_i initialized hinitialized
  have hstate := acceptInitialize_ok hinitialized
  have hready : (initialized.initializedNotification.2.toolsListRequest).2.state = .ready := by
    rw [hstate]
    rfl
  split at h
  · exact absurd h hfalse
  split at h
  · exact absurd h hfalse
  rename_i manifest verified hverified
  obtain rfl := (Prod.mk.inj h).1
  have hlast := acceptToolsList_ok hverified
  refine ⟨rfl, verified, rfl, ?_, ?_, ?_⟩
  · rw [hlast]
    exact hready
  · rw [hlast]
    rfl
  · rw [hlast]

theorem running_idle {child : McpChildProcess} (husable : Usable child)
    (hrunning : t.Running child fortune session) : Idle session := by
  obtain ⟨hwhole, held, hheld, hidle⟩ := husable
  obtain ⟨hruns, hsession⟩ := hrunning
  have hspawned : ∀ spawning child, t.spawn spawning = (child, true) → Usable child := by
    intro spawning child h
    cases spawning with
    | fails => cases h
    | starts first second => exact handshake_usable h
  have hwith : Usable (t.respawnIfDead child fortune).1 := by
    unfold respawnIfDead at hruns ⊢
    split
    · exact ⟨hwhole, held, hheld, hidle⟩
    · rename_i hdead
      rw [if_neg hdead] at hruns
      exact hspawned fortune.spawning _ (Prod.ext rfl hruns)
  obtain ⟨_, other, hother, hready⟩ := hwith
  rw [hsession] at hother
  rwa [Option.some.inj hother]

theorem dispatched_own {id : ℕ} (hdecode : decodeJsonrpcLine t.loads line = .ok message)
    (hid : isInt (Json.get message "id") id = true) : t.dispatched id line =
      (carried message).bind fun result => (t.parseDispatchResult result).toOption := by
  rw [dispatched, hdecode]
  exact if_pos hid

variable {child : McpChildProcess} {asked : Asked}

theorem ask_outcome (hrunning : t.Running child asked.fortune session) (hidle : Idle session)
    (happroved : t.Approved asked.tool asked.arguments) :
    Outcome t session asked.tool asked.written (t.ask child asked) :=
  runCheck_outcome hrunning hidle happroved asked.written

theorem check_of_carries {result : DispatchResult} (hrunning : t.Running child asked.fortune session)
    (hidle : Idle session) (happroved : t.Approved asked.tool asked.arguments)
    (hcarries : t.Carries session asked result) :
    (t.ask child asked).1 = .ok (forwardedOutcome asked.tool result) := by
  obtain ⟨line, hline, hdispatched⟩ := hcarries
  have houtcome := ask_outcome hrunning hidle happroved
  have hsame : ∀ {line'}, asked.written = .text line' → line' = line := by
    intro line' h
    rw [hline] at h
    exact (Written.text.inj h).symm
  generalize t.ask child asked = answer at houtcome ⊢
  cases houtcome with
  | undecodable h =>
      rw [hline] at h
      cases h
  | stuck h hother =>
      obtain rfl := hsame h
      unfold dispatched at hdispatched
      split at hdispatched
      · cases hdispatched
      · rename_i message hdecode
        rw [hother message hdecode] at hdispatched
        cases hdispatched
  | refused h hdecode hid hnothing =>
      obtain rfl := hsame h
      rw [dispatched_own hdecode hid, hnothing] at hdispatched
      cases hdispatched
  | unread h hdecode hid hcarried hfails =>
      obtain rfl := hsame h
      rw [dispatched_own hdecode hid, hcarried, Option.bind_some, hfails] at hdispatched
      cases hdispatched
  | forwarded h hdecode hid hcarried hparses =>
      obtain rfl := hsame h
      rw [dispatched_own hdecode hid, hcarried, Option.bind_some, hparses] at hdispatched
      rw [Option.some.inj hdispatched]

theorem unharmed_of_usable (husable : Usable child) : t.Unharmed child := by
  rintro asked result ⟨session, hrunning, happroved, hcarries⟩
  exact check_of_carries hrunning (running_idle husable hrunning) happroved hcarries

theorem isolated_iff (hrunning : t.Running child asked.fortune session) (hidle : Idle session)
    (happroved : t.Approved asked.tool asked.arguments) :
    t.Isolated child session asked ↔ t.Isolates (session.requestId + 1) asked.written := by
  have hcheck : ∀ result, t.Carries session asked result →
      (t.ask child asked).1 = .ok (forwardedOutcome asked.tool result) :=
    fun result => check_of_carries hrunning hidle happroved
  have hafter : Usable ⟨some (answered session), false⟩ :=
    ⟨rfl, answered session, rfl, idle_answered hidle⟩
  have houtcome := ask_outcome hrunning hidle happroved
  generalize hask : t.ask child asked = answer at houtcome
  cases houtcome with
  | undecodable h =>
      constructor
      · intro hisolated
        have hnone : ¬ ∃ result, t.Carries session asked result := by
          rintro ⟨result, line, hline, _⟩
          rw [h] at hline
          cases hline
        obtain ⟨note, herror⟩ := hisolated.error hnone
        rw [hask] at herror
        cases herror
      · rintro ⟨line, message, hline, _⟩
        rw [h] at hline
        cases hline
  | stuck h hother =>
      constructor
      · intro hisolated
        have hrestored := hisolated.restored
        rw [hask] at hrestored
        rcases hrestored with hpoisoned | ⟨held, hheld, hfree⟩
        · cases hpoisoned
        · rw [← Option.some.inj hheld] at hfree
          cases hfree
      · rintro ⟨line, message, hline, hdecode, hid, _⟩
        rw [h] at hline
        obtain rfl := Written.text.inj hline
        rw [hother message hdecode] at hid
        cases hid
  | refused h hdecode hid hnothing =>
      refine ⟨fun _ => ⟨_, _, h, hdecode, hid, fun result hcarried => ?_⟩, fun _ => ?_⟩
      · rw [hnothing] at hcarried
        cases hcarried
      · refine ⟨hcheck, fun _ => ⟨_, by rw [hask]⟩, ?_, ?_⟩
        · rw [hask]
          exact Or.inr ⟨answered session, rfl, rfl⟩
        · rw [hask]
          exact unharmed_of_usable hafter
  | unread h hdecode hid hcarried hfails =>
      constructor
      · intro hisolated
        have hnone : ¬ ∃ result, t.Carries session asked result := by
          rintro ⟨result, hcarries⟩
          have hok := hcheck result hcarries
          rw [hask] at hok
          cases hok
        obtain ⟨note, herror⟩ := hisolated.error hnone
        rw [hask] at herror
        cases herror
      · rintro ⟨line, message, hline, hdecode', _, hreads⟩
        rw [h] at hline
        obtain rfl := Written.text.inj hline
        rw [hdecode] at hdecode'
        obtain rfl := Except.ok.inj hdecode'
        obtain ⟨parsed, hparsed⟩ := hreads _ hcarried
        rw [hfails] at hparsed
        cases hparsed
  | @forwarded line message result parsed h hdecode hid hcarried hparses =>
      refine ⟨fun _ => ⟨_, _, h, hdecode, hid, fun result hcarried' => ?_⟩, fun _ => ?_⟩
      · rw [hcarried] at hcarried'
        rw [← Option.some.inj hcarried']
        exact ⟨_, hparses⟩
      · have hcarries : t.Carries session asked parsed := by
          refine ⟨line, h, ?_⟩
          rw [dispatched_own hdecode hid, hcarried, Option.bind_some, hparses]
          rfl
        refine ⟨hcheck, fun hnone => absurd ⟨parsed, hcarries⟩ hnone, ?_, ?_⟩
        · rw [hask]
          exact Or.inr ⟨answered session, rfl, rfl⟩
        · rw [hask]
          exact unharmed_of_usable hafter

theorem usable_of_isolates (hrunning : t.Running child asked.fortune session)
    (hidle : Idle session) (happroved : t.Approved asked.tool asked.arguments)
    (hisolates : t.Isolates (session.requestId + 1) asked.written) :
    Usable (t.ask child asked).2 := by
  obtain ⟨line, message, hline, hdecode, hid, hreads⟩ := hisolates
  have hafter : Usable ⟨some (answered session), false⟩ :=
    ⟨rfl, answered session, rfl, idle_answered hidle⟩
  have hsame : ∀ {line'}, asked.written = .text line' → line' = line := by
    intro line' h
    rw [hline] at h
    exact (Written.text.inj h).symm
  have houtcome := ask_outcome hrunning hidle happroved
  generalize t.ask child asked = answer at houtcome ⊢
  cases houtcome with
  | undecodable h =>
      rw [hline] at h
      cases h
  | stuck h hother =>
      obtain rfl := hsame h
      rw [hother message hdecode] at hid
      cases hid
  | refused => exact hafter
  | unread => exact hafter
  | forwarded => exact hafter

theorem usable_of_refused (hrunning : t.Running child asked.fortune session)
    (hidle : Idle session) (hrefused : ¬ t.Approved asked.tool asked.arguments) :
    Usable (t.ask child asked).2 := by
  have hmanifest : session.manifest.isNone = false := by
    rw [Option.isNone_eq_false_iff]
    exact hidle.verified
  have hrequest : ∃ text, session.toolCallRequest t.strict asked.tool asked.arguments =
      (.error (.protocol text), session) := by
    unfold McpStdioSession.toolCallRequest
    rw [if_neg (not_not.2 hidle.ready), hmanifest, if_neg Bool.false_ne_true]
    cases hparsed : validateArguments t.strict [] (payloadOf asked.tool asked.arguments) with
    | error issues =>
        simp only [validateStrictToolArguments, hparsed, Except.mapError]
        exact ⟨_, rfl⟩
    | ok parsed =>
        have htool : parsed.tool ≠ asked.tool := by
          intro htool
          refine hrefused ⟨parsed, ?_, htool⟩
          rw [validateStrictToolArguments, hparsed]
          rfl
        simp only [validateStrictToolArguments, hparsed, Except.mapError, if_pos htool]
        exact ⟨_, rfl⟩
  obtain ⟨text, hrequest⟩ := hrequest
  obtain ⟨hruns, hsession⟩ := hrunning
  cases hrespawned : t.respawnIfDead child asked.fortune with
  | mk respawned runs =>
      rw [hrespawned] at hruns hsession
      obtain rfl : runs = true := hruns
      replace hsession : respawned.session = some session := hsession
      simp only [ask, runCheck, call, hrespawned, hsession, callSession, hrequest]
      exact ⟨rfl, session, rfl, hidle⟩

/-- A step whose line, if one is written, isolates. -/
def Meets (t : Transport) (child : McpChildProcess) (asked : Asked) : Prop :=
  ∃ session, t.Running child asked.fortune session ∧
    (t.Approved asked.tool asked.arguments → t.Isolates (session.requestId + 1) asked.written)

theorem usable_step (husable : Usable child) (hmeets : t.Meets child asked) :
    Usable (t.ask child asked).2 := by
  obtain ⟨session, hrunning, hisolates⟩ := hmeets
  have hidle := running_idle husable hrunning
  by_cases happroved : t.Approved asked.tool asked.arguments
  · exact usable_of_isolates hrunning hidle happroved (hisolates happroved)
  · exact usable_of_refused hrunning hidle happroved

theorem spawn_usable {spawning : Spawning} (h : t.spawn spawning = (child, true)) :
    Usable child := by
  cases spawning with
  | fails => cases h
  | starts first second => exact handshake_usable h

theorem usable_run {inputs : List Asked} (husable : Usable child)
    (hmeets : Machine.Admits t.ask t.Meets child inputs) :
    Usable (Machine.run t.ask child inputs).2 :=
  Machine.run_invariant (fun _ _ => usable_step) inputs child husable hmeets

end Transport

end Calls

section Claims

/-- Whatever one line is written in answer, the check and the child are as they should be. -/
def Transport.AnswersIsolated (t : Transport) : Prop :=
  ∀ (child : McpChildProcess) (session : McpStdioSession) (asked : Transport.Asked),
    Transport.Idle session → t.Running child asked.fortune session →
      t.Approved asked.tool asked.arguments → t.Isolated child session asked

/-- One answer is isolated exactly when its line carries the id of the request and no result that
is not a dispatch's. In a run of such answers every child reached is usable: its checks are right
and no call with a well-behaved child fails. -/
theorem answers_isolated (t : Transport) :
    (∀ (child : McpChildProcess) (session : McpStdioSession) (asked : Transport.Asked),
      Transport.Idle session → t.Running child asked.fortune session →
        t.Approved asked.tool asked.arguments →
          (t.Isolated child session asked ↔
            t.Isolates (session.requestId + 1) asked.written)) ∧
    ∀ (spawning : Spawning) (child : McpChildProcess) (inputs : List Transport.Asked),
      t.spawn spawning = (child, true) → Machine.Admits t.ask t.Meets child inputs →
        let last := (Machine.run t.ask child inputs).2
        Transport.Usable last ∧ t.Unharmed last ∧
          ∀ session asked, t.Running last asked.fortune session →
            t.Approved asked.tool asked.arguments →
              t.Isolates (session.requestId + 1) asked.written → t.Isolated last session asked := by
  refine ⟨fun child session asked hidle hrunning happroved =>
    Transport.isolated_iff hrunning hidle happroved, ?_⟩
  intro spawning child inputs hspawn hmeets last
  have husable : Transport.Usable last := Transport.usable_run (Transport.spawn_usable hspawn) hmeets
  refine ⟨husable, Transport.unharmed_of_usable husable, ?_⟩
  intro session asked hrunning happroved hisolates
  exact (Transport.isolated_iff hrunning (Transport.running_idle husable hrunning) happroved).2
    hisolates

def labTransport : Transport where
  schemas := ⟨fun _ => [], fun _ => pinnedManifestSha256, Canonical.fraction⟩
  strict := labPydantic
  loads := fun _ => .invalid
  readDispatchResult := fun _ => none

/-- One line that is no JSON leaves its request outstanding on a child that is not poisoned. -/
theorem garbled_line_not_isolated : ¬ ∀ t : Transport, t.AnswersIsolated := by
  intro h
  let session : McpStdioSession :=
    ⟨.ready, 2, none, some ⟨mcpProtocolVersion, mcpServerName, mcpServerVersion, []⟩⟩
  let asked : Transport.Asked :=
    ⟨.getTopology, [("incident_id", .str "INC-1")], ⟨false, .fails⟩, .text "oops"⟩
  have hidle : Transport.Idle session := ⟨rfl, rfl, rfl⟩
  have hrunning : labTransport.Running ⟨some session, false⟩ asked.fortune session := ⟨rfl, rfl⟩
  have happroved : labTransport.Approved asked.tool asked.arguments :=
    ⟨.getTopology ⟨"INC-1"⟩, rfl, rfl⟩
  have hisolated := h labTransport ⟨some session, false⟩ session asked hidle hrunning happroved
  rcases hisolated.restored with hpoisoned | ⟨held, hheld, hfree⟩
  · cases hpoisoned
  · cases hheld
    cases hfree

end Claims

end CausalOps.Investigation.Mcp
