import CausalOps.Investigation.Mcp.Behind
import CausalOps.Investigation.Mcp.Lines

set_option autoImplicit false

/-! Both ends of the connection at work: the client's session against the child's main loop,
with the lines between them. -/

namespace CausalOps.Investigation.Mcp

section Encoding

variable (floats : Canonical.FloatText)

def encodeJsonrpcLine (message : Json.Dict) : Except Raised String :=
  if getString message "jsonrpc" ≠ some "2.0" then
    .error (.protocol "outbound MCP message must use JSON-RPC 2.0")
  else
    let encoded := Canonical.text floats (.obj message)
    if '\n' ∈ encoded ∨ '\r' ∈ encoded then
      .error (.protocol "outbound MCP message must be one line")
    else .ok (String.ofList (encoded ++ ['\n']))

def Inline (chars : List Char) : Prop := ∀ c ∈ chars, c ≠ '\n' ∧ c ≠ '\r'

theorem inline_append {before after : List Char} :
    Inline (before ++ after) ↔ Inline before ∧ Inline after := by
  simp only [Inline, List.mem_append]
  exact ⟨fun h => ⟨fun c hc => h c (.inl hc), fun c hc => h c (.inr hc)⟩,
    fun h c hc => hc.elim (h.1 c) (h.2 c)⟩

theorem inline_cons {c : Char} {rest : List Char} :
    Inline (c :: rest) ↔ (c ≠ '\n' ∧ c ≠ '\r') ∧ Inline rest := by
  simp [Inline]

theorem inline_nil : Inline [] := by simp [Inline]

theorem inline_number {digits : List Char} (h : ∀ c ∈ digits, Canonical.NumberChar c) :
    Inline digits := by
  intro c hc
  refine ⟨?_, ?_⟩ <;> rintro rfl
  · exact absurd (h _ hc) (by decide)
  · exact absurd (h _ hc) (by decide)

theorem inline_unit (u : ℕ) (hu : u < 0x10000) : Inline (Canonical.unit u) := by
  have hdigit : ∀ n, n < 16 → Compact.hexDigit n ≠ '\n' ∧ Compact.hexDigit n ≠ '\r' := by decide
  simp only [Canonical.unit, inline_cons]
  exact ⟨by decide, by decide, hdigit _ (by omega), hdigit _ (by omega), hdigit _ (by omega),
    hdigit _ (by omega), inline_nil⟩

theorem inline_escapedAscii (c : Char) : Inline (Canonical.escapedAscii c) := by
  have hc := c.valid
  simp only [Canonical.escapedAscii]
  split
  · simp [inline_cons, inline_nil]
  split
  · simp [inline_cons, inline_nil]
  split
  · simp [inline_cons, inline_nil]
  split
  · simp [inline_cons, inline_nil]
  split
  · simp [inline_cons, inline_nil]
  split
  · simp [inline_cons, inline_nil]
  split
  · simp [inline_cons, inline_nil]
  split
  · rename_i hfeed hreturn _ _ _ _
    exact inline_cons.2 ⟨⟨hfeed, hreturn⟩, inline_nil⟩
  split
  · rename_i hsmall
    exact inline_unit _ hsmall
  · rename_i hlarge
    have hmax : c.toNat < 0x110000 := by
      rcases hc with h | h
      · exact (lt_trans h (by decide))
      · exact h.2
    exact inline_append.2 ⟨inline_unit _ (by omega), inline_unit _ (by omega)⟩

theorem inline_quoted (s : String) : Inline (Canonical.quotedAscii s) := by
  have hbody : Inline (s.toList.flatMap Canonical.escapedAscii) := by
    intro c hc
    obtain ⟨original, -, hmem⟩ := List.mem_flatMap.1 hc
    exact inline_escapedAscii original c hmem
  simp only [Canonical.quotedAscii, inline_cons, inline_append]
  exact ⟨by decide, hbody, by decide, inline_nil⟩

mutual

theorem inline_text : ∀ value : Json, Inline (Canonical.text floats value)
  | .null => by simp [Canonical.text, inline_cons, inline_nil]
  | .bool true => by simp [Canonical.text, inline_cons, inline_nil]
  | .bool false => by simp [Canonical.text, inline_cons, inline_nil]
  | .int n => inline_number (Canonical.integer_number n)
  | .float q => inline_number (floats.number q)
  | .str s => inline_quoted s
  | .arr [] => by simp [Canonical.text, inline_cons, inline_nil]
  | .arr (item :: rest) => by
      simp only [Canonical.text, inline_cons, inline_append]
      exact ⟨by decide, inline_text item, inline_items rest⟩
  | .obj [] => by simp [Canonical.text, inline_cons, inline_nil]
  | .obj ((key, value) :: rest) => by
      simp only [Canonical.text, inline_cons, inline_append]
      exact ⟨by decide, inline_quoted key, by decide, inline_text value, inline_members rest⟩

theorem inline_items : ∀ values : List Json, Inline (Canonical.text.items floats values)
  | [] => by simp [Canonical.text.items, inline_cons, inline_nil]
  | item :: rest => by
      simp only [Canonical.text.items, inline_cons, inline_append]
      exact ⟨by decide, inline_text item, inline_items rest⟩

theorem inline_members : ∀ entries : List (String × Json),
    Inline (Canonical.text.members floats entries)
  | [] => by simp [Canonical.text.members, inline_cons, inline_nil]
  | (key, value) :: rest => by
      simp only [Canonical.text.members, inline_cons, inline_append]
      exact ⟨by decide, inline_quoted key, by decide, inline_text value, inline_members rest⟩

end

theorem encodeJsonrpcLine_ok {message : Json.Dict} (h : getString message "jsonrpc" = some "2.0") :
    encodeJsonrpcLine floats message =
      .ok (String.ofList (Canonical.text floats (.obj message) ++ ['\n'])) := by
  have hinline := inline_text floats (.obj message)
  simp only [encodeJsonrpcLine, h, ne_eq, not_true_eq_false, if_false]
  rw [if_neg]
  rintro (hfeed | hreturn)
  · exact (hinline _ hfeed).1 rfl
  · exact (hinline _ hreturn).2 rfl

theorem removeSuffix_of_ne {c : Char} {line : List Char} (h : ∀ last ∈ line.getLast?, last ≠ c) :
    removeSuffix c line = line := by
  rw [removeSuffix, if_neg]
  intro hlast
  exact h c hlast rfl

theorem decode_encoded {loads : String → Loads} {message : Json.Dict}
    (hloads : loads (String.ofList (Canonical.text floats (.obj message))) = .value (.obj message))
    (h : getString message "jsonrpc" = some "2.0") :
    decodeJsonrpcLine loads (String.ofList (Canonical.text floats (.obj message) ++ ['\n'])) =
      .ok message := by
  have hinline := inline_text floats (.obj message)
  have hfeed : removeSuffix '\n' (Canonical.text floats (.obj message) ++ ['\n']) =
      Canonical.text floats (.obj message) := by simp [removeSuffix]
  have hreturn : removeSuffix '\r' (Canonical.text floats (.obj message)) =
      Canonical.text floats (.obj message) :=
    removeSuffix_of_ne fun last hlast => (hinline last (List.mem_of_getLast? hlast)).2
  obtain ⟨head, tail, htext, -⟩ := Canonical.text_head floats (.obj message)
  simp only [decodeJsonrpcLine, String.toList_ofList, hfeed, hreturn, hloads, h]
  rw [if_neg]
  · simp
  · rintro (hnone | hfeed | hreturn)
    · rw [htext] at hnone
      cases hnone
    · exact (hinline _ hfeed).1 rfl
    · exact (hinline _ hreturn).2 rfl

end Encoding

section Loop

/-- What the main loop does with one line of its stdin. -/
inductive Reaction where
  | writes (line : String)
  | silent
  /-- An exception ends the process. -/
  | dies

/-- The child's end: its server, and what this and earlier children have executed. -/
structure Serving where
  server : McpObservabilityServer
  executed : List ToolArguments

/-- The body of the loop in `mcp_server_main.main`: a line that is no message and a message that
is refused are passed over. -/
def serveLine (t : Transport) (executor : ToolArguments → Except Raised McpToolCallResult)
    (serving : Serving) (line : String) : Reaction × Serving :=
  match decodeJsonrpcLine t.loads line with
  | .error (.protocol _) => (.silent, serving)
  | .error _ => (.dies, serving)
  | .ok message =>
      let handled := serving.server.handle t.strict executor message
      let serving := ⟨handled.server, serving.executed ++ handled.called.toList⟩
      match handled.response with
      | .error (.protocol _) => (.silent, serving)
      | .error _ => (.dies, serving)
      | .ok none => (.silent, serving)
      | .ok (some response) =>
          match encodeJsonrpcLine t.schemas.floats response with
          | .error _ => (.dies, serving)
          | .ok line => (.writes line, serving)

def Reaction.arrival : Reaction → Arrival
  | .writes line => .line line
  | .silent => .silence
  | .dies => .closed

/-- What arrives at the client after it has sent a message. -/
def exchange (t : Transport) (executor : ToolArguments → Except Raised McpToolCallResult)
    (serving : Serving) (message : Json.Dict) : Arrival × Serving :=
  match encodeJsonrpcLine t.schemas.floats message with
  | .error _ => (.silence, serving)
  | .ok line =>
      let (reaction, serving) := serveLine t executor serving line
      (reaction.arrival, serving)

/-- A request of the session, and what the server makes of it. -/
def asks (t : Transport) (executor : ToolArguments → Except Raised McpToolCallResult)
    (serving : Serving) (request : Except Raised Json.Dict × McpStdioSession) :
    Arrival × Serving :=
  match request.1 with
  | .error _ => (.silence, serving)
  | .ok message => exchange t executor serving message

structure Linked where
  child : McpChildProcess
  serving : Serving

/-- `start`, against a new server, and whether the handshake ended well. -/
def connect (t : Transport) (executor : ToolArguments → Except Raised McpToolCallResult)
    (serving : Serving) : Linked × Bool :=
  let request := McpStdioSession.start.initializeRequest
  let (first, serving) := asks t executor serving request
  let session := match t.readOne first with
    | (.ok message, _) => (request.2.acceptInitializeResponse t.schemas message).2
    | (.error _, _) => request.2
  let notification := session.initializedNotification
  let (_, serving) := asks t executor serving notification
  let (second, serving) := asks t executor serving notification.2.toolsListRequest
  let (child, ended) := t.handshake first second
  (⟨child, serving⟩, ended)

/-- One call of a tool, with the executor of its moment. -/
structure Asking where
  tool : ToolName
  arguments : Json.Dict
  executor : ToolArguments → Except Raised McpToolCallResult

/-- `respawn_if_dead`: a child that a call before has poisoned is started again. -/
def Linked.respawn (t : Transport) (fresh : McpObservabilityServer) (linked : Linked)
    (executor : ToolArguments → Except Raised McpToolCallResult) : Linked × Bool :=
  if !linked.child.poisoned && linked.child.session.isSome then (linked, true)
  else connect t executor { linked.serving with server := fresh }

/-- The rest of `call`. -/
def Linked.send (t : Transport) (linked : Linked) (asking : Asking) :
    Except ChildRaised McpToolCallResult × Linked :=
  match linked.child.session with
  | none => (.error (.raised (.other "AssertionError")), linked)
  | some session =>
      let (arrival, serving) := asks t asking.executor linked.serving
        (session.toolCallRequest t.strict asking.tool asking.arguments)
      let (result, child) := t.callSession session asking.tool asking.arguments arrival
      (result, ⟨child, serving⟩)

def Linked.call (t : Transport) (fresh : McpObservabilityServer) (linked : Linked)
    (asking : Asking) : Except ChildRaised McpToolCallResult × Linked :=
  match linked.respawn t fresh asking.executor with
  | (linked, false) => (.error .unavailable, linked)
  | (linked, true) => linked.send t asking

/-- A child before its `start`. -/
def Linked.unstarted (fresh : McpObservabilityServer) : Linked := ⟨⟨none, true⟩, ⟨fresh, []⟩⟩

def Linked.calls (t : Transport) (fresh : McpObservabilityServer) :
    Linked → List Asking → List (Except ChildRaised McpToolCallResult) × Linked
  | linked, [] => ([], linked)
  | linked, asking :: rest =>
      let (result, linked) := linked.call t fresh asking
      let (results, linked) := linked.calls t fresh rest
      (result :: results, linked)

end Loop

section Answers

variable {t : Transport} {depth : ℕ} {serving : Serving}

/-- A value that Python's own can be: no object has a key twice, and nothing nests deeper than a
limit. -/
def Plain : ℕ → Json → Prop
  | 0, .arr _ | 0, .obj _ => False
  | n + 1, .arr items => ∀ item ∈ items, Plain n item
  | n + 1, .obj entries =>
      (entries.map Prod.fst).Nodup ∧ ∀ entry ∈ entries, Plain n entry.2
  | _, _ => True

@[simp] theorem plain_str (n : ℕ) (text : String) : Plain n (.str text) := by
  cases n <;> trivial

@[simp] theorem plain_int (n : ℕ) (value : ℤ) : Plain n (.int value) := by
  cases n <;> trivial

@[simp] theorem plain_bool (n : ℕ) (value : Bool) : Plain n (.bool value) := by
  cases n <;> trivial

@[simp] theorem plain_null (n : ℕ) : Plain n .null := by
  cases n <;> trivial

/-- What the connection relies on: pydantic keeps the fields of arguments, and `json.loads` reads
back what `json.dumps` has written, for values that nest as deep as a list of the schemas. -/
structure Transport.Faithful (t : Transport) (depth : ℕ) : Prop where
  strict : t.strict.Faithful
  schemas : ∀ tool, Plain depth (.obj (t.schemas.schema tool))
  reads : ∀ value, Plain (depth + 4) value →
    t.loads (String.ofList (Canonical.text t.schemas.floats value)) = .value value

/-- The arguments that a call asks for, or its refusal. -/
def Asking.requested (t : Transport) (asking : Asking) : Except Raised ToolArguments :=
  match validateStrictToolArguments t.strict (payloadOf asking.tool asking.arguments) with
  | .error raised => .error raised
  | .ok parsed =>
      if parsed.tool ≠ asking.tool then
        .error (.protocol "MCP tool argument name does not match request name")
      else .ok parsed

/-- A call without a child: the executor's result, unless it is one of an error. An executor
that refuses leaves the caller to wait, and one that raises ends the child. -/
def Asking.direct (t : Transport) (asking : Asking) : Except ChildRaised McpToolCallResult :=
  match asking.requested t with
  | .error raised => .error (.raised raised)
  | .ok parsed =>
      match asking.executor parsed with
      | .ok answer =>
          if answer.isError then
            .error (.raised (.protocol "MCP tool reported an error result"))
          else .ok answer
      | .error (.protocol _) => .error .timeout
      | .error _ => .error .diedMidCall

structure Ready (linked : Linked) : Prop where
  server : linked.serving.server.state = .ready
  session : ∃ session, linked.child.session = some session ∧ Transport.Idle session
  sound : linked.child.poisoned = false

theorem exchange_message (hfaithful : t.Faithful depth)
    (executor : ToolArguments → Except Raised McpToolCallResult) {message : Json.Dict}
    (hplain : Plain (depth + 4) (.obj message)) (h : getString message "jsonrpc" = some "2.0") :
    exchange t executor serving message =
      let handled := serving.server.handle t.strict executor message
      let serving := ⟨handled.server, serving.executed ++ handled.called.toList⟩
      match handled.response with
      | .error (.protocol _) => (.silence, serving)
      | .error _ => (.closed, serving)
      | .ok none => (.silence, serving)
      | .ok (some response) =>
          match encodeJsonrpcLine t.schemas.floats response with
          | .error _ => (.closed, serving)
          | .ok line => (.line line, serving) := by
  simp only [exchange, encodeJsonrpcLine_ok t.schemas.floats h, serveLine,
    decode_encoded t.schemas.floats (hfaithful.reads _ hplain) h]
  obtain ⟨after, response, called⟩ := serving.server.handle t.strict executor message
  rcases response with (_ | _ | _) | (_ | response)
  · rfl
  · rfl
  · rfl
  · rfl
  · cases hencoded : encodeJsonrpcLine t.schemas.floats response with
    | error raised => simp only [hencoded]; rfl
    | ok line => simp only [hencoded]; rfl

theorem readOne_encoded (hfaithful : t.Faithful depth) {message : Json.Dict} {line : String}
    (hplain : Plain (depth + 4) (.obj message))
    (hencoded : encodeJsonrpcLine t.schemas.floats message = .ok line) :
    t.readOne (.line line) = (.ok message, false) := by
  have h : getString message "jsonrpc" = some "2.0" := by
    by_contra hnot
    rw [encodeJsonrpcLine, if_pos hnot] at hencoded
    cases hencoded
  rw [encodeJsonrpcLine_ok t.schemas.floats h] at hencoded
  cases hencoded
  simp only [Transport.readOne, decode_encoded t.schemas.floats (hfaithful.reads _ hplain) h]
  rfl

section Handshake

variable {executor : ToolArguments → Except Raised McpToolCallResult}

theorem start_manifest {schemas : Schemas} {server : McpObservabilityServer}
    (h : McpObservabilityServer.start schemas = .ok server) :
    pinnedObservabilityManifest schemas = .ok (buildManifest schemas) ∧
      verifyDiscoveredTools schemas ((buildManifest schemas).tools.map
        fun tool => ⟨tool.name.value, tool.inputSchema⟩) = .ok (buildManifest schemas) ∧
      server = ⟨.new, buildManifest schemas⟩ := by
  obtain ⟨pinned, hpinned, h⟩ := bind_ok h
  obtain ⟨manifest, hverified, h⟩ := bind_ok h
  have hsame := (verifyDiscoveredTools_ok.1 hverified).1
  rw [hpinned] at hsame
  cases hsame
  have hbuilt : pinned = buildManifest schemas := by
    simp only [pinnedObservabilityManifest] at hpinned
    split at hpinned
    · cases hpinned
    · exact (Except.ok.inj hpinned).symm
  subst hbuilt
  exact ⟨hpinned, hverified, (Except.ok.inj h).symm⟩

theorem discoveredTools_result (manifest : McpToolManifest) :
    McpStdioSession.discoveredTools (McpObservabilityServer.toolsListResult manifest) =
      some (manifest.tools.map fun tool => ⟨tool.name.value, tool.inputSchema⟩) := by
  simp only [McpStdioSession.discoveredTools, McpObservabilityServer.toolsListResult, Json.get_cons,
    if_true]
  induction manifest.tools with
  | nil => rfl
  | cons tool rest ih =>
      rw [List.map_cons, List.mapM_cons, ih]
      simp [McpToolDiscovery.modelValidate, Json.get_cons]

/-- The session while it waits for the answer to its first request. -/
def opening : McpStdioSession := ⟨.initializing, 1, some (1, "initialize"), none⟩

def openingMessage : Json.Dict :=
  [("jsonrpc", .str "2.0"), ("id", .int 1), ("method", .str "initialize"),
    ("params", .obj
      [("protocolVersion", .str mcpProtocolVersion), ("capabilities", .obj []),
        ("clientInfo", .obj [("name", .str "causalops"), ("version", .str "1")])])]

theorem initializeRequest_start :
    McpStdioSession.start.initializeRequest = (.ok openingMessage, opening) := rfl

/-- A message of the server that answers a request. -/
def answerMessage (id : ℕ) (result : Json.Dict) : Json.Dict :=
  [("jsonrpc", .str "2.0"), ("id", .int id), ("result", .obj result)]

@[simp] theorem answerMessage_version (id : ℕ) (result : Json.Dict) :
    getString (answerMessage id result) "jsonrpc" = some "2.0" := by
  simp [answerMessage, getString, Json.get_cons, Json.string?]

theorem response_answerMessage {session : McpStdioSession} {id : ℕ} {method : String}
    (hpending : session.pending = some (id, method)) (result : Json.Dict) :
    session.response (answerMessage id result) method =
      (.ok result, { session with pending := none }) := by
  have hid : Json.get (answerMessage id result) "id" = some (.int id) := by
    simp [answerMessage, Json.get_cons]
  have hresult : Json.get (answerMessage id result) "result" = some (.obj result) := by
    simp [answerMessage, Json.get_cons]
  have herror : Json.get (answerMessage id result) "error" = none := by
    simp [answerMessage, Json.get]
  simp [McpStdioSession.response, hpending, hid, hresult, herror, isInt, given]

theorem arrives (hfaithful : t.Faithful depth) (serving : Serving)
    (executor : ToolArguments → Except Raised McpToolCallResult) {message : Json.Dict}
    (hplain : Plain (depth + 4) (.obj message)) (h : getString message "jsonrpc" = some "2.0")
    {after : McpObservabilityServer} {id : ℕ} {result : Json.Dict}
    {called : Option ToolArguments} (hresult : Plain (depth + 3) (.obj result))
    (hhandle : serving.server.handle t.strict executor message =
      ⟨after, .ok (some (answerMessage id result)), called⟩) :
    (exchange t executor serving message).2 = ⟨after, serving.executed ++ called.toList⟩ ∧
      t.readOne (exchange t executor serving message).1 = (.ok (answerMessage id result), false) := by
  have hencoded := encodeJsonrpcLine_ok t.schemas.floats (answerMessage_version id result)
  have hanswer : Plain (depth + 4) (.obj (answerMessage id result)) := by
    refine ⟨by simp [answerMessage], fun entry hentry => ?_⟩
    simp only [answerMessage, List.mem_cons, List.not_mem_nil, or_false] at hentry
    rcases hentry with rfl | rfl | rfl
    · exact plain_str _ _
    · exact plain_int _ _
    · exact hresult
  rw [exchange_message hfaithful executor hplain h, hhandle]
  dsimp only
  rw [hencoded]
  exact ⟨rfl, readOne_encoded hfaithful hanswer hencoded⟩

/-- The session that the server's answer to its first request leaves. -/
def initialized : McpStdioSession := ⟨.initialized, 1, none, none⟩

theorem accept_initializeResult {schemas : Schemas} {manifest : McpToolManifest}
    (h : pinnedObservabilityManifest schemas = .ok manifest) :
    opening.acceptInitializeResponse schemas
      (answerMessage 1 (McpObservabilityServer.initializeResult manifest)) =
        (.ok (), initialized) := by
  have hversion : getString (McpObservabilityServer.initializeResult manifest) "protocolVersion" =
      some mcpProtocolVersion := by
    simp [McpObservabilityServer.initializeResult, getString, Json.get_cons, Json.string?]
  have hserver : McpStdioSession.isPinnedServer manifest
      (McpObservabilityServer.initializeResult manifest) = true := by
    simp [McpStdioSession.isPinnedServer, McpObservabilityServer.initializeResult, getString,
      Json.get_cons, Json.string?]
  rw [McpStdioSession.acceptInitializeResponse, response_answerMessage rfl]
  simp only [hversion, h, hserver]
  rfl

def listing : McpStdioSession := ⟨.ready, 2, some (2, "tools/list"), none⟩

def notificationMessage : Json.Dict :=
  [("jsonrpc", .str "2.0"), ("method", .str "notifications/initialized")]

def listMessage : Json.Dict :=
  [("jsonrpc", .str "2.0"), ("id", .int 2), ("method", .str "tools/list"), ("params", .obj [])]

def verified (manifest : McpToolManifest) : McpStdioSession := ⟨.ready, 2, none, some manifest⟩

theorem accept_toolsListResult {schemas : Schemas} {manifest : McpToolManifest}
    (h : verifyDiscoveredTools schemas
      (manifest.tools.map fun tool => ⟨tool.name.value, tool.inputSchema⟩) = .ok manifest) :
    listing.acceptToolsListResponse schemas
      (answerMessage 2 (McpObservabilityServer.toolsListResult manifest)) =
        (.ok manifest, verified manifest) := by
  have hcursor : Json.get (McpObservabilityServer.toolsListResult manifest) "nextCursor" = none := by
    simp [McpObservabilityServer.toolsListResult, Json.get]
  rw [McpStdioSession.acceptToolsListResponse, response_answerMessage rfl]
  simp only [hcursor, given, discoveredTools_result, h]
  rfl

theorem opening_plain (depth : ℕ) : Plain (depth + 4) (.obj openingMessage) := by
  simp [openingMessage, Plain]

theorem notification_plain (depth : ℕ) : Plain (depth + 4) (.obj notificationMessage) := by
  simp [notificationMessage, Plain]

theorem list_plain (depth : ℕ) : Plain (depth + 4) (.obj listMessage) := by
  simp [listMessage, Plain]

theorem initializeResult_plain (depth : ℕ) (manifest : McpToolManifest) :
    Plain (depth + 3) (.obj (McpObservabilityServer.initializeResult manifest)) := by
  simp [McpObservabilityServer.initializeResult, Plain]

theorem toolsListResult_plain {schemas : Schemas}
    (h : ∀ tool, Plain depth (.obj (schemas.schema tool))) :
    Plain (depth + 3) (.obj (McpObservabilityServer.toolsListResult (buildManifest schemas))) := by
  cases depth with
  | zero => exact (h .getTopology).elim
  | succ depth =>
      have hschema : ∀ tool, ((schemas.schema tool).map Prod.fst).Nodup ∧
          ∀ entry ∈ schemas.schema tool, Plain depth entry.2 := h
      simp only [McpObservabilityServer.toolsListResult, buildManifest, Plain, List.map_cons,
        List.map_nil, List.mem_cons, List.not_mem_nil, or_false, forall_eq, List.forall_mem_map]
      refine ⟨by simp, fun tool _ => ⟨by simp, ?_⟩⟩
      rintro entry (rfl | rfl | rfl)
      · exact plain_str _ _
      · exact hschema tool
      · simp [Plain]

theorem connect_ready (hfaithful : t.Faithful depth) {fresh : McpObservabilityServer}
    (h : McpObservabilityServer.start t.schemas = .ok fresh)
    (executor : ToolArguments → Except Raised McpToolCallResult) (serving : Serving) :
    ∃ linked, connect t executor { serving with server := fresh } = (linked, true) ∧
      Ready linked ∧ linked.serving.executed = serving.executed := by
  obtain ⟨hpinned, hverified, rfl⟩ := start_manifest h
  generalize hmanifest : buildManifest t.schemas = manifest at *
  have hinitialize : (⟨.new, manifest⟩ : McpObservabilityServer).handle t.strict executor
      openingMessage = ⟨⟨.initialized, manifest⟩, .ok (some (answerMessage 1
        (McpObservabilityServer.initializeResult manifest))), none⟩ := rfl
  have hnotified : (⟨.initialized, manifest⟩ : McpObservabilityServer).handle t.strict executor
      notificationMessage = ⟨⟨.ready, manifest⟩, .ok none, none⟩ := rfl
  have hlist : (⟨.ready, manifest⟩ : McpObservabilityServer).handle t.strict executor
      listMessage = ⟨⟨.ready, manifest⟩, .ok (some (answerMessage 2
        (McpObservabilityServer.toolsListResult manifest))), none⟩ := rfl
  obtain ⟨hfirst, hopened⟩ := arrives hfaithful ⟨_, serving.executed⟩ executor
    (opening_plain depth) rfl (initializeResult_plain depth manifest) hinitialize
  obtain ⟨hsecond, hlisted⟩ := arrives hfaithful ⟨_, serving.executed⟩ executor
    (list_plain depth) rfl (hmanifest ▸ toolsListResult_plain hfaithful.schemas) hlist
  rw [Option.toList_none, List.append_nil] at hfirst hsecond
  have hnotice : (exchange t executor ⟨⟨.initialized, manifest⟩, serving.executed⟩
      notificationMessage).2 = ⟨⟨.ready, manifest⟩, serving.executed⟩ := by
    rw [exchange_message hfaithful executor (notification_plain depth) rfl, hnotified]
    exact congrArg (Serving.mk _) (List.append_nil _)
  have hnotification : initialized.initializedNotification =
      (.ok notificationMessage, { initialized with state := .ready }) := rfl
  have hrequest : { initialized with state := .ready }.toolsListRequest =
      (.ok listMessage, listing) := rfl
  have hconnect : connect t executor ⟨⟨.new, manifest⟩, serving.executed⟩ =
      (⟨⟨some (verified manifest), false⟩, ⟨⟨.ready, manifest⟩, serving.executed⟩⟩, true) := by
    simp only [connect, asks, Transport.handshake, initializeRequest_start, hopened, hfirst,
      accept_initializeResult hpinned, hnotification, hnotice, hrequest, hsecond, hlisted,
      accept_toolsListResult hverified]
  exact ⟨_, hconnect, ⟨rfl, ⟨_, rfl, rfl, rfl, rfl⟩, rfl⟩, rfl⟩

end Handshake

section Calls

theorem modelValidate_dump (result : McpToolCallResult) :
    McpToolCallResult.modelValidate result.dump = some result := by
  have hcontent : (result.content.map fun text =>
      Json.obj [("type", .str "text"), ("text", .str text)]).mapM readTextContent =
        some result.content := by
    induction result.content with
    | nil => rfl
    | cons text rest ih =>
        rw [List.map_cons, List.mapM_cons, ih]
        simp [readTextContent, getString, Json.get_cons, Json.string?]
  have hget : Json.get result.dump "content" = some (.arr (result.content.map fun text =>
      .obj [("type", .str "text"), ("text", .str text)])) := by
    simp [McpToolCallResult.dump, Json.get_cons]
  have herror : Json.get result.dump "isError" = some (.bool result.isError) := by
    simp [McpToolCallResult.dump, Json.get_cons]
  simp only [McpToolCallResult.modelValidate, hget, herror, Option.getD_some, readBool, hcontent]
  simp [McpToolCallResult.dump]

def callMessage (strict : Pydantic) (id : ℕ) (parsed : ToolArguments) : Json.Dict :=
  [("jsonrpc", .str "2.0"), ("id", .int id), ("method", .str "tools/call"),
    ("params", .obj [("name", .str parsed.tool.value),
      ("arguments", .obj (dumpArguments strict parsed))])]

/-- The server hands its executor the arguments that the session has put into the request. -/
theorem handle_callMessage (hfaithful : t.Faithful depth) {server : McpObservabilityServer}
    (hready : server.state = .ready)
    (executor : ToolArguments → Except Raised McpToolCallResult) (id : ℕ)
    (parsed : ToolArguments) :
    server.handle t.strict executor (callMessage t.strict id parsed) =
      ⟨server, (executor parsed).map fun answer => some (answerMessage id answer.dump),
        some parsed⟩ := by
  have harguments : McpObservabilityServer.callArguments t.strict
      (callMessage t.strict id parsed) = .ok parsed := by
    simp [McpObservabilityServer.callArguments, McpObservabilityServer.params, callMessage,
      getString, Json.get_cons, Json.string?, validate_payload hfaithful.strict]
  have hversion : getString (callMessage t.strict id parsed) "jsonrpc" = some "2.0" := by
    simp [callMessage, getString, Json.get_cons, Json.string?]
  have hmethod : getString (callMessage t.strict id parsed) "method" = some "tools/call" := by
    simp [callMessage, getString, Json.get_cons, Json.string?]
  have hid : Json.get (callMessage t.strict id parsed) "id" = some (.int id) := by
    simp [callMessage, Json.get_cons]
  simp only [McpObservabilityServer.handle, hversion, hmethod, hid, harguments, hready,
    McpObservabilityServer.requestId]
  rfl

/-- The session puts the arguments that it has validated into its request, or raises. -/
theorem toolCallRequest_requested {session : McpStdioSession} (hidle : Transport.Idle session)
    (asking : Asking) :
    session.toolCallRequest t.strict asking.tool asking.arguments =
      match asking.requested t with
      | .error raised => (.error raised, session)
      | .ok parsed =>
          (.ok (callMessage t.strict (session.requestId + 1) parsed), Transport.sent session) := by
  have hmanifest : session.manifest.isNone = false := by
    rw [Option.isNone_eq_false_iff]
    exact hidle.verified
  unfold McpStdioSession.toolCallRequest Asking.requested
  rw [if_neg (not_not.2 hidle.ready), hmanifest, if_neg Bool.false_ne_true]
  cases validateStrictToolArguments t.strict (payloadOf asking.tool asking.arguments) with
  | error raised => rfl
  | ok parsed =>
      dsimp only
      split
      · rfl
      · rename_i htool
        rw [McpStdioSession.request, hidle.free]
        simp [callMessage, not_not.1 htool, Transport.sent]

theorem callMessage_plain (strict : Pydantic) (depth id : ℕ) (parsed : ToolArguments) :
    Plain (depth + 4) (.obj (callMessage strict id parsed)) := by
  have hwindow : ∀ n window, Plain n (dumpWindow strict window) := by
    intro n window
    cases window with
    | none => exact plain_null n
    | some moment => exact plain_str n _
  have harguments : Plain (depth + 2) (.obj (dumpArguments strict parsed)) := by
    cases parsed <;> simp [dumpArguments, Plain, hwindow]
  simpa [callMessage, Plain] using harguments

theorem dump_plain (depth : ℕ) (answer : McpToolCallResult) :
    Plain (depth + 3) (.obj answer.dump) := by
  simp [McpToolCallResult.dump, Plain]

/-- Ready for the next call, or to be started again by it. -/
def Settled (linked : Linked) : Prop := Ready linked ∨ linked.child.poisoned = true

/-- A call on a running child is answered as the call without one, and executes its arguments
once. -/
theorem send_ready (hfaithful : t.Faithful depth) {linked : Linked}
    (hready : Ready linked) (asking : Asking) :
    (linked.send t asking).1 = asking.direct t ∧ Settled (linked.send t asking).2 ∧
      (linked.send t asking).2.serving.executed =
        linked.serving.executed ++ (asking.requested t).toOption.toList := by
  obtain ⟨session, hsession, hidle⟩ := hready.session
  have hrequest := toolCallRequest_requested (t := t) hidle asking
  cases hrequested : asking.requested t with
  | error raised =>
      rw [hrequested] at hrequest
      simp only [Linked.send, hsession, Transport.callSession, hrequest, asks, Asking.direct,
        hrequested]
      exact ⟨trivial, .inl ⟨hready.server, ⟨session, rfl, hidle⟩, rfl⟩, (List.append_nil _).symm⟩
  | ok parsed =>
      rw [hrequested] at hrequest
      have hhandle := handle_callMessage hfaithful hready.server asking.executor
        (session.requestId + 1) parsed
      have hversion : getString (callMessage t.strict (session.requestId + 1) parsed) "jsonrpc" =
          some "2.0" := by simp [callMessage, getString, Json.get_cons, Json.string?]
      have hplain := callMessage_plain t.strict depth (session.requestId + 1) parsed
      simp only [Linked.send, hsession, Transport.callSession, hrequest, asks, Asking.direct,
        hrequested]
      cases hanswer : asking.executor parsed with
      | error raised =>
          rw [hanswer] at hhandle
          rw [exchange_message hfaithful asking.executor hplain hversion, hhandle]
          cases raised with
          | protocol message => exact ⟨rfl, .inr rfl, rfl⟩
          | manifest => exact ⟨rfl, .inr rfl, rfl⟩
          | other name => exact ⟨rfl, .inr rfl, rfl⟩
      | ok answer =>
          rw [hanswer] at hhandle
          obtain ⟨hserving, harrived⟩ := arrives hfaithful linked.serving
            asking.executor hplain hversion (dump_plain depth answer) hhandle
          have haccept : (Transport.sent session).acceptToolCallResponse
              (answerMessage (session.requestId + 1) answer.dump) =
                (if answer.isError then .error (.protocol "MCP tool reported an error result")
                  else .ok answer, Transport.answered session) := by
            rw [McpStdioSession.acceptToolCallResponse, response_answerMessage rfl]
            simp only [modelValidate_dump]
            split <;> rfl
          rw [hserving, harrived]
          simp only [haccept]
          refine ⟨?_, .inl ⟨hready.server, ⟨_, rfl, hidle.ready, hidle.verified, rfl⟩, rfl⟩, rfl⟩
          split <;> rfl

theorem call_settled (hfaithful : t.Faithful depth)
    {fresh : McpObservabilityServer} (h : McpObservabilityServer.start t.schemas = .ok fresh)
    {linked : Linked} (hsettled : Settled linked) (asking : Asking) :
    (linked.call t fresh asking).1 = asking.direct t ∧ Settled (linked.call t fresh asking).2 ∧
      (linked.call t fresh asking).2.serving.executed =
        linked.serving.executed ++ (asking.requested t).toOption.toList := by
  rcases hsettled with hready | hpoisoned
  · obtain ⟨session, hsession, -⟩ := hready.session
    have hrespawn : linked.respawn t fresh asking.executor = (linked, true) := by
      simp [Linked.respawn, hready.sound, hsession]
    rw [Linked.call, hrespawn]
    exact send_ready hfaithful hready asking
  · obtain ⟨started, hconnect, hready, hexecuted⟩ :=
      connect_ready hfaithful h asking.executor linked.serving
    have hrespawn : linked.respawn t fresh asking.executor = (started, true) := by
      simp [Linked.respawn, hpoisoned, hconnect]
    rw [Linked.call, hrespawn, ← hexecuted]
    exact send_ready hfaithful hready asking

theorem calls_settled (hfaithful : t.Faithful depth)
    {fresh : McpObservabilityServer} (h : McpObservabilityServer.start t.schemas = .ok fresh)
    (askings : List Asking) {linked : Linked} (hsettled : Settled linked) :
    (linked.calls t fresh askings).1 = askings.map (Asking.direct t) ∧
      (linked.calls t fresh askings).2.serving.executed =
        linked.serving.executed ++ askings.filterMap fun asking => (asking.requested t).toOption := by
  induction askings generalizing linked with
  | nil => exact ⟨rfl, (List.append_nil _).symm⟩
  | cons asking rest ih =>
      obtain ⟨hanswer, hafter, hexecuted⟩ := call_settled hfaithful h hsettled asking
      obtain ⟨hanswers, hall⟩ := ih hafter
      refine ⟨?_, ?_⟩
      · simp only [Linked.calls, List.map_cons, hanswer, hanswers]
      · simp only [Linked.calls, hall, hexecuted, List.append_assoc]
        cases hrequested : (asking.requested t).toOption with
        | none => simp [hrequested]
        | some parsed => simp [hrequested]

/-- Every run of calls through a child, with all that it loses, is answered as the calls without
one would be, and children execute exactly the arguments of the calls that are approved, once each
and in order. -/
theorem duplex_direct (t : Transport) (depth : ℕ) (hfaithful : t.Faithful depth)
    (fresh : McpObservabilityServer) (h : McpObservabilityServer.start t.schemas = .ok fresh)
    (askings : List Asking) :
    ((Linked.unstarted fresh).calls t fresh askings).1 = askings.map (Asking.direct t) ∧
      ((Linked.unstarted fresh).calls t fresh askings).2.serving.executed =
        askings.filterMap fun asking => (asking.requested t).toOption := by
  have hunstarted : Settled (Linked.unstarted fresh) := .inr rfl
  exact calls_settled hfaithful h askings hunstarted

theorem start_pinned {schemas : Schemas} {manifest : McpToolManifest}
    (h : pinnedObservabilityManifest schemas = .ok manifest) :
    McpObservabilityServer.start schemas = .ok ⟨.new, manifest⟩ := by
  have hdiscovers : Discovers manifest
      (manifest.tools.map fun tool => ⟨tool.name.value, tool.inputSchema⟩) := by
    refine ⟨?_, ?_, fun definition hdefinition => ?_⟩
    · rw [List.map_map]
      exact tools_distinct h
    · intro tool htool
      obtain ⟨definition, hdefinition, rfl⟩ := List.mem_map.1 htool
      exact ⟨definition, hdefinition, rfl, rfl⟩
    · exact ⟨_, List.mem_map_of_mem hdefinition, rfl, rfl⟩
  simp only [McpObservabilityServer.start, h, verifyDiscoveredTools_ok.2 ⟨h, hdiscovers⟩, bind,
    Except.bind, pure, Except.pure]

open Classical in
/-- `json.loads` on the texts of `json.dumps`. -/
noncomputable def readBack (floats : Canonical.FloatText) (text : String) : Loads :=
  if h : ∃ value, String.ofList (Canonical.text floats value) = text then .value h.choose
  else .invalid

theorem readBack_text (floats : Canonical.FloatText) (value : Json) :
    readBack floats (String.ofList (Canonical.text floats value)) = .value value := by
  have h : ∃ other, String.ofList (Canonical.text floats other) =
      String.ofList (Canonical.text floats value) := ⟨value, rfl⟩
  rw [readBack, dif_pos h]
  exact congrArg Loads.value (Canonical.text_injective (String.ofList_injective h.choose_spec))

def textSchema (title : String) (description : Json.Dict) : Json :=
  .obj (description ++ [("title", .str title), ("type", .str "string")])

def windowSchema (title description : String) : Json :=
  .obj [("anyOf", .arr [.obj [("format", .str "date-time"), ("type", .str "string")],
      .obj [("type", .str "null")]]),
    ("default", .null), ("description", .str description), ("title", .str title)]

def windowSchemas : Json.Dict :=
  [("window_start", windowSchema "Window Start"
      "Defaults to the start of the incident window when omitted."),
    ("window_end", windowSchema "Window End" ("Defaults to the end of the incident window when " ++
      "omitted. A window outside the incident is narrowed to fit it."))]

def enumSchema (title : String) (values : List String) : String × Json :=
  ("$defs", .obj [(title, .obj [("enum", .arr (values.map .str)), ("title", .str title),
    ("type", .str "string")])])

/-- `model_json_schema` of a class of arguments. -/
def argumentsSchema (title : String) (tool : ToolName) (definitions properties : Json.Dict)
    (required : List String) : Json.Dict :=
  definitions ++
    [("additionalProperties", .bool false),
      ("properties", .obj (("tool", .obj [("const", .str tool.value), ("default", .str tool.value),
        ("title", .str "Tool"), ("type", .str "string")]) :: properties)),
      ("required", .arr (required.map .str)), ("title", .str title), ("type", .str "object")]

/-- The schemas of which `PINNED_MANIFEST_SHA256` is the digest. -/
def labSchema : ToolName → Json.Dict
  | .queryMetric =>
      argumentsSchema "QueryMetricArguments" .queryMetric
        [enumSchema "MetricTemplate" ["gateway_error_rate", "gateway_latency_p95",
          "downstream_timeout_share", "resource_pool_attempts_per_capacity"]]
        ([("template", .obj [("$ref", .str "#/$defs/MetricTemplate")]),
          ("service", textSchema "Service" [("description", .str
            ("Which service emitted this metric. resource_pool_attempts_per_capacity " ++
              "is recorded only by orders. gateway_error_rate/downstream_timeout_share " ++
              "are recorded only by gateway/orders -- inventory's requests never fail " ++
              "or time out. gateway_latency_p95 is recorded by every service."))])] ++
          windowSchemas)
        ["template", "service"]
  | .queryLogs =>
      argumentsSchema "QueryLogsArguments" .queryLogs
        [enumSchema "LogFilter" ["errors_only", "timeouts_only", "pool_exhaustion",
          "config_reload"]]
        ([("log_filter", .obj [("$ref", .str "#/$defs/LogFilter")]),
          ("service", textSchema "Service" [("description", .str
            ("Which service to read logs from. orders logs all four categories " ++
              "(errors_only/timeouts_only/pool_exhaustion/config_reload). gateway logs " ++
              "errors_only/timeouts_only only, never pool_exhaustion or config_reload. " ++
              "inventory logs none of the four categories."))]),
          ("row_limit", .obj [("description", .str
            ("How many matching log rows to return. Policy allows at most 40; a " ++
              "larger request is denied and costs a turn without returning any rows.")),
            ("maximum", .int 200), ("minimum", .int 1), ("title", .str "Row Limit"),
            ("type", .str "integer")])] ++
          windowSchemas)
        ["log_filter", "service", "row_limit"]
  | .listRecentChanges =>
      argumentsSchema "ListRecentChangesArguments" .listRecentChanges []
        (("service", textSchema "Service" []) :: windowSchemas) ["service"]
  | .getTopology =>
      argumentsSchema "GetTopologyArguments" .getTopology []
        [("incident_id", textSchema "Incident Id" [])] ["incident_id"]
  | .searchRunbooks => []

def labDraft : Schemas := ⟨labSchema, id, Canonical.fraction⟩

/-- The text that the pin was taken of. -/
def labManifest : String := String.ofList ((buildManifest labDraft).canonicalJson labDraft)

def labSha256 (text : String) : String :=
  if text = labManifest then pinnedManifestSha256 else ""

theorem labSha256_manifest : labSha256 labManifest = pinnedManifestSha256 := by
  rw [labSha256, if_pos rfl]

theorem pinned_of_sha256 {schemas : Schemas} (h : schemas.sha256 (String.ofList
      ((buildManifest schemas).canonicalJson schemas)) = pinnedManifestSha256) :
    pinnedObservabilityManifest schemas = .ok (buildManifest schemas) := by
  simp only [pinnedObservabilityManifest, h, ne_eq, not_true_eq_false, if_false]

def labSchemas : Schemas := ⟨labSchema, labSha256, Canonical.fraction⟩

noncomputable def labLink : Transport where
  schemas := labSchemas
  strict := labPydantic
  loads := readBack Canonical.fraction
  readDispatchResult := fun _ => none

theorem manifestText_congr (schemas others : Schemas) (hschema : schemas.schema = others.schema)
    (hfloats : schemas.floats = others.floats) :
    (buildManifest schemas).canonicalJson schemas = (buildManifest others).canonicalJson others := by
  simp only [McpToolManifest.canonicalJson, canonicalJson, buildManifest, hschema, hfloats]

theorem labLink_pinned : labLink.schemas.sha256 (String.ofList
    ((buildManifest labLink.schemas).canonicalJson labLink.schemas)) = pinnedManifestSha256 := by
  have hschemas : labLink.schemas = labSchemas := rfl
  rw [hschemas, manifestText_congr labSchemas labDraft rfl rfl, ← labManifest]
  dsimp only [labSchemas]
  exact labSha256_manifest

theorem labLink_faithful : labLink.Faithful 5 where
  strict := labPydantic_faithful
  schemas := by
    intro tool
    cases tool <;>
      simp [labLink, labSchemas, labSchema, argumentsSchema, enumSchema, windowSchemas, windowSchema,
        textSchema, Plain]
  reads := fun value _ => readBack_text Canonical.fraction value

def labAsking (executor : ToolArguments → Except Raised McpToolCallResult) : Asking :=
  ⟨.getTopology, [("incident_id", .str "INC-1")], executor⟩

/-- An executor that raises, then one that answers from a new child, and a call that is not
approved. -/
theorem duplex_direct_lab :
    let fresh : McpObservabilityServer := ⟨.new, buildManifest labLink.schemas⟩
    let askings := [labAsking fun _ => .error (.other "OSError"),
      labAsking fun _ => .ok ⟨["quiet"], false⟩, ⟨.getTopology, [], fun _ => .error .manifest⟩]
    ((Linked.unstarted fresh).calls labLink fresh askings).1 =
        askings.map (Asking.direct labLink) ∧
      ((Linked.unstarted fresh).calls labLink fresh askings).2.serving.executed =
        [.getTopology ⟨"INC-1"⟩, .getTopology ⟨"INC-1"⟩] := by
  intro fresh askings
  have hstart : McpObservabilityServer.start labLink.schemas = .ok fresh :=
    start_pinned (pinned_of_sha256 labLink_pinned)
  exact duplex_direct labLink 5 labLink_faithful fresh hstart askings

end Calls

end Answers

end CausalOps.Investigation.Mcp
