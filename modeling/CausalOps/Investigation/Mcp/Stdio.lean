import CausalOps.Investigation.Mcp
import CausalOps.Investigation.Mcp.Manifest

set_option autoImplicit false

/-! The two ends of a local stdio connection: `McpStdioSession`, the client's state machine, and
`McpObservabilityServer`. Messages are JSON objects; lines are read elsewhere. -/

namespace CausalOps.Investigation.Mcp

section Messages

inductive McpSessionState where
  | new
  | initializing
  | initialized
  | ready
  deriving DecidableEq, Repr

inductive Raised where
  /-- `McpProtocolError`. -/
  | protocol (message : String)
  /-- `McpManifestError`. -/
  | manifest
  /-- Whatever an executor raises. -/
  | other (name : String)
  deriving DecidableEq, Repr

structure McpToolCallResult where
  content : List String
  isError : Bool

/-- `entries.get(key)` of a string. -/
def getString (entries : Json.Dict) (key : String) : Option String :=
  (Json.get entries key).bind Json.string?

/-- An `int`, and neither a `bool` nor a `float`. -/
def isInt (value : Option Json) (n : ℤ) : Bool :=
  match value with
  | some (.int k) => k = n
  | _ => false

/-- A value that is there and is not `None`. -/
def given (value : Option Json) : Bool :=
  match value with
  | none | some .null => false
  | some _ => true

/-- `bool`, as pydantic reads it from a value that need not be one. -/
def readBool : Json → Option Bool
  | .bool value => some value
  | .int n => if n = 0 then some false else if n = 1 then some true else none
  | .float q => if q = 0 then some false else if q = 1 then some true else none
  | .str text =>
      if text.toLower ∈ ["0", "off", "f", "false", "n", "no"] then some false
      else if text.toLower ∈ ["1", "on", "t", "true", "y", "yes"] then some true
      else none
  | _ => none

/-- `McpTextContent.model_validate`: no other fields. -/
def readTextContent : Json → Option String
  | .obj entries =>
      match getString entries "type", getString entries "text" with
      | some "text", some text =>
          if entries.all fun entry => entry.1 ∈ ["type", "text"] then some text else none
      | _, _ => none
  | _ => none

def McpToolCallResult.modelValidate (entries : Json.Dict) : Option McpToolCallResult :=
  match Json.get entries "content", readBool ((Json.get entries "isError").getD (.bool false)) with
  | some (.arr items), some isError =>
      if entries.all fun entry => entry.1 ∈ ["content", "isError"] then
        (items.mapM readTextContent).map fun content => ⟨content, isError⟩
      else none
  | _, _ => none

/-- `model_dump(mode="json", by_alias=True)`. -/
def McpToolCallResult.dump (result : McpToolCallResult) : Json.Dict :=
  [("content", .arr (result.content.map fun text =>
      .obj [("type", .str "text"), ("text", .str text)])),
    ("isError", .bool result.isError)]

def resultOf (message : Json.Dict) : Option Json.Dict :=
  match Json.get message "result" with
  | some (.obj result) => some result
  | _ => none

end Messages

def validateStrictToolArguments (strict : Pydantic) (payload : Json.Dict) :
    Except Raised ToolArguments :=
  (validateArguments strict [] payload).mapError fun _ =>
    .protocol "MCP tool arguments do not match the approved schema"

section Session

structure McpStdioSession where
  state : McpSessionState
  requestId : ℕ
  pending : Option (ℕ × String)
  manifest : Option McpToolManifest

def McpStdioSession.start : McpStdioSession := ⟨.new, 0, none, none⟩

namespace McpStdioSession

def request (session : McpStdioSession) (method : String) (params : Json.Dict) :
    Except Raised Json.Dict × McpStdioSession :=
  match session.pending with
  | some _ => (.error (.protocol "MCP session already has an outstanding request"), session)
  | none =>
      let id := session.requestId + 1
      (.ok [("jsonrpc", .str "2.0"), ("id", .int id), ("method", .str method),
        ("params", .obj params)],
        { session with requestId := id, pending := some (id, method) })

def initializeRequest (session : McpStdioSession) : Except Raised Json.Dict × McpStdioSession :=
  if session.state ≠ .new then
    (.error (.protocol "MCP initialization may occur only once"), session)
  else
    { session with state := .initializing }.request "initialize"
      [("protocolVersion", .str mcpProtocolVersion), ("capabilities", .obj []),
        ("clientInfo", .obj [("name", .str "causalops"), ("version", .str "1")])]

/-- `_response`: a response that is not to the outstanding request changes nothing, and one that
is clears it, whatever it says. -/
def response (session : McpStdioSession) (message : Json.Dict) (method : String) :
    Except Raised Json.Dict × McpStdioSession :=
  match session.pending with
  | none => (.error (.protocol ("unexpected MCP response for '" ++ method ++ "'")), session)
  | some (id, pendingMethod) =>
      if pendingMethod ≠ method then
        (.error (.protocol ("unexpected MCP response for '" ++ method ++ "'")), session)
      else if getString message "jsonrpc" ≠ some "2.0" then
        (.error (.protocol "MCP response must use JSON-RPC 2.0"), session)
      else if !isInt (Json.get message "id") id then
        (.error (.protocol "MCP response id does not match its request"), session)
      else
        let session := { session with pending := none }
        let refused := Raised.protocol ("MCP " ++ method ++ " request did not return an object result")
        match Json.get message "result" with
        | some (.obj result) =>
            if given (Json.get message "error") then (.error refused, session)
            else (.ok result, session)
        | _ => (.error refused, session)

variable (schemas : Schemas) (strict : Pydantic)

/-- `serverInfo` names the pinned server. -/
def isPinnedServer (manifest : McpToolManifest) (result : Json.Dict) : Bool :=
  match Json.get result "serverInfo" with
  | some (.obj info) =>
      getString info "name" = some manifest.serverName &&
        getString info "version" = some manifest.serverVersion
  | _ => false

def acceptInitializeResponse (session : McpStdioSession) (message : Json.Dict) :
    Except Raised Unit × McpStdioSession :=
  match session.response message "initialize" with
  | (.error raised, session) => (.error raised, session)
  | (.ok result, session) =>
      if getString result "protocolVersion" ≠ some mcpProtocolVersion then
        (.error (.protocol "MCP server negotiated an unpinned protocol version"), session)
      else
        match pinnedObservabilityManifest schemas with
        | .error _ => (.error .manifest, session)
        | .ok manifest =>
            if !isPinnedServer manifest result then
              (.error (.protocol "MCP server identity does not match the pinned manifest"), session)
            else (.ok (), { session with state := .initialized })

def initializedNotification (session : McpStdioSession) :
    Except Raised Json.Dict × McpStdioSession :=
  if session.state ≠ .initialized then
    (.error (.protocol "MCP initialized notification is out of order"), session)
  else
    (.ok [("jsonrpc", .str "2.0"), ("method", .str "notifications/initialized")],
      { session with state := .ready })

def toolsListRequest (session : McpStdioSession) : Except Raised Json.Dict × McpStdioSession :=
  if session.state ≠ .ready then
    (.error (.protocol "MCP tools/list requires an initialized session"), session)
  else session.request "tools/list" []

/-- The tools of a `tools/list` result. -/
def discoveredTools (result : Json.Dict) : Option (List McpToolDiscovery) :=
  match Json.get result "tools" with
  | some (.arr tools) => tools.mapM McpToolDiscovery.modelValidate
  | _ => none

def acceptToolsListResponse (session : McpStdioSession) (message : Json.Dict) :
    Except Raised McpToolManifest × McpStdioSession :=
  match session.response message "tools/list" with
  | (.error raised, session) => (.error raised, session)
  | (.ok result, session) =>
      if given (Json.get result "nextCursor") then
        (.error (.protocol "MCP tools/list pagination is not permitted for a pinned manifest"),
          session)
      else
        match discoveredTools result with
        | none => (.error (.protocol "MCP tools/list result is invalid"), session)
        | some tools =>
            match verifyDiscoveredTools schemas tools with
            | .error _ => (.error (.protocol "MCP discovery failed the capability pin"), session)
            | .ok manifest => (.ok manifest, { session with manifest := some manifest })

def toolCallRequest (session : McpStdioSession) (name : ToolName) (arguments : Json.Dict) :
    Except Raised Json.Dict × McpStdioSession :=
  if session.state ≠ .ready then
    (.error (.protocol "MCP tools/call requires an initialized session"), session)
  else if session.manifest.isNone then
    (.error (.protocol "MCP tools/call requires verified discovery"), session)
  else
    match validateStrictToolArguments strict (payloadOf name arguments) with
    | .error raised => (.error raised, session)
    | .ok parsed =>
        if parsed.tool ≠ name then
          (.error (.protocol "MCP tool argument name does not match request name"), session)
        else
          session.request "tools/call"
            [("name", .str name.value), ("arguments", .obj (dumpArguments strict parsed))]

def acceptToolCallResponse (session : McpStdioSession) (message : Json.Dict) :
    Except Raised McpToolCallResult × McpStdioSession :=
  match session.response message "tools/call" with
  | (.error raised, session) => (.error raised, session)
  | (.ok result, session) =>
      match McpToolCallResult.modelValidate result with
      | none => (.error (.protocol "MCP tools/call result is invalid"), session)
      | some parsed =>
          if parsed.isError then (.error (.protocol "MCP tool reported an error result"), session)
          else (.ok parsed, session)

end McpStdioSession

end Session

section Server

structure McpObservabilityServer where
  state : McpSessionState
  manifest : McpToolManifest

/-- What handling a message leaves, answers, and asked of the executor. -/
structure Handled where
  server : McpObservabilityServer
  response : Except Raised (Option Json.Dict)
  called : Option ToolArguments

namespace McpObservabilityServer

/-- `__init__`, when the schemas match their pin. -/
def start (schemas : Schemas) : Except McpManifestError McpObservabilityServer := do
  let pinned ← pinnedObservabilityManifest schemas
  let manifest ← verifyDiscoveredTools schemas
    (pinned.tools.map fun tool => ⟨tool.name.value, tool.inputSchema⟩)
  return ⟨.new, manifest⟩

/-- `_response`. -/
def respond (id : Json) (result : Json.Dict) : Option Json.Dict :=
  some [("jsonrpc", .str "2.0"), ("id", id), ("result", .obj result)]

def requestId (message : Json.Dict) : Option Json :=
  match Json.get message "id" with
  | some (.str text) => some (.str text)
  | some (.int n) => some (.int n)
  | some (.float q) => some (.float q)
  | _ => none

def params (message : Json.Dict) : Option Json.Dict :=
  match (Json.get message "params").getD (.obj []) with
  | .obj entries => some entries
  | _ => none

def refuse (server : McpObservabilityServer) (message : String) : Handled :=
  ⟨server, .error (.protocol message), none⟩

def initializeResult (manifest : McpToolManifest) : Json.Dict :=
  [("protocolVersion", .str mcpProtocolVersion),
    ("capabilities", .obj [("tools", .obj [("listChanged", .bool false)])]),
    ("serverInfo", .obj
      [("name", .str manifest.serverName), ("version", .str manifest.serverVersion)])]

def toolsListResult (manifest : McpToolManifest) : Json.Dict :=
  [("tools", .arr (manifest.tools.map fun tool => .obj
    [("name", .str tool.name.value), ("inputSchema", .obj tool.inputSchema),
      ("annotations", .obj
        [("readOnlyHint", .bool true), ("destructiveHint", .bool false),
          ("idempotentHint", .bool true), ("openWorldHint", .bool false)])]))]

/-- The arguments of a `tools/call` that are handed to the executor, or the refusal. -/
def callArguments (strict : Pydantic) (message : Json.Dict) : Except String ToolArguments :=
  match params message with
  | none => .error "MCP request params must be an object"
  | some entries =>
      match getString entries "name", Json.get entries "arguments" with
      | some name, some (.obj raw) =>
          match readToolName name with
          | none => .error "MCP tools/call arguments are not approved"
          | some tool =>
              match validateArguments strict [] (payloadOf tool raw) with
              | .error _ => .error "MCP tool arguments do not match the approved schema"
              | .ok arguments =>
                  if arguments.tool ≠ tool then
                    .error "MCP tools/call name and arguments disagree"
                  else .ok arguments
      | _, _ => .error "MCP tools/call requires name and object arguments"

def handle (strict : Pydantic) (server : McpObservabilityServer)
    (executor : ToolArguments → Except Raised McpToolCallResult) (message : Json.Dict) : Handled :=
  if getString message "jsonrpc" ≠ some "2.0" then
    server.refuse "MCP request must use JSON-RPC 2.0"
  else
    match getString message "method" with
    | none => server.refuse "MCP request must name a method"
    | some method =>
        if method = "notifications/initialized" then
          if (Json.get message "id").isSome || server.state ≠ .initialized then
            server.refuse "MCP initialized notification is out of order"
          else ⟨{ server with state := .ready }, .ok none, none⟩
        else if (Json.get message "id").isNone then server.refuse "unsupported MCP notification"
        else
          match requestId message with
          | none => server.refuse "MCP request id must be a string or number"
          | some id =>
              if method = "initialize" then
                if server.state ≠ .new then server.refuse "MCP initialization may occur only once"
                else
                  match params message with
                  | none => server.refuse "MCP request params must be an object"
                  | some entries =>
                      if getString entries "protocolVersion" ≠ some mcpProtocolVersion then
                        server.refuse "MCP client requested an unpinned protocol version"
                      else
                        ⟨{ server with state := .initialized },
                          .ok (respond id (initializeResult server.manifest)), none⟩
              else if server.state ≠ .ready then
                server.refuse "MCP request requires an initialized session"
              else if method = "tools/list" then
                ⟨server, .ok (respond id (toolsListResult server.manifest)), none⟩
              else if method ≠ "tools/call" then server.refuse "unsupported MCP request method"
              else
                match callArguments strict message with
                | .error text => server.refuse text
                | .ok arguments =>
                    ⟨server, (executor arguments).map fun result => respond id result.dump,
                      some arguments⟩

end McpObservabilityServer

end Server

end CausalOps.Investigation.Mcp
