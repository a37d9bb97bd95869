import CausalOps.Investigation.Mcp.Safety

set_option autoImplicit false

/-! The session of the registry's child is `McpStdioSession` as the calls of tools use it. -/

namespace CausalOps.Investigation.Mcp

section Sessions

variable {strict : Pydantic} {schemas : Schemas} {session : McpStdioSession}

def McpStdioSession.calls (session : McpStdioSession) : Session where
  ready := session.state = .ready && session.manifest.isSome
  requestId := session.requestId
  pending := session.pending.map Prod.fst

def Request.message (request : Request) : Json.Dict :=
  [("jsonrpc", .str "2.0"), ("id", .int request.id), ("method", .str "tools/call"),
    ("params", .obj [("name", .str request.name), ("arguments", .obj request.arguments)])]

def readResult (message : Json.Dict) : Option (CallResult String) :=
  if given (Json.get message "error") then none
  else
    (resultOf message).bind fun result =>
      (McpToolCallResult.modelValidate result).map fun parsed => ⟨parsed.content, parsed.isError⟩

/-- A response is an object of JSON-RPC 2.0 with the id of some request. -/
def readResponse (message : Json.Dict) : Option (Response String) :=
  if getString message "jsonrpc" ≠ some "2.0" then none
  else
    match Json.get message "id" with
    | some (.int (.ofNat id)) => some ⟨id, readResult message⟩
    | _ => none

/-- A call of a tool is sent by the one as by the other, and refused alike. -/
theorem toolCallRequest_calls (session : McpStdioSession) (name : ToolName)
    (arguments : Json.Dict) :
    (∀ next request, session.calls.toolCallRequest strict name arguments = some (next, request) →
      ∃ after, session.toolCallRequest strict name arguments = (.ok request.message, after) ∧
        after.calls = next ∧ after.pending = some (request.id, "tools/call")) ∧
      (session.calls.toolCallRequest strict name arguments = none →
        ∃ raised, session.toolCallRequest strict name arguments = (.error raised, session)) := by
  obtain ⟨state, requestId, pending, manifest⟩ := session
  simp only [Session.toolCallRequest, McpStdioSession.toolCallRequest, McpStdioSession.calls,
    validateStrictToolArguments]
  by_cases hstate : state = .ready
  · cases manifest with
    | none => simp [hstate]
    | some manifest =>
        cases hparsed : validateArguments strict [] (payloadOf name arguments) with
        | error issues => simp [hstate, Except.mapError]
        | ok parsed =>
            by_cases hname : parsed.tool = name
            · cases pending with
              | none =>
                  simp [hstate, hname, Except.mapError, McpStdioSession.request, Request.message]
              | some pending => simp [hstate, hname, Except.mapError, McpStdioSession.request]
            · simp [hstate, hname, Except.mapError]
  · simp [hstate]

theorem isInt_iff {value : Option Json} {n : ℤ} :
    isInt value n = true ↔ value = some (.int n) := by
  unfold isInt
  split
  · simp
  · rename_i hother
    simp only [Bool.false_eq_true, false_iff]
    exact fun heq => hother n heq

theorem answer_of_readResponse {message : Json.Dict} {response : Response String}
    (h : readResponse message = some response) :
    getString message "jsonrpc" = some "2.0" ∧
      Json.get message "id" = some (.int response.id) := by
  rw [readResponse] at h
  split at h
  · cases h
  · rename_i hversion
    split at h
    · rename_i id hid
      rw [← Option.some.inj h]
      exact ⟨not_not.1 hversion, hid⟩
    · cases h

/-- The answer to the outstanding call. -/
theorem acceptToolCallResponse_answer {message : Json.Dict} {id : ℕ}
    (hcurrent : session.pending = some (id, "tools/call"))
    (hversion : getString message "jsonrpc" = some "2.0")
    (hid : Json.get message "id" = some (.int id)) :
    (session.acceptToolCallResponse message).2.calls =
        (session.calls.acceptToolCallResponse ⟨id, readResult message⟩).1 ∧
      ∀ content, (∃ result, (session.acceptToolCallResponse message).1 = .ok result ∧
          result.content = content) ↔
        (session.calls.acceptToolCallResponse ⟨id, readResult message⟩).2 = some content := by
  have hmatches : isInt (Json.get message "id") id = true := isInt_iff.2 hid
  simp only [McpStdioSession.acceptToolCallResponse, McpStdioSession.response, hcurrent,
    hversion, hmatches, Session.acceptToolCallResponse, McpStdioSession.calls, readResult,
    resultOf]
  cases hresult : Json.get message "result" with
  | none => simp
  | some value =>
      cases value with
      | obj result =>
          by_cases herror : given (Json.get message "error") = true
          · simp [herror]
          · cases hparsed : McpToolCallResult.modelValidate result with
            | none => simp [herror, hparsed]
            | some parsed => cases hfailed : parsed.isError <;> simp [herror, hparsed, hfailed]
      | null | bool value | int value | float value | str value | arr items => simp

/-- Any other message is refused and changes nothing. -/
theorem acceptToolCallResponse_other {message : Json.Dict} {id : ℕ}
    (hcurrent : session.pending = some (id, "tools/call"))
    (hother : ¬ (getString message "jsonrpc" = some "2.0" ∧
      Json.get message "id" = some (.int id))) :
    ∃ raised, session.acceptToolCallResponse message = (.error raised, session) := by
  rw [← isInt_iff] at hother
  by_cases hversion : getString message "jsonrpc" = some "2.0"
  · have hmatches : isInt (Json.get message "id") id = false :=
      Bool.not_eq_true _ ▸ fun hid => hother ⟨hversion, hid⟩
    simp [McpStdioSession.acceptToolCallResponse, McpStdioSession.response, hcurrent, hversion,
      hmatches]
  · simp [McpStdioSession.acceptToolCallResponse, McpStdioSession.response, hcurrent, hversion]

/-- A response to a call of a tool is accepted by the one as by the other. -/
theorem acceptToolCallResponse_calls (message : Json.Dict)
    (hpending : ∀ id method, session.pending = some (id, method) → method = "tools/call") :
    (∀ response, readResponse message = some response →
      (session.acceptToolCallResponse message).2.calls =
          (session.calls.acceptToolCallResponse response).1 ∧
        ∀ content, (∃ result, (session.acceptToolCallResponse message).1 = .ok result ∧
            result.content = content) ↔
          (session.calls.acceptToolCallResponse response).2 = some content) ∧
      (readResponse message = none →
        ∃ raised, session.acceptToolCallResponse message = (.error raised, session)) := by
  cases hcurrent : session.pending with
  | none =>
      simp [McpStdioSession.acceptToolCallResponse, McpStdioSession.response, hcurrent,
        McpStdioSession.calls, Session.acceptToolCallResponse]
  | some current =>
      obtain ⟨id, method⟩ := current
      obtain rfl := hpending id method hcurrent
      by_cases hanswer : getString message "jsonrpc" = some "2.0" ∧
          Json.get message "id" = some (.int id)
      · have hread : readResponse message = some ⟨id, readResult message⟩ := by
          rw [readResponse, if_neg (not_not.2 hanswer.1), hanswer.2]
        refine ⟨fun response hresponse => ?_, fun hnone => by rw [hread] at hnone; cases hnone⟩
        obtain rfl := Option.some.inj (hread.symm.trans hresponse)
        exact acceptToolCallResponse_answer hcurrent hanswer.1 hanswer.2
      · obtain ⟨raised, hraised⟩ := acceptToolCallResponse_other hcurrent hanswer
        refine ⟨fun response hresponse => ?_, fun _ => ⟨raised, hraised⟩⟩
        have hother : session.calls.pending ≠ some response.id := by
          simp only [McpStdioSession.calls, hcurrent, Option.map_some, ne_eq, Option.some.injEq]
          rintro rfl
          exact hanswer (answer_of_readResponse hresponse)
        rw [hraised, Session.acceptToolCallResponse, if_pos hother]
        exact ⟨rfl, fun content => by simp⟩

theorem response_ok {message result : Json.Dict} {method : String} {after : McpStdioSession}
    (h : session.response message method = (.ok result, after)) :
    after = { session with pending := none } := by
  rcases response_cases session message method with
    ⟨id, answer, -, -, -, hresponse, -⟩ | ⟨⟨raised, hraised⟩, -⟩
  · exact (Prod.mk.inj (h.symm.trans hresponse)).2
  · cases (Prod.mk.inj (h.symm.trans hraised)).1

theorem acceptInitializeResponse_ok {message : Json.Dict} {after : McpStdioSession}
    (h : session.acceptInitializeResponse schemas message = (.ok (), after)) :
    after = { session with pending := none, state := .initialized } := by
  rw [McpStdioSession.acceptInitializeResponse] at h
  split at h
  · cases h
  · rename_i result accepted hresponse
    obtain rfl := response_ok hresponse
    split at h
    · cases h
    · split at h
      · cases h
      · split at h
        · cases h
        · exact (Prod.mk.inj h).2.symm

theorem acceptToolsListResponse_ok {message : Json.Dict} {manifest : McpToolManifest}
    {after : McpStdioSession}
    (h : session.acceptToolsListResponse schemas message = (.ok manifest, after)) :
    after = { session with pending := none, manifest := some manifest } := by
  rw [McpStdioSession.acceptToolsListResponse] at h
  split at h
  · cases h
  · rename_i result accepted hresponse
    obtain rfl := response_ok hresponse
    split at h
    · cases h
    · split at h
      · cases h
      · split at h
        · cases h
        · rename_i verified _
          obtain ⟨hmanifest, hafter⟩ := Prod.mk.inj h
          rw [← hafter, Except.ok.inj hmanifest]

/-- A handshake whose every message is accepted ends in the verified session. -/
theorem handshake_calls {initialized listed : Json.Dict} {manifest : McpToolManifest}
    {opened ready verified : McpStdioSession} {notification : Json.Dict}
    (hinitialized : McpStdioSession.start.initializeRequest.2.acceptInitializeResponse schemas
      initialized = (.ok (), opened))
    (hready : opened.initializedNotification = (.ok notification, ready))
    (hlisted : ready.toolsListRequest.2.acceptToolsListResponse schemas listed =
      (.ok manifest, verified)) :
    verified.calls = Session.verified := by
  obtain rfl := acceptInitializeResponse_ok hinitialized
  obtain ⟨-, rfl⟩ := Prod.mk.inj hready
  obtain rfl := acceptToolsListResponse_ok hlisted
  rfl

end Sessions

end CausalOps.Investigation.Mcp
