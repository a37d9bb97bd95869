import CausalOps.Investigation.Mcp.Stdio

set_option autoImplicit false

/-! What a session and a server do whatever the peer sends: histories of calls and messages of
any length. -/

namespace CausalOps.Investigation.Mcp

section Histories

/-- A call of the client, with the message that it hands over. -/
inductive ClientCall where
  | initializeRequest
  | acceptInitializeResponse (message : Json.Dict)
  | initializedNotification
  | toolsListRequest
  | acceptToolsListResponse (message : Json.Dict)
  | toolCallRequest (name : ToolName) (arguments : Json.Dict)
  | acceptToolCallResponse (message : Json.Dict)

inductive Returned where
  | emitted (message : Json.Dict)
  | initialized
  | verified (manifest : McpToolManifest)
  | result (result : McpToolCallResult)

abbrev ClientEvent := ClientCall × Except Raised Returned

variable (schemas : Schemas) (strict : Pydantic)

def McpStdioSession.step (session : McpStdioSession) :
    ClientCall → Except Raised Returned × McpStdioSession
  | .initializeRequest =>
      let (answer, session) := session.initializeRequest
      (answer.map .emitted, session)
  | .acceptInitializeResponse message =>
      let (answer, session) := session.acceptInitializeResponse schemas message
      (answer.map fun _ => .initialized, session)
  | .initializedNotification =>
      let (answer, session) := session.initializedNotification
      (answer.map .emitted, session)
  | .toolsListRequest =>
      let (answer, session) := session.toolsListRequest
      (answer.map .emitted, session)
  | .acceptToolsListResponse message =>
      let (answer, session) := session.acceptToolsListResponse schemas message
      (answer.map .verified, session)
  | .toolCallRequest name arguments =>
      let (answer, session) := session.toolCallRequest strict name arguments
      (answer.map .emitted, session)
  | .acceptToolCallResponse message =>
      let (answer, session) := session.acceptToolCallResponse message
      (answer.map .result, session)

/-- A session together with all that has happened to it. -/
abbrev Recorded := List ClientEvent × McpStdioSession

def Recorded.next (recorded : Recorded) (call : ClientCall) : Recorded :=
  let (answer, session) := recorded.2.step schemas strict call
  (recorded.1 ++ [(call, answer)], session)

def recordedRun (calls : List ClientCall) : Recorded :=
  calls.foldl (Recorded.next schemas strict) ([], McpStdioSession.start)

end Histories

section Safety

/-- The id and the method of a request that a call has emitted. -/
def requestOf : Except Raised Returned → Option (ℤ × String)
  | .ok (.emitted message) =>
      match Json.get message "id", getString message "method" with
      | some (.int id), some method => some (id, method)
      | _, _ => none
  | _ => none

/-- The message of a call that accepts responses, and the method they answer. -/
def ClientCall.accepts : ClientCall → Option (Json.Dict × String)
  | .acceptInitializeResponse message => some (message, "initialize")
  | .acceptToolsListResponse message => some (message, "tools/list")
  | .acceptToolCallResponse message => some (message, "tools/call")
  | _ => none

/-- The message of a call is a response to a request. -/
def ClientCall.answers (call : ClientCall) (request : ℤ × String) : Bool :=
  match call.accepts with
  | some (message, method) =>
      method = request.2 && getString message "jsonrpc" = some "2.0" &&
        isInt (Json.get message "id") request.1
  | none => false

/-- The requests without a response, after one more event. -/
def outstandingAfter (outstanding : List (ℤ × String)) (event : ClientEvent) :
    List (ℤ × String) :=
  (outstanding.filter fun request => !event.1.answers request) ++ (requestOf event.2).toList

def outstanding (history : List ClientEvent) : List (ℤ × String) :=
  history.foldl outstandingAfter []

def emittedIds (history : List ClientEvent) : List ℤ :=
  history.filterMap fun event => (requestOf event.2).map Prod.fst

/-- A peer that speaks the pinned version and is the pinned server. -/
def ShowsIdentity (schemas : Schemas) (message : Json.Dict) : Prop :=
  ∃ result manifest, resultOf message = some result ∧
    pinnedObservabilityManifest schemas = .ok manifest ∧
    getString result "protocolVersion" = some mcpProtocolVersion ∧
    McpStdioSession.isPinnedServer manifest result = true

/-- A whole discovery, of the tools of the pinned manifest. -/
def ShowsTools (schemas : Schemas) (message : Json.Dict) : Prop :=
  ∃ result tools manifest, resultOf message = some result ∧
    pinnedObservabilityManifest schemas = .ok manifest ∧
    given (Json.get result "nextCursor") = false ∧
    McpStdioSession.discoveredTools result = some tools ∧ Discovers manifest tools

variable (schemas : Schemas) (strict : Pydantic)

/-- The response to `initialize` has been accepted, from the pinned server. -/
def Initialised (history : List ClientEvent) : Prop :=
  ∃ before message after, ShowsIdentity schemas message ∧
    history = before ++ (.acceptInitializeResponse message, .ok .initialized) :: after

def Notified (history : List ClientEvent) : Prop :=
  ∃ before message after, Initialised schemas before ∧
    history = before ++ (.initializedNotification, .ok (.emitted message)) :: after

def Discovered (history : List ClientEvent) : Prop :=
  ∃ before message manifest after, Notified schemas before ∧ ShowsTools schemas message ∧
    history = before ++ (.acceptToolsListResponse message, .ok (.verified manifest)) :: after

structure Recorded.Inv (recorded : Recorded) : Prop where
  outstanding : outstanding recorded.1 =
    (recorded.2.pending.map fun request => ((request.1 : ℤ), request.2)).toList
  ids : ∀ id ∈ emittedIds recorded.1, id ≤ recorded.2.requestId
  asked : ∀ id, recorded.2.pending = some (id, "tools/list") → Notified schemas recorded.1
  initialised : recorded.2.state = .initialized → Initialised schemas recorded.1
  notified : recorded.2.state = .ready → Notified schemas recorded.1
  discovered : recorded.2.manifest.isSome → Discovered schemas recorded.1

structure SafeNext (history : List ClientEvent) (event : ClientEvent) : Prop where
  gated : ∀ id, requestOf event.2 = some (id, "tools/call") → Discovered schemas history
  alone : (requestOf event.2).isSome → outstanding history = []
  increasing : ∀ request, requestOf event.2 = some request →
    ∀ id ∈ emittedIds history, id < request.1
  matched : event.1.accepts.isSome → (∃ returned, event.2 = .ok returned) →
    ∃ request, outstanding history = [request] ∧ event.1.answers request = true

end Safety

section Steps

inductive McpStdioSession.Step (schemas : Schemas) (session : McpStdioSession) :
    ClientCall → Except Raised Returned → McpStdioSession → Prop
  | refused {call : ClientCall} {raised : Raised} {after : McpStdioSession}
      (unanswered : ∀ id method, session.pending = some (id, method) →
        call.answers ((id : ℤ), method) = false)
      (state : after.state = session.state ∨ after.state = .initializing)
      (rest : after = { session with state := after.state }) :
      Step schemas session call (.error raised) after
  | requested {call : ClientCall} {message : Json.Dict} {method : String}
      {state : McpSessionState}
      (emits : requestOf (.ok (.emitted message)) = some (((session.requestId + 1 : ℕ) : ℤ), method))
      (plain : call.accepts = none)
      (free : session.pending = none)
      (listing : method = "tools/list" → session.state = .ready)
      (calling : method = "tools/call" → session.state = .ready ∧ session.manifest.isSome)
      (same : state = session.state ∨ state = .initializing) :
      Step schemas session call (.ok (.emitted message))
        { session with
          state := state, requestId := session.requestId + 1,
          pending := some (session.requestId + 1, method) }
  | notified {message : Json.Dict} (emits : requestOf (.ok (.emitted message)) = none)
      (initialised : session.state = .initialized) :
      Step schemas session .initializedNotification (.ok (.emitted message))
        { session with state := .ready }
  | answered {call : ClientCall} {answer : Except Raised Returned} {id : ℕ} {method : String}
      (answers : call.answers ((id : ℤ), method) = true)
      (pending : session.pending = some (id, method))
      (nothing : requestOf answer = none) :
      Step schemas session call answer { session with pending := none }
  | identified {message : Json.Dict} {id : ℕ}
      (answers : (ClientCall.acceptInitializeResponse message).answers
        ((id : ℤ), "initialize") = true)
      (pending : session.pending = some (id, "initialize"))
      (shows : ShowsIdentity schemas message) :
      Step schemas session (.acceptInitializeResponse message) (.ok .initialized)
        { session with pending := none, state := .initialized }
  | discovered {message : Json.Dict} {id : ℕ} {manifest : McpToolManifest}
      (answers : (ClientCall.acceptToolsListResponse message).answers
        ((id : ℤ), "tools/list") = true)
      (pending : session.pending = some (id, "tools/list"))
      (shows : ShowsTools schemas message) :
      Step schemas session (.acceptToolsListResponse message) (.ok (.verified manifest))
        { session with pending := none, manifest := some manifest }

variable {schemas : Schemas} {strict : Pydantic} {session : McpStdioSession}

/-- A response is either to the outstanding request, which it clears, or refused. -/
theorem response_cases (session : McpStdioSession) (message : Json.Dict) (method : String) :
    (∃ id answer, session.pending = some (id, method) ∧
        getString message "jsonrpc" = some "2.0" ∧ isInt (Json.get message "id") id = true ∧
        session.response message method = (answer, { session with pending := none }) ∧
        ∀ result, answer = .ok result → resultOf message = some result) ∨
      ((∃ raised, session.response message method = (.error raised, session)) ∧
        ∀ id, session.pending = some (id, method) →
          ¬ (getString message "jsonrpc" = some "2.0" ∧ isInt (Json.get message "id") id = true)) := by
  obtain ⟨state, requestId, pending, manifest⟩ := session
  cases pending with
  | none => exact Or.inr ⟨⟨_, rfl⟩, fun id hpending => by cases hpending⟩
  | some request =>
      obtain ⟨id, pendingMethod⟩ := request
      simp only [McpStdioSession.response]
      by_cases hmethod : pendingMethod = method
      swap
      · rw [if_pos hmethod]
        refine Or.inr ⟨⟨_, rfl⟩, fun other hpending => ?_⟩
        exact absurd (Prod.mk.inj (Option.some.inj hpending)).2 hmethod
      rw [if_neg (not_not.2 hmethod)]
      by_cases hversion : getString message "jsonrpc" = some "2.0"
      swap
      · rw [if_pos hversion]
        exact Or.inr ⟨⟨_, rfl⟩, fun _ _ hboth => hversion hboth.1⟩
      rw [if_neg (not_not.2 hversion)]
      cases hid : isInt (Json.get message "id") id with
      | false =>
          refine Or.inr ⟨⟨_, rfl⟩, fun other hpending hboth => ?_⟩
          obtain rfl := (Prod.mk.inj (Option.some.inj hpending)).1
          rw [hid] at hboth
          cases hboth.2
      | true =>
          simp only [Bool.not_true, Bool.false_eq_true, if_false]
          split
          · rename_i result hresult
            split
            · exact Or.inl ⟨id, _, by rw [hmethod], hversion, hid, rfl, fun _ h => by cases h⟩
            · exact Or.inl ⟨id, _, by rw [hmethod], hversion, hid, rfl, fun _ h => by
                rw [resultOf, hresult, Except.ok.inj h]⟩
          · exact Or.inl ⟨id, _, by rw [hmethod], hversion, hid, rfl, fun _ h => by cases h⟩

theorem request_cases (session : McpStdioSession) (method : String) (params : Json.Dict) :
    (∃ raised, session.request method params = (.error raised, session)) ∨
      ∃ message, session.pending = none ∧
        requestOf (.ok (.emitted message)) = some (((session.requestId + 1 : ℕ) : ℤ), method) ∧
        session.request method params = (.ok message,
          { session with
            requestId := session.requestId + 1, pending := some (session.requestId + 1, method) }) := by
  cases hpending : session.pending with
  | some request =>
      refine Or.inl ⟨.protocol "MCP session already has an outstanding request", ?_⟩
      rw [McpStdioSession.request, hpending]
  | none =>
      refine Or.inr ⟨[("jsonrpc", .str "2.0"), ("id", .int (session.requestId + 1 : ℕ)),
        ("method", .str method), ("params", .obj params)], rfl, ?_, ?_⟩
      · simp [requestOf, getString, Json.get_cons, Json.string?]
      · rw [McpStdioSession.request, hpending]

theorem answers_of_isInt (call : ClientCall) {message : Json.Dict} {method : String} {id : ℕ}
    (haccepts : call.accepts = some (message, method)) :
    call.answers ((id : ℤ), method) = true ↔
      getString message "jsonrpc" = some "2.0" ∧ isInt (Json.get message "id") id = true := by
  simp only [ClientCall.answers, haccepts, decide_true, Bool.true_and, Bool.and_eq_true,
    decide_eq_true_eq]

theorem unanswered {call : ClientCall} {message : Json.Dict} {method : String}
    (haccepts : call.accepts = some (message, method))
    (h : ∀ id, session.pending = some (id, method) →
      ¬ (getString message "jsonrpc" = some "2.0" ∧ isInt (Json.get message "id") id = true)) :
    ∀ id other, session.pending = some (id, other) → call.answers ((id : ℤ), other) = false := by
  intro id other hpending
  by_cases hmethod : other = method
  · subst hmethod
    rw [Bool.eq_false_iff]
    exact fun hanswers => h id hpending ((answers_of_isInt call haccepts).1 hanswers)
  · have hne : ¬ method = other := fun heq => hmethod heq.symm
    simp [ClientCall.answers, haccepts, hne]

theorem unanswered_of_plain {call : ClientCall} (h : call.accepts = none) :
    ∀ id method, session.pending = some (id, method) → call.answers ((id : ℤ), method) = false := by
  intro id method _
  simp [ClientCall.answers, h]

theorem step_cases (strict : Pydantic) (session : McpStdioSession) (call : ClientCall) :
    session.Step schemas call (session.step schemas strict call).1
      (session.step schemas strict call).2 := by
  cases call with
  | initializeRequest =>
      simp only [McpStdioSession.step, McpStdioSession.initializeRequest]
      split
      · exact .refused (unanswered_of_plain rfl) (Or.inl rfl) rfl
      · rcases request_cases { session with state := .initializing } "initialize"
          [("protocolVersion", .str mcpProtocolVersion), ("capabilities", .obj []),
            ("clientInfo", .obj [("name", .str "causalops"), ("version", .str "1")])] with
          ⟨raised, heq⟩ | ⟨message, hfree, hemits, heq⟩
        · rw [heq]
          exact .refused (unanswered_of_plain rfl) (Or.inr rfl) rfl
        · rw [heq]
          exact .requested hemits rfl hfree (fun h => absurd h (by decide)) (fun h => absurd h (by decide)) (Or.inr rfl)
  | acceptInitializeResponse message =>
      simp only [McpStdioSession.step, McpStdioSession.acceptInitializeResponse]
      rcases response_cases session message "initialize" with
        ⟨id, answer, hpending, hversion, hid, heq, hresult⟩ | ⟨⟨raised, heq⟩, hrefused⟩
      swap
      · rw [heq]
        exact .refused (unanswered rfl hrefused) (Or.inl rfl) rfl
      rw [heq]
      have hanswers := (answers_of_isInt (.acceptInitializeResponse message) rfl).2
        ⟨hversion, hid⟩
      cases answer with
      | error raised => exact .answered hanswers hpending rfl
      | ok result =>
          dsimp only
          split
          · exact .answered hanswers hpending rfl
          rename_i hpinnedVersion
          split
          · exact .answered hanswers hpending rfl
          rename_i manifest hmanifest
          split
          · exact .answered hanswers hpending rfl
          · rename_i hserver
            exact .identified hanswers hpending ⟨result, manifest, hresult result rfl, hmanifest,
              not_not.1 hpinnedVersion, by simpa using hserver⟩
  | initializedNotification =>
      simp only [McpStdioSession.step, McpStdioSession.initializedNotification]
      split
      · exact .refused (unanswered_of_plain rfl) (Or.inl rfl) rfl
      · rename_i hstate
        exact .notified rfl (not_not.1 hstate)
  | toolsListRequest =>
      simp only [McpStdioSession.step, McpStdioSession.toolsListRequest]
      split
      · exact .refused (unanswered_of_plain rfl) (Or.inl rfl) rfl
      rename_i hstate
      rcases request_cases session "tools/list" [] with
        ⟨raised, heq⟩ | ⟨message, hfree, hemits, heq⟩
      · rw [heq]
        exact .refused (unanswered_of_plain rfl) (Or.inl rfl) rfl
      · rw [heq]
        exact .requested hemits rfl hfree (fun _ => not_not.1 hstate) (fun h => absurd h (by decide))
          (Or.inl rfl)
  | acceptToolsListResponse message =>
      simp only [McpStdioSession.step, McpStdioSession.acceptToolsListResponse]
      rcases response_cases session message "tools/list" with
        ⟨id, answer, hpending, hversion, hid, heq, hresult⟩ | ⟨⟨raised, heq⟩, hrefused⟩
      swap
      · rw [heq]
        exact .refused (unanswered rfl hrefused) (Or.inl rfl) rfl
      rw [heq]
      have hanswers := (answers_of_isInt (.acceptToolsListResponse message) rfl).2
        ⟨hversion, hid⟩
      cases answer with
      | error raised => exact .answered hanswers hpending rfl
      | ok result =>
          dsimp only
          split
          · exact .answered hanswers hpending rfl
          rename_i hcursor
          split
          · exact .answered hanswers hpending rfl
          rename_i tools htools
          split
          · exact .answered hanswers hpending rfl
          · rename_i manifest hmanifest
            obtain ⟨hpinned, hdiscovers⟩ := verifyDiscoveredTools_ok.1 hmanifest
            exact .discovered hanswers hpending ⟨result, tools, manifest, hresult result rfl,
              hpinned, by simpa using hcursor, htools, hdiscovers⟩
  | toolCallRequest name arguments =>
      simp only [McpStdioSession.step, McpStdioSession.toolCallRequest]
      split
      · exact .refused (unanswered_of_plain rfl) (Or.inl rfl) rfl
      rename_i hstate
      split
      · exact .refused (unanswered_of_plain rfl) (Or.inl rfl) rfl
      rename_i hmanifest
      split
      · exact .refused (unanswered_of_plain rfl) (Or.inl rfl) rfl
      rename_i parsed _
      split
      · exact .refused (unanswered_of_plain rfl) (Or.inl rfl) rfl
      rcases request_cases session "tools/call"
        [("name", .str name.value), ("arguments", .obj (dumpArguments strict parsed))] with
        ⟨raised, heq⟩ | ⟨message, hfree, hemits, heq⟩
      · rw [heq]
        exact .refused (unanswered_of_plain rfl) (Or.inl rfl) rfl
      · rw [heq]
        have hsome : session.manifest.isSome := by
          cases hgiven : session.manifest with
          | none => exact absurd (by rw [hgiven]; rfl) hmanifest
          | some manifest => rfl
        exact .requested hemits rfl hfree (fun h => absurd h (by decide))
          (fun _ => ⟨not_not.1 hstate, hsome⟩) (Or.inl rfl)
  | acceptToolCallResponse message =>
      simp only [McpStdioSession.step, McpStdioSession.acceptToolCallResponse]
      rcases response_cases session message "tools/call" with
        ⟨id, answer, hpending, hversion, hid, heq, -⟩ | ⟨⟨raised, heq⟩, hrefused⟩
      swap
      · rw [heq]
        exact .refused (unanswered rfl hrefused) (Or.inl rfl) rfl
      rw [heq]
      have hanswers := (answers_of_isInt (.acceptToolCallResponse message) rfl).2
        ⟨hversion, hid⟩
      cases answer with
      | error raised => exact .answered hanswers hpending rfl
      | ok result =>
          dsimp only
          split
          · exact .answered hanswers hpending rfl
          split
          · exact .answered hanswers hpending rfl
          · exact .answered hanswers hpending rfl

end Steps

section Runs

variable {schemas : Schemas} {strict : Pydantic} {history : List ClientEvent}
  {session after : McpStdioSession} {call : ClientCall} {answer : Except Raised Returned}

theorem Initialised.snoc (h : Initialised schemas history) (event : ClientEvent) :
    Initialised schemas (history ++ [event]) := by
  obtain ⟨before, message, later, hshows, rfl⟩ := h
  exact ⟨before, message, later ++ [event], hshows, by simp⟩

theorem Notified.snoc (h : Notified schemas history) (event : ClientEvent) :
    Notified schemas (history ++ [event]) := by
  obtain ⟨before, message, later, hinitialised, rfl⟩ := h
  exact ⟨before, message, later ++ [event], hinitialised, by simp⟩

theorem Discovered.snoc (h : Discovered schemas history) (event : ClientEvent) :
    Discovered schemas (history ++ [event]) := by
  obtain ⟨before, message, manifest, later, hnotified, hshows, rfl⟩ := h
  exact ⟨before, message, manifest, later ++ [event], hnotified, hshows, by simp⟩

theorem outstanding_snoc (history : List ClientEvent) (event : ClientEvent) :
    outstanding (history ++ [event]) = outstandingAfter (outstanding history) event := by
  rw [outstanding, List.foldl_append]
  rfl

theorem emittedIds_snoc (history : List ClientEvent) (event : ClientEvent) :
    emittedIds (history ++ [event]) =
      emittedIds history ++ ((requestOf event.2).map Prod.fst).toList := by
  rw [emittedIds, List.filterMap_append]
  cases hrequest : requestOf event.2 <;> simp [emittedIds, hrequest]

theorem inv_start : Recorded.Inv schemas ([], McpStdioSession.start) where
  outstanding := rfl
  ids := fun _ hid => by cases hid
  asked := fun _ h => by cases h
  initialised := fun h => by cases h
  notified := fun h => by cases h
  discovered := fun h => by cases h

/-- What a session has recorded is kept by an event that emits nothing and does not move it. -/
theorem inv_quiet (hinv : Recorded.Inv schemas (history, session)) {state : McpSessionState}
    {pending : Option (ℕ × String)} {manifest : Option McpToolManifest}
    (hnothing : requestOf answer = none)
    (houtstanding : (outstanding history).filter (fun request => !call.answers request) =
      (pending.map fun request => ((request.1 : ℤ), request.2)).toList)
    (hpending : ∀ request, pending = some request → session.pending = some request)
    (hinitialised : state = .initialized → Initialised schemas (history ++ [(call, answer)]))
    (hnotified : state = .ready → Notified schemas (history ++ [(call, answer)]))
    (hdiscovered : manifest.isSome → Discovered schemas (history ++ [(call, answer)])) :
    Recorded.Inv schemas
      (history ++ [(call, answer)], ⟨state, session.requestId, pending, manifest⟩) where
  outstanding := by
    rw [outstanding_snoc, outstandingAfter, hnothing, houtstanding]
    exact List.append_nil _
  ids := by
    rw [emittedIds_snoc, hnothing]
    simpa using hinv.ids
  asked := fun id hasked => (hinv.asked id (hpending _ hasked)).snoc _
  initialised := hinitialised
  notified := hnotified
  discovered := hdiscovered

theorem inv_step (hinv : Recorded.Inv schemas (history, session))
    (hstep : session.Step schemas call answer after) :
    Recorded.Inv schemas (history ++ [(call, answer)], after) := by
  have hinitialised : session.state = .initialized →
      Initialised schemas (history ++ [(call, answer)]) := fun h => (hinv.initialised h).snoc _
  have hnotified : session.state = .ready → Notified schemas (history ++ [(call, answer)]) :=
    fun h => (hinv.notified h).snoc _
  have hdiscovered : session.manifest.isSome →
      Discovered schemas (history ++ [(call, answer)]) := fun h => (hinv.discovered h).snoc _
  have hone : ∀ (id : ℕ) (method : String), call.answers ((id : ℤ), method) = true →
      session.pending = some (id, method) →
        (outstanding history).filter (fun request => !call.answers request) = [] := by
    intro id method hanswers hpending
    rw [hinv.outstanding, hpending]
    simp [hanswers]
  cases hstep with
  | refused hunanswered hstate hrest =>
      rw [hrest]
      refine inv_quiet hinv rfl ?_ (fun _ h => h) ?_ ?_ hdiscovered
      · rw [hinv.outstanding]
        cases hpending : session.pending with
        | none => rfl
        | some request => simp [hunanswered request.1 request.2 hpending]
      · intro h
        exact hinitialised (hstate.elim (fun hsame => hsame ▸ h) fun hopen => by
          rw [hopen] at h
          cases h)
      · intro h
        exact hnotified (hstate.elim (fun hsame => hsame ▸ h) fun hopen => by
          rw [hopen] at h
          cases h)
  | @requested _ message method state hemits hplain hfree hlisting hcalling hsame =>
      exact
        { outstanding := by
            rw [outstanding_snoc, outstandingAfter, hemits, hinv.outstanding, hfree]
            rfl
          ids := by
            rw [emittedIds_snoc, hemits]
            intro id hid
            rcases List.mem_append.1 hid with hold | hnew
            · have hle := hinv.ids id hold
              dsimp only at hle ⊢
              omega
            · obtain rfl := List.mem_singleton.1 hnew
              exact le_refl _
          asked := by
            intro id hasked
            have hmethod : method = "tools/list" :=
              (Prod.mk.inj (Option.some.inj hasked)).2
            exact hnotified (hlisting hmethod)
          initialised := fun h => hinitialised (hsame.elim (fun hsame => hsame ▸ h) fun hopen => by
            rw [hopen] at h
            cases h)
          notified := fun h => hnotified (hsame.elim (fun hsame => hsame ▸ h) fun hopen => by
            rw [hopen] at h
            cases h)
          discovered := hdiscovered }
  | @notified message hemits hstate =>
      refine inv_quiet hinv hemits ?_ (fun _ h => h) (fun h => by cases h) (fun _ => ?_) hdiscovered
      · rw [hinv.outstanding]
        exact List.filter_eq_self.2 fun _ _ => rfl
      · exact ⟨history, message, [], hinv.initialised hstate, rfl⟩
  | answered hanswers hpending hnothing =>
      exact inv_quiet hinv hnothing (hone _ _ hanswers hpending) (fun _ h => by cases h)
        hinitialised hnotified hdiscovered
  | @identified message id hanswers hpending hshows =>
      exact inv_quiet hinv rfl (hone _ _ hanswers hpending) (fun _ h => by cases h)
        (fun _ => ⟨history, message, [], hshows, rfl⟩) (fun h => by cases h) hdiscovered
  | @discovered message id manifest hanswers hpending hshows =>
      exact inv_quiet hinv rfl (hone _ _ hanswers hpending) (fun _ h => by cases h)
        hinitialised hnotified
        fun _ => ⟨history, message, manifest, [], hinv.asked id hpending, hshows, rfl⟩

theorem outstanding_le_one (hinv : Recorded.Inv schemas (history, session)) :
    (outstanding history).length ≤ 1 := by
  rw [hinv.outstanding]
  cases session.pending with
  | none => exact Nat.zero_le 1
  | some request => exact le_refl 1

theorem safe_next (hinv : Recorded.Inv schemas (history, session))
    (hstep : session.Step schemas call answer after) :
    SafeNext schemas history (call, answer) := by
  have hmatched : ∀ (id : ℕ) (method : String), call.answers ((id : ℤ), method) = true →
      session.pending = some (id, method) →
        ∃ request, outstanding history = [request] ∧ call.answers request = true := by
    intro id method hanswers hpending
    refine ⟨((id : ℤ), method), ?_, hanswers⟩
    rw [hinv.outstanding, hpending]
    rfl
  have hquiet : requestOf answer = none →
      ((call.accepts.isSome → (∃ returned, answer = .ok returned) →
        ∃ request, outstanding history = [request] ∧ call.answers request = true) →
      SafeNext schemas history (call, answer)) := by
    intro hnothing hmatched
    have hno : ∀ request, requestOf answer ≠ some request := fun request h => by
      rw [hnothing] at h
      cases h
    refine ⟨fun id h => absurd h (hno _), fun h => ?_, fun request h => absurd h (hno _), hmatched⟩
    rw [hnothing] at h
    cases h
  cases hstep with
  | refused hunanswered hstate hrest =>
      exact hquiet rfl fun _ ⟨_, hok⟩ => by cases hok
  | @requested _ message method state hemits hplain hfree hlisting hcalling hsame =>
      refine ⟨fun id h => ?_, fun _ => ?_, fun request h => ?_, fun haccepts => ?_⟩
      · rw [hemits] at h
        exact hinv.discovered (hcalling (Prod.mk.inj (Option.some.inj h)).2).2
      · rw [hinv.outstanding, hfree]
        rfl
      · rw [hemits] at h
        obtain rfl := Option.some.inj h
        intro id hid
        have hle := hinv.ids id hid
        dsimp only at hle ⊢
        omega
      · rw [hplain] at haccepts
        cases haccepts
  | notified hemits hstate => exact hquiet hemits fun haccepts => by cases haccepts
  | answered hanswers hpending hnothing =>
      exact hquiet hnothing fun _ _ => hmatched _ _ hanswers hpending
  | identified hanswers hpending hshows =>
      exact hquiet rfl fun _ _ => hmatched _ _ hanswers hpending
  | discovered hanswers hpending hshows =>
      exact hquiet rfl fun _ _ => hmatched _ _ hanswers hpending

theorem inv_run (schemas : Schemas) (strict : Pydantic) (calls : List ClientCall) :
    Recorded.Inv schemas (recordedRun schemas strict calls) := by
  induction calls using List.reverseRecOn with
  | nil => exact inv_start
  | append_singleton calls call ih =>
      rw [recordedRun, List.foldl_append]
      exact inv_step ih (step_cases strict _ call)

theorem increasing_snoc (hids : (emittedIds history).Pairwise (· < ·))
    (hsafe : SafeNext schemas history (call, answer)) :
    (emittedIds (history ++ [(call, answer)])).Pairwise (· < ·) := by
  rw [emittedIds_snoc]
  cases hrequest : requestOf answer with
  | none => simpa [hrequest] using hids
  | some request =>
      refine List.pairwise_append.2 ⟨hids, List.pairwise_singleton _ _, ?_⟩
      intro id hid other hother
      obtain rfl := List.mem_singleton.1 hother
      exact hsafe.increasing request hrequest id hid

theorem emittedIds_increasing (calls : List ClientCall) :
    (emittedIds (recordedRun schemas strict calls).1).Pairwise (· < ·) := by
  induction calls using List.reverseRecOn with
  | nil => exact List.Pairwise.nil
  | append_singleton calls call ih =>
      have hsafe := safe_next (inv_run schemas strict calls)
        (step_cases strict _ call)
      rw [recordedRun, List.foldl_append]
      exact increasing_snoc ih hsafe

end Runs

section Server

abbrev ServerEvent := Json.Dict × Except Raised (Option Json.Dict)

abbrev ServerInput := Json.Dict × (ToolArguments → Except Raised McpToolCallResult)

abbrev Handling := List ServerEvent × McpObservabilityServer

def Handling.next (strict : Pydantic) (served : Handling) (input : ServerInput) : Handling :=
  let handled := served.2.handle strict input.2 input.1
  (served.1 ++ [(input.1, handled.response)], handled.server)

def servedRun (strict : Pydantic) (server : McpObservabilityServer) (inputs : List ServerInput) :
    Handling :=
  inputs.foldl (Handling.next strict) ([], server)

/-- An `initialize` of the pinned version has been answered. -/
def Greeted (history : List ServerEvent) : Prop :=
  ∃ before message response after entries,
    history = before ++ (message, .ok (some response)) :: after ∧
      getString message "method" = some "initialize" ∧
      McpObservabilityServer.params message = some entries ∧
      getString entries "protocolVersion" = some mcpProtocolVersion

/-- After that the client has said that it is initialized. -/
def Opened (history : List ServerEvent) : Prop :=
  ∃ before message after, Greeted before ∧
    history = before ++ (message, .ok none) :: after ∧
      getString message "method" = some "notifications/initialized"

structure Handling.Inv (served : Handling) : Prop where
  greeted : served.2.state = .initialized → Greeted served.1
  opened : served.2.state = .ready → Opened served.1

inductive McpObservabilityServer.Step (server : McpObservabilityServer) (message : Json.Dict) :
    Handled → Prop
  | refuses {text : String} : Step server message (server.refuse text)
  | greets {response entries : Json.Dict}
      (method : getString message "method" = some "initialize")
      (params : McpObservabilityServer.params message = some entries)
      (version : getString entries "protocolVersion" = some mcpProtocolVersion) :
      Step server message ⟨{ server with state := .initialized }, .ok (some response), none⟩
  | opens (method : getString message "method" = some "notifications/initialized")
      (initialized : server.state = .initialized) :
      Step server message ⟨{ server with state := .ready }, .ok none, none⟩
  | serves {response : Except Raised (Option Json.Dict)} {called : Option ToolArguments}
      (ready : server.state = .ready) : Step server message ⟨server, response, called⟩

open McpObservabilityServer in
theorem handle_cases (strict : Pydantic) (server : McpObservabilityServer)
    (executor : ToolArguments → Except Raised McpToolCallResult) (message : Json.Dict) :
    server.Step message (server.handle strict executor message) := by
  unfold handle
  split
  · exact .refuses
  split
  · exact .refuses
  rename_i method hmethod
  split
  · rename_i hnotification
    subst hnotification
    split
    · exact .refuses
    · rename_i hstate
      have hinitialized : server.state = .initialized := by
        by_contra hne
        simp [hne] at hstate
      exact .opens hmethod hinitialized
  split
  · exact .refuses
  split
  · exact .refuses
  split
  · rename_i hinitialize
    subst hinitialize
    split
    · exact .refuses
    split
    · exact .refuses
    rename_i entries hentries
    split
    · exact .refuses
    · rename_i hversion
      exact .greets hmethod hentries (not_not.1 hversion)
  split
  · exact .refuses
  rename_i hstate
  have hready : server.state = .ready := not_not.1 hstate
  split
  · exact .serves hready
  split
  · exact .refuses
  split
  · exact .refuses
  · exact .serves hready

variable {strict : Pydantic} {server : McpObservabilityServer} {history : List ServerEvent}
  {message : Json.Dict} {handled : Handled}

theorem Greeted.snoc (h : Greeted history) (event : ServerEvent) : Greeted (history ++ [event]) := by
  obtain ⟨before, message, response, later, entries, rfl, hgreets⟩ := h
  exact ⟨before, message, response, later ++ [event], entries, by simp, hgreets⟩

theorem Opened.snoc (h : Opened history) (event : ServerEvent) : Opened (history ++ [event]) := by
  obtain ⟨before, message, later, hgreeted, rfl, hmethod⟩ := h
  exact ⟨before, message, later ++ [event], hgreeted, by simp, hmethod⟩

theorem handling_step (hinv : Handling.Inv (history, server))
    (hstep : server.Step message handled) :
    Handling.Inv (history ++ [(message, handled.response)], handled.server) := by
  cases hstep with
  | refuses => exact ⟨fun h => (hinv.greeted h).snoc _, fun h => (hinv.opened h).snoc _⟩
  | @greets response entries hmethod hparams hversion =>
      have hgreeted : Greeted (history ++ [(message, .ok (some response))]) :=
        ⟨history, message, response, [], entries, rfl, hmethod, hparams, hversion⟩
      exact { greeted := fun _ => hgreeted, opened := fun h => by cases h }
  | opens hmethod hinitialized =>
      have hopened : Opened (history ++ [(message, .ok none)]) :=
        ⟨history, message, [], hinv.greeted hinitialized, rfl, hmethod⟩
      exact { opened := fun _ => hopened, greeted := fun h => nomatch h }
  | serves hready => exact ⟨fun h => (hinv.greeted h).snoc _, fun h => (hinv.opened h).snoc _⟩

theorem handling_run (hnew : server.state = .new) (inputs : List ServerInput) :
    Handling.Inv (servedRun strict server inputs) := by
  induction inputs using List.reverseRecOn with
  | nil =>
      have hneither : ∀ state, server.state = state → state = .new := fun state h => h ▸ hnew
      exact {
        greeted := fun h => nomatch hneither _ h
        opened := fun h => nomatch hneither _ h }
  | append_singleton inputs input ih =>
      rw [servedRun, List.foldl_append]
      exact handling_step ih (handle_cases strict _ _ _)

theorem ready_of_called (hstep : server.Step message handled) (hcalled : handled.called.isSome) :
    server.state = .ready := by
  cases hstep with
  | refuses => cases hcalled
  | greets => cases hcalled
  | opens => cases hcalled
  | serves hready => exact hready

theorem start_new {schemas : Schemas} (h : McpObservabilityServer.start schemas = .ok server) :
    server.state = .new := by
  obtain ⟨pinned, _, h⟩ := bind_ok h
  obtain ⟨manifest, _, h⟩ := bind_ok h
  obtain rfl := Except.ok.inj h
  rfl

end Server

/-- Whatever the peer sends and in whatever order the client calls: a `tools/call` goes out only
to the pinned server, after it was notified and its tools discovered exactly, in any order; one
request at most is outstanding, with a new and larger id, and only a response to it is accepted.
An executor is asked only when the server is ready, which it is after a greeting and its
notification. -/
theorem session_safe (schemas : Schemas) (strict : Pydantic) :
    (∀ (calls : List ClientCall) (call : ClientCall),
      let recorded := recordedRun schemas strict calls
      (outstanding recorded.1).length ≤ 1 ∧
        (emittedIds recorded.1).Pairwise (· < ·) ∧
        SafeNext schemas recorded.1 (call, (recorded.2.step schemas strict call).1)) ∧
    (∀ discovered manifest, verifyDiscoveredTools schemas discovered = .ok manifest ↔
      pinnedObservabilityManifest schemas = .ok manifest ∧ Discovers manifest discovered) ∧
    ∀ (server : McpObservabilityServer), McpObservabilityServer.start schemas = .ok server →
      ∀ (inputs : List ServerInput) (input : ServerInput),
        let served := servedRun strict server inputs
        (served.2.handle strict input.2 input.1).called.isSome →
          served.2.state = .ready ∧ Opened served.1 := by
  refine ⟨fun calls call => ?_, fun _ _ => verifyDiscoveredTools_ok, ?_⟩
  · have hinv := inv_run schemas strict calls
    exact ⟨outstanding_le_one hinv, emittedIds_increasing calls,
      safe_next hinv (step_cases _ _ call)⟩
  · intro server hstart inputs input served hcalled
    have hinv : Handling.Inv served := handling_run (start_new hstart) inputs
    have hready : served.2.state = .ready := ready_of_called (handle_cases strict _ _ _) hcalled
    exact ⟨hready, hinv.opened hready⟩

end CausalOps.Investigation.Mcp
