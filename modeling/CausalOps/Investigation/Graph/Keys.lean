import CausalOps.Cost.Distinct
import CausalOps.Investigation.Graph.Bounded
import CausalOps.Investigation.Graph.Growth
import CausalOps.Investigation.ToolCalls.Explained
import CausalOps.Investigation.Wrappers.Stored

set_option autoImplicit false

/-! The requests of one run have ledger keys of their own, whatever its model answers. -/

namespace CausalOps.Investigation

open CausalOps.Cost (requestKey LiveClaudeModel SendCall System CostLedgerRow)

section Adapters

variable (pydantic : Pydantic)

def recordFinalAssessmentToolName : String := "record_final_assessment"

def refusedResponse (errors : String) (usage : ModelUsage) : ModelResponse :=
  ⟨[], some usage, errors⟩

/-- `LiveClaudeModel.respond`, given the settled provider message. -/
def liveResponse (message : ProviderMessage) : ModelResponse :=
  if hasVisibleContent message.content then
    refusedResponse "tool-call response must not include visible text" message.usage
  else if !message.invalidToolCalls.isEmpty then
    refusedResponse (malformedCalls message.invalidToolCalls) message.usage
  else
    match message.toolCalls with
    | [call] =>
        if call.name ≠ recordFinalAssessmentToolName then
          refusedResponse ("expected " ++ recordFinalAssessmentToolName ++ ", got " ++ call.name)
            message.usage
        else if (Json.get call.args "schema_version").isSome then
          refusedResponse "schema_version is set by the application; do not send it" message.usage
        else ⟨Json.set call.args "schema_version" (.str schemaVersion), some message.usage, ""⟩
    | calls => refusedResponse ("the model called " ++ toString calls.length ++
        " tools in one turn; exactly one is required") message.usage

/-- What a proposal comes from: a script of the replay adapter, or a provider's message. -/
inductive Proposing where
  | scripted (response : ModelResponse) (callId : String)
  | live (message : ProviderMessage)

def Proposing.turn : Proposing → ProposedTurn
  | .scripted response callId => replayTurn pydantic response callId
  | .live message => liveTurn pydantic message

/-- What an assessment comes from. A script reports no error of its own. -/
inductive Responding where
  | scripted (content : Json.Dict)
  | live (message : ProviderMessage)

def Responding.response : Responding → ModelResponse
  | .scripted content => ⟨content, none, ""⟩
  | .live message => liveResponse message

/-- A turn whose model is the live or the replay adapter. -/
structure AdapterTurn where
  stageReading : Time
  firstProposal : ModelRequest → Except Escape Proposing
  secondProposal : ModelRequest → Except Escape Proposing
  firstResponse : ModelRequest → Except Escape Responding
  secondResponse : ModelRequest → Except Escape Responding
  outside : Outside
  routeReading : Time
  reportReading : Time
  fault : Option String

def AdapterTurn.turn (adapter : AdapterTurn) : Turn where
  stageReading := adapter.stageReading
  firstProposal := fun request => (adapter.firstProposal request).map (Proposing.turn pydantic)
  secondProposal := fun request => (adapter.secondProposal request).map (Proposing.turn pydantic)
  firstResponse := fun request => (adapter.firstResponse request).map Responding.response
  secondResponse := fun request => (adapter.secondResponse request).map Responding.response
  outside := adapter.outside
  routeReading := adapter.routeReading
  reportReading := adapter.reportReading
  fault := adapter.fault

inductive Move where
  | step (adapter : AdapterTurn)
  | resume (value : Json)

def Move.act : Move → Act
  | .step adapter => .step (adapter.turn pydantic)
  | .resume value => .resume value

end Adapters

section Replies

variable {α : Type} {pydantic : Pydantic}

def ToldReply (reply : Reply α) : Prop :=
  ∀ request usage text, reply request = .ok (usage, .error text) → text ≠ ""

theorem proposalReply_told (hpydantic : pydantic.Explains)
    (propose : ModelRequest → Except Escape Proposing) :
    ToldReply (proposalReply pydantic fun request =>
      (propose request).map (Proposing.turn pydantic)) := by
  intro request usage text h
  unfold proposalReply at h
  dsimp only at h
  cases hproposing : propose request with
  | error escape =>
      rw [hproposing] at h
      cases h
  | ok proposing =>
      rw [hproposing] at h
      have htold : (proposing.turn pydantic).Told := by
        cases proposing with
        | scripted response callId => exact replayTurn_told hpydantic response callId
        | live message => exact liveTurn_told hpydantic message
      exact readTurn_told htold (Prod.mk.inj (Except.ok.inj h)).2

theorem readAssessment_told (hpydantic : pydantic.Explains) {response : ModelResponse}
    {text : String} (h : readAssessment pydantic response = .error text) : text ≠ "" := by
  unfold readAssessment at h
  split at h
  · rename_i hreported
    rw [← Except.error.inj h]
    exact hreported
  · cases hassessment : pydantic.assessment response.content with
    | ok assessment =>
        rw [hassessment] at h
        cases h
    | error issues =>
        rw [hassessment] at h
        rw [← Except.error.inj h]
        exact summarizeErrors_ne_empty (hpydantic.assessment _ issues hassessment)

theorem responseReply_told (hpydantic : pydantic.Explains)
    (respond : ModelRequest → Except Escape ModelResponse) :
    ToldReply (responseReply pydantic respond) := by
  intro request usage text h
  unfold responseReply at h
  cases hresponse : respond request with
  | error escape =>
      rw [hresponse] at h
      cases h
  | ok response =>
      rw [hresponse] at h
      exact readAssessment_told hpydantic (Prod.mk.inj (Except.ok.inj h)).2

end Replies

section Asking

variable {α : Type} {context : StageContext} {asking asked : Asking} {reply : Reply α}

/-- A request carries the run, the phase and the turn of its stage. -/
def OfStage (context : StageContext) (request : ModelRequest) : Prop :=
  request.runId = context.runId ∧ request.graphPhase = context.graphPhase ∧
    request.modelTurn = context.modelTurn

theorem renderStageRequest_ofStage {repairErrors : Option String} {request : ModelRequest}
    (h : renderStageRequest context asking repairErrors = .ok request) :
    OfStage context request := by
  unfold renderStageRequest at h
  split at h
  · rw [← Except.ok.inj h]
    exact ⟨rfl, rfl, rfl⟩
  · cases h
  · cases h
  · cases h

theorem renderStageRequest_repaired {errors : String} {first second : ModelRequest}
    (hdigest : Function.Injective context.setting.hashing.digestText)
    (hfirst : renderStageRequest context asking none = .ok first)
    (hcalls : asked.callsLeft context.setting.budgets = asking.callsLeft context.setting.budgets)
    (hsecond : renderStageRequest context asked (some errors) = .ok second) (hold : errors ≠ "") :
    first.contextDigest ≠ second.contextDigest := by
  unfold renderStageRequest at hfirst hsecond
  split at hfirst
  · rename_i checksLeft notes searchesLeft hchecks hnotes hsearches
    rw [hchecks, hnotes, hsearches, hcalls] at hsecond
    rw [← Except.ok.inj hfirst, ← Except.ok.inj hsecond]
    intro hsame
    have htext := congrArg String.toList (hdigest hsame)
    simp only [Option.getD_none, Option.getD_some, String.toList_append, String.toList_empty,
      List.append_nil, List.self_eq_append_right] at htext
    exact hold (String.toList_inj.1 htext)
  · cases hfirst
  · cases hfirst
  · cases hfirst

theorem askOnce_rendered {repairErrors : Option String}
    {outcome : Except Escape (Except String α)}
    (h : askOnce context asking repairErrors reply = (asked, outcome)) :
    (asked = asking ∧ ∃ escape, outcome = .error escape) ∨
      ∃ request, renderStageRequest context asking repairErrors = .ok request ∧
        asked.requests = asking.requests ++ [request] ∧
        asked.modelCallsUsed = asking.modelCallsUsed + 1 ∧
        asked.repairsUsed = asking.repairsUsed ∧
        ∀ text, outcome = .ok (.error text) → ∃ usage, reply request = .ok (usage, .error text) := by
  unfold askOnce at h
  cases hrender : renderStageRequest context asking repairErrors with
  | error escape =>
      rw [hrender] at h
      obtain ⟨rfl, rfl⟩ := Prod.mk.inj h
      exact Or.inl ⟨rfl, escape, rfl⟩
  | ok request =>
      rw [hrender] at h
      refine Or.inr ⟨request, rfl, ?_⟩
      cases hreply : reply request with
      | error escape =>
          simp only [hreply] at h
          obtain ⟨rfl, rfl⟩ := Prod.mk.inj h
          exact ⟨rfl, rfl, rfl, nofun⟩
      | ok answered =>
          simp only [hreply] at h
          obtain ⟨rfl, rfl⟩ := Prod.mk.inj h
          refine ⟨rfl, rfl, rfl, fun text htext => ⟨answered.1, ?_⟩⟩
          rw [← Except.ok.inj htext]

/-- What a question asks: requests of its stage, with keys of their own. -/
structure Asks (context : StageContext) (added : List ModelRequest) : Prop where
  ofStage : ∀ request ∈ added, OfStage context request
  distinct : (added.map requestKey).Nodup

theorem asks_nil : Asks context [] := ⟨fun _ h => absurd h List.not_mem_nil, List.nodup_nil⟩

theorem asks_one {request : ModelRequest} (h : OfStage context request) : Asks context [request] := by
  refine ⟨?_, List.nodup_singleton _⟩
  intro other hother
  obtain rfl := List.mem_singleton.1 hother
  exact h

theorem askWithRepair_asks (context : StageContext)
    (hdigest : Function.Injective context.setting.hashing.digestText) (startedAt reading : Time)
    (asking : Asking) {first : Reply α} (second : Reply α) (htold : ToldReply first) :
    ∃ added, (askWithRepair context startedAt reading asking first second).1.requests =
      asking.requests ++ added ∧ Asks context added := by
  have hnothing : ∃ added, asking.requests = asking.requests ++ added ∧ Asks context added :=
    ⟨[], (List.append_nil _).symm, asks_nil⟩
  unfold askWithRepair
  split
  · exact hnothing
  split
  · exact hnothing
  cases hasked : askOnce context asking none first with
  | mk asked outcome =>
  rcases askOnce_rendered hasked with
    ⟨rfl, escape, rfl⟩ | ⟨request, hrender, hrequests, hcalls, hrepairs, hanswer⟩
  · exact hnothing
  have hone : ∃ added, asked.requests = asking.requests ++ added ∧ Asks context added :=
    ⟨[request], hrequests, asks_one (renderStageRequest_ofStage hrender)⟩
  cases outcome with
  | error escape => exact hone
  | ok parsed =>
  cases parsed with
  | ok value => exact hone
  | error errors =>
  dsimp only
  split
  · exact hone
  obtain ⟨usage, hrefused⟩ := hanswer errors rfl
  cases hagain : askOnce context (asked.invalid context.stage errors).repair (some errors)
    second with
  | mk again outcome =>
  rcases askOnce_rendered hagain with
    ⟨rfl, escape, rfl⟩ | ⟨request', hrender', hrequests', _, _, _⟩
  · exact hone
  have hdiffer : request.contextDigest ≠ request'.contextDigest :=
    renderStageRequest_repaired hdigest hrender (callsLeft_repair hcalls hrepairs) hrender'
      (htold request usage errors hrefused)
  have htwo : ∃ added, again.requests = asking.requests ++ added ∧ Asks context added := by
    refine ⟨[request, request'], ?_, ?_, ?_⟩
    · rw [hrequests']
      simp [Asking.repair, Asking.invalid, hrequests]
    · intro other hother
      rcases List.mem_cons.1 hother with rfl | hother
      · exact renderStageRequest_ofStage hrender
      · obtain rfl := List.mem_singleton.1 hother
        exact renderStageRequest_ofStage hrender'
    · have hkeys : requestKey request ≠ requestKey request' := by
        intro heq
        exact hdiffer (congrArg CausalOps.Cost.RequestKey.contextDigest heq)
      simp [hkeys]
  cases outcome with
  | error escape => exact htwo
  | ok parsed =>
  cases parsed with
  | ok value => exact htwo
  | error errors' => exact htwo

end Asking

section Nodes

variable {setting : Setting} {state state' : GraphState}

/-- What a node asks: nothing, or in one of two stages, with the number of its turn. -/
inductive NodeAsks (state : GraphState) : Node → List ModelRequest → Prop
  | nothing (node : Node) : NodeAsks state node []
  | investigates {requests : List ModelRequest}
      (own : ∀ request ∈ requests, request.runId = state.runId ∧
        request.graphPhase = .investigate ∧ request.modelTurn = state.modelTurn)
      (distinct : (requests.map requestKey).Nodup) : NodeAsks state .investigate requests
  | assesses {requests : List ModelRequest}
      (own : ∀ request ∈ requests, request.runId = state.runId ∧
        request.graphPhase = .finalAssessment)
      (distinct : (requests.map requestKey).Nodup) : NodeAsks state .finalAssessment requests

theorem perform_asks (hdigest : Function.Injective setting.hashing.digestText)
    (hpydantic : setting.pydantic.Explains) (node : Node) (state : GraphState)
    (resumes : List Json) (adapter : AdapterTurn) :
    NodeAsks state node
      (perform setting node state resumes (adapter.turn setting.pydantic)).requests := by
  cases node with
  | investigate =>
      simp only [perform, investigate]
      split
      · rename_i receipts store _ _
        obtain ⟨added, hrequests, hasks⟩ := askWithRepair_asks
          (stageContext setting state store receipts (investigateStage state) .investigate) hdigest
          state.startedAt adapter.stageReading (Asking.start state (investigateStage state))
          (proposalReply setting.pydantic (adapter.turn setting.pydantic).secondProposal)
          (proposalReply_told hpydantic adapter.firstProposal)
        exact .investigates (hrequests ▸ hasks.ofStage) (hrequests ▸ hasks.distinct)
      · exact .nothing _
      · exact .nothing _
  | finalAssessment =>
      simp only [perform, finalAssessment]
      split
      · rename_i receipts store _ _
        obtain ⟨added, hrequests, hasks⟩ := askWithRepair_asks
          (stageContext setting state store receipts .finalAssessment .finalAssessment) hdigest
          state.startedAt adapter.stageReading (Asking.start state .finalAssessment)
          (responseReply setting.pydantic (adapter.turn setting.pydantic).secondResponse)
          (responseReply_told hpydantic (adapter.turn setting.pydantic).firstResponse)
        have hown : ∀ request ∈ added, request.runId = state.runId ∧
            request.graphPhase = .finalAssessment := by
          intro request hrequest
          have hstage := hasks.ofStage request hrequest
          exact ⟨hstage.1, hstage.2.1⟩
        exact .assesses (hrequests ▸ hown) (hrequests ▸ hasks.distinct)
      · exact .nothing _
      · exact .nothing _
  | dispatchTool =>
      simp only [perform, (dispatchTool_quiet setting state _).1]
      exact .nothing _
  | normalizeEvidence => exact .nothing _
  | escalationInterrupt =>
      simp only [perform, (escalationInterrupt_quiet setting state resumes).1]
      exact .nothing _
  | finalReport =>
      simp only [perform, (finalReport_quiet setting state _).1]
      exact .nothing _

/-- A node keeps the run and never goes back to an earlier turn. A proposal ends its turn. -/
structure Onward (node : Node) (before after : GraphState) : Prop where
  run : after.runId = before.runId
  turns : before.modelTurn ≤ after.modelTurn
  proposed : node = .investigate → after.pendingProposal.isSome = true →
    before.modelTurn < after.modelTurn

theorem onward_same {node : Node} (hrun : state'.runId = state.runId)
    (hturn : state'.modelTurn = state.modelTurn)
    (hnothing : node ≠ .investigate ∨ state'.pendingProposal = none) :
    Onward node state state' := by
  refine ⟨hrun, hturn.ge, ?_⟩
  intro hnode hproposed
  rcases hnothing with hother | hnone
  · exact absurd hnode hother
  · rw [hnone] at hproposed
    cases hproposed

theorem investigated_onward {stage : Stage}
    {asked : Asking × Except Escape (Option (Plan × Option ToolProposal))}
    (h : investigated state stage asked = .updated state') :
    Onward .investigate state state' := by
  unfold investigated at h
  split at h
  · obtain rfl := Left.updated.inj h
    exact onward_same rfl rfl (Or.inr rfl)
  · obtain rfl := Left.updated.inj h
    exact ⟨rfl, Nat.le_succ _, fun _ _ => Nat.lt_succ_self _⟩
  · cases h
  · obtain rfl := Left.updated.inj h
    exact onward_same rfl rfl (Or.inr rfl)
  · obtain rfl := Left.updated.inj h
    exact onward_same rfl rfl (Or.inr rfl)

theorem assessed_onward {store : EvidenceStore}
    {asked : Asking × Except Escape (Option FinalAssessment)}
    (h : assessed state store asked = .updated state') :
    Onward .finalAssessment state state' := by
  unfold assessed at h
  split at h
  · split at h <;> (obtain rfl := Left.updated.inj h; exact onward_same rfl rfl (Or.inl nofun))
  · dsimp only at h
    split at h <;> (obtain rfl := Left.updated.inj h; exact onward_same rfl rfl (Or.inl nofun))
  · cases h
  · obtain rfl := Left.updated.inj h
    exact onward_same rfl rfl (Or.inl nofun)
  · obtain rfl := Left.updated.inj h
    exact onward_same rfl rfl (Or.inl nofun)

theorem dispatchedLeft_onward {proposal : ToolProposal} {outside : Outside}
    {dispatched : Dispatched}
    (h : dispatchedLeft state proposal outside dispatched = .updated state') :
    Onward .dispatchTool state state' := by
  unfold dispatchedLeft at h
  split at h
  · cases h
  · obtain rfl := Left.updated.inj h
    exact onward_same rfl rfl (Or.inl nofun)
  · dsimp only at h
    split at h <;> (obtain rfl := Left.updated.inj h; exact onward_same rfl rfl (Or.inl nofun))

theorem dispatchTool_onward {turn : Turn}
    (h : (dispatchTool setting state turn).left = .updated state') :
    Onward .dispatchTool state state' := by
  unfold dispatchTool at h
  split at h
  · cases h
  split at h
  · cases h
  split at h
  · cases h
  split at h
  · obtain rfl := Left.updated.inj h
    exact onward_same rfl rfl (Or.inl nofun)
  · exact dispatchedLeft_onward h

theorem perform_onward {node : Node} {resumes : List Json} {turn : Turn}
    (h : (perform setting node state resumes turn).left = .updated state') :
    Onward node state state' := by
  cases node with
  | investigate =>
      simp only [perform, investigate] at h
      split at h
      · exact investigated_onward h
      · cases h
      · cases h
  | finalAssessment =>
      simp only [perform, finalAssessment] at h
      split at h
      · exact assessed_onward h
      · cases h
      · cases h
  | dispatchTool => exact dispatchTool_onward h
  | normalizeEvidence =>
      obtain rfl := Left.updated.inj h
      exact onward_same rfl rfl (Or.inl (by simp))
  | escalationInterrupt =>
      simp only [perform, escalationInterrupt] at h
      split at h
      · split at h
        · obtain rfl := Left.updated.inj h
          exact onward_same rfl rfl (Or.inl (by simp))
        · cases h
      all_goals cases h
  | finalReport =>
      simp only [perform, finalReport] at h
      split at h
      · cases h
      · obtain rfl := Left.updated.inj h
        exact onward_same rfl rfl (Or.inl (by simp))

end Nodes

section Runs

variable {setting : Setting} {thread next : Thread} {node : Node} {adapter : AdapterTurn}
  {runId : String}

def Earlier (modelTurn : ℕ) (request : ModelRequest) : Prop :=
  request.graphPhase = .investigate ∧ request.modelTurn < modelTurn

/-- What the requests so far have in common, given where the thread stands. -/
def Behind (requests : List ModelRequest) (modelTurn : ℕ) : Position → Prop
  | .running .investigate => ∀ request ∈ requests, Earlier modelTurn request
  | .running .dispatchTool => ∀ request ∈ requests, Earlier modelTurn request
  | .running .normalizeEvidence => ∀ request ∈ requests, Earlier modelTurn request
  | .running .finalAssessment => ∀ request ∈ requests, request.graphPhase = .investigate
  | _ => True

/-- The requests of a thread are its run's, with keys of their own. -/
structure Asked (runId : String) (thread : Thread) : Prop where
  run : thread.state.runId = runId
  own : ∀ request ∈ requested thread.journal, request.runId = runId
  distinct : ((requested thread.journal).map requestKey).Nodup
  behind : Behind (requested thread.journal) thread.state.modelTurn thread.position

theorem nodup_append_keys {before added : List ModelRequest}
    (hbefore : (before.map requestKey).Nodup) (hadded : (added.map requestKey).Nodup)
    (hapart : ∀ request ∈ before, ∀ other ∈ added, requestKey request ≠ requestKey other) :
    ((before ++ added).map requestKey).Nodup := by
  rw [List.map_append]
  refine hbefore.append hadded ?_
  intro key hkey hother
  obtain ⟨request, hrequest, rfl⟩ := List.mem_map.1 hkey
  obtain ⟨other, hmem, heq⟩ := List.mem_map.1 hother
  exact hapart request hrequest other hmem heq.symm

theorem Asked.asks (h : Asked runId thread) (hrunning : thread.position = .running node)
    {added : List ModelRequest} (hasks : NodeAsks thread.state node added) :
    (∀ request ∈ requested thread.journal ++ added, request.runId = runId) ∧
      ((requested thread.journal ++ added).map requestKey).Nodup := by
  have hbehind := h.behind
  rw [hrunning] at hbehind
  cases hasks with
  | nothing =>
      rw [List.append_nil]
      exact ⟨h.own, h.distinct⟩
  | investigates hown hdistinct =>
      refine ⟨?_, nodup_append_keys h.distinct hdistinct ?_⟩
      · intro request hrequest
        rcases List.mem_append.1 hrequest with hbefore | hadded
        · exact h.own request hbefore
        · exact (hown request hadded).1.trans h.run
      · intro request hbefore other hadded heq
        have hturn : request.modelTurn = other.modelTurn :=
          Int.ofNat.inj (congrArg CausalOps.Cost.RequestKey.modelTurn heq)
        have hearlier := (hbehind request hbefore).2
        rw [hturn, (hown other hadded).2.2] at hearlier
        exact lt_irrefl _ hearlier
  | assesses hown hdistinct =>
      refine ⟨?_, nodup_append_keys h.distinct hdistinct ?_⟩
      · intro request hrequest
        rcases List.mem_append.1 hrequest with hbefore | hadded
        · exact h.own request hbefore
        · exact (hown request hadded).1.trans h.run
      · intro request hbefore other hadded heq
        have hphase : request.graphPhase.value = other.graphPhase.value :=
          congrArg CausalOps.Cost.RequestKey.graphPhase heq
        rw [hbehind request hbefore, (hown other hadded).2] at hphase
        exact absurd hphase (by decide)

theorem NodeAsks.phase {state : GraphState} {added : List ModelRequest}
    (h : NodeAsks state .investigate added) : ∀ request ∈ added,
      request.graphPhase = .investigate ∧ request.modelTurn = state.modelTurn := by
  cases h with
  | nothing => exact fun _ hnone => absurd hnone List.not_mem_nil
  | investigates hown _ => exact fun request hrequest => (hown request hrequest).2

theorem NodeAsks.quiet {state : GraphState} {added : List ModelRequest}
    (h : NodeAsks state node added) (hnode : node ≠ .investigate) (hlast : node ≠ .finalAssessment) :
    added = [] := by
  cases h with
  | nothing => rfl
  | investigates _ _ => exact absurd rfl hnode
  | assesses _ _ => exact absurd rfl hlast

theorem Earlier.mono {first second : ℕ} {request : ModelRequest} (h : Earlier first request)
    (hle : first ≤ second) : Earlier second request := ⟨h.1, h.2.trans_le hle⟩

theorem Asked.moved (h : Asked runId thread) (hrunning : thread.position = .running node)
    {added : List ModelRequest} (hasks : NodeAsks thread.state node added) {state : GraphState}
    (honward : Onward node thread.state state) {reading : Time} {following : Node}
    (hroute : route setting node state reading = .ok (some following)) :
    Behind (requested thread.journal ++ added) state.modelTurn (.running following) := by
  have hbehind := h.behind
  rw [hrunning] at hbehind
  cases node with
  | investigate =>
      obtain rfl := Option.some.inj (Except.ok.inj hroute)
      have hphase : ∀ request ∈ requested thread.journal ++ added,
          request.graphPhase = .investigate ∧ request.modelTurn ≤ thread.state.modelTurn := by
        intro request hrequest
        rcases List.mem_append.1 hrequest with hbefore | hadded
        · exact ⟨(hbehind request hbefore).1, (hbehind request hbefore).2.le⟩
        · exact ⟨(hasks.phase request hadded).1, (hasks.phase request hadded).2.le⟩
      simp only [routeAfterInvestigate]
      split
      · rename_i hproposed
        intro request hrequest
        obtain ⟨hinvestigate, hturn⟩ := hphase request hrequest
        exact ⟨hinvestigate, hturn.trans_lt (honward.proposed rfl hproposed)⟩
      · split
        · trivial
        · exact fun request hrequest => (hphase request hrequest).1
  | dispatchTool =>
      obtain rfl := Option.some.inj (Except.ok.inj hroute)
      rw [hasks.quiet (by simp) (by simp), List.append_nil]
      exact fun request hrequest => (hbehind request hrequest).mono honward.turns
  | normalizeEvidence =>
      rw [hasks.quiet (by simp) (by simp), List.append_nil]
      simp only [route, routeAfterNormalize] at hroute
      split at hroute
      · obtain rfl := Option.some.inj (Except.ok.inj hroute)
        trivial
      · split at hroute
        · cases hroute
        · split at hroute
          · cases hroute
          · split at hroute
            · obtain rfl := Option.some.inj (Except.ok.inj hroute)
              exact fun request hrequest => (hbehind request hrequest).mono honward.turns
            · obtain rfl := Option.some.inj (Except.ok.inj hroute)
              exact fun request hrequest => (hbehind request hrequest).1
  | finalAssessment =>
      simp only [route, routeAfterFinalAssessment] at hroute
      split at hroute
      · obtain rfl := Option.some.inj (Except.ok.inj hroute)
        trivial
      · split at hroute
        · obtain rfl := Option.some.inj (Except.ok.inj hroute)
          trivial
        · split at hroute
          · cases hroute
          · obtain rfl := Option.some.inj (Except.ok.inj hroute)
            trivial
          · obtain rfl := Option.some.inj (Except.ok.inj hroute)
            trivial
  | escalationInterrupt =>
      obtain rfl := Option.some.inj (Except.ok.inj hroute)
      trivial
  | finalReport => cases hroute

theorem Asked.step (hdigest : Function.Injective setting.hashing.digestText)
    (hpydantic : setting.pydantic.Explains) (h : Asked runId thread)
    (hrunning : thread.position = .running node)
    (hsteps : Steps setting thread node (adapter.turn setting.pydantic) next) :
    Asked runId next := by
  have hasks := perform_asks hdigest hpydantic node thread.state thread.resumes adapter
  have hkeys := h.asks hrunning hasks
  rw [← requested_journalOf] at hkeys
  cases hsteps with
  | raised escape hraises => exact ⟨h.run, hkeys.1, hkeys.2, trivial⟩
  | paused payload hleft => exact ⟨h.run, hkeys.1, hkeys.2, trivial⟩
  | ended state hleft hroute =>
      exact ⟨(perform_onward hleft).run.trans h.run, hkeys.1, hkeys.2, trivial⟩
  | moved state following hleft hroute =>
      have honward := perform_onward hleft
      have hplace := h.moved hrunning hasks honward hroute
      rw [← requested_journalOf] at hplace
      exact ⟨honward.run.trans h.run, hkeys.1, hkeys.2, hplace⟩

theorem asked_start (setting : Setting) (investigationId runId : String) (startedAt : Time) :
    Asked runId (Thread.start setting investigationId runId startedAt) := by
  refine ⟨rfl, fun _ hnone => absurd hnone List.not_mem_nil, List.nodup_nil, ?_⟩
  simp only [Thread.start, startNode]
  split
  · exact fun _ hnone => absurd hnone List.not_mem_nil
  · exact fun _ hnone => absurd hnone List.not_mem_nil

/-- A run without a crash, whatever its model answers and its owner decides. -/
theorem asked_after (hdigest : Function.Injective setting.hashing.digestText)
    (hpydantic : setting.pydantic.Explains) (h : Asked runId thread) (moves : List Move) :
    Asked runId (after setting thread (moves.map (Move.act setting.pydantic))) := by
  induction moves generalizing thread with
  | nil => exact h
  | cons move rest ih =>
      refine ih ?_
      cases move with
      | step adapter =>
          by_cases hrunning : ∃ node, thread.position = .running node
          · obtain ⟨node, hnode⟩ := hrunning
            exact h.step hdigest hpydantic hnode (superstep_steps hnode _)
          · have hstill : ∀ node, thread.position ≠ .running node :=
              fun node hnode => hrunning ⟨node, hnode⟩
            simp only [Move.act, superstep_still hstill]
            exact h
      | resume value =>
          simp only [Move.act, resumeThread]
          split
          · exact ⟨h.run, h.own, h.distinct, trivial⟩
          · exact h

/-- The `_send` of each request of a run, beside the calls of other runs. -/
def sends {κ : Type} (requests : List ModelRequest) (model : Fin requests.length → LiveClaudeModel)
    (tools : Fin requests.length → String) (others : κ → SendCall) :
    Fin requests.length ⊕ κ → SendCall
  | .inl i => ⟨model i, requests.get i, tools i⟩
  | .inr k => others k

theorem sends_apart {κ : Type} {requests : List ModelRequest}
    (model : Fin requests.length → LiveClaudeModel) (tools : Fin requests.length → String)
    {others : κ → SendCall} (hdistinct : (requests.map requestKey).Nodup)
    (hown : ∀ request ∈ requests, request.runId = runId)
    (hothers : ∀ k, (others k).request.runId ≠ runId) :
    CausalOps.Cost.Apart (sends requests model tools others) fun i => i.isLeft = true := by
  intro i j hi hdiffer
  cases i with
  | inr k => cases hi
  | inl i =>
      intro heq
      cases j with
      | inl j =>
          refine hdiffer (congrArg Sum.inl ?_)
          refine List.nodup_iff_injective_get.1 hdistinct.of_map ?_
          exact (List.inj_on_of_nodup_map hdistinct (List.get_mem _ _) (List.get_mem _ _) heq).symm
      | inr k =>
          have hrun : (requests.get i).runId = (others k).request.runId :=
            congrArg CausalOps.Cost.RequestKey.runId heq
          exact hothers k (hrun.symm.trans (hown _ (List.get_mem _ _)))

theorem distinct_send_keys (setting : Setting)
    (hdigest : Function.Injective setting.hashing.digestText)
    (hpydantic : setting.pydantic.Explains) (investigationId runId : String) (startedAt : Time)
    (moves : List Move) :
    let requests := requested (after setting (Thread.start setting investigationId runId startedAt)
      (moves.map (Move.act setting.pydantic))).journal
    (requests.map requestKey).Nodup ∧
      ∀ (κ : Type) [DecidableEq κ] (rows : List CostLedgerRow)
        (model : Fin requests.length → LiveClaudeModel) (tools : Fin requests.length → String)
        (others : κ → SendCall) (acts : List (CausalOps.Cost.Act (Fin requests.length ⊕ κ)))
        (i : Fin requests.length) (row : CostLedgerRow),
        Rows.Keyed CostLedgerRow.key rows → (∀ row ∈ rows, row.key.runId ≠ runId) →
        (∀ k, (others k).request.runId ≠ runId) →
        ((System.initial rows).run (sends requests model tools others) acts).progress (.inl i) ≠
          .ended (.error (.ambiguousReservationNotResent row)) := by
  intro requests
  have hasked : Asked runId (after setting (Thread.start setting investigationId runId startedAt)
      (moves.map (Move.act setting.pydantic))) :=
    asked_after hdigest hpydantic (asked_start setting investigationId runId startedAt) moves
  refine ⟨hasked.distinct, ?_⟩
  intro κ _ rows model tools others acts i row hkeyed hrows hothers
  refine CausalOps.Cost.never_ambiguous hkeyed
    (sends_apart model tools hasked.distinct hasked.own hothers) ?_ acts (.inl i) rfl row
  intro j hj
  cases j with
  | inr k => cases hj
  | inl j =>
      refine Rows.lookup_eq_none.2 ?_
      intro stored hstored heq
      have hrun : stored.key.runId = (requests.get j).runId :=
        congrArg CausalOps.Cost.RequestKey.runId heq
      exact hrows stored hstored (hrun.trans (hasked.own _ (List.get_mem _ _)))

theorem labReader_explains : labReader.Explains where
  hypotheses := fun _ => explained_ok _
  assessment := by
    intro content
    simp only [labReader]
    split
    · exact explained_ok _
    · exact explained_ok _
    · exact explained_cons _ _

theorem labHashing_digestText_injective : Function.Injective labHashing.digestText := by
  intro first second heq
  have htexts := congrArg String.toList heq
  simp only [labHashing, String.toList_append] at htexts
  exact String.toList_inj.1 (List.append_cancel_left htexts)

/-- A live adapter whose provider answers without a tool call. -/
def silentAdapter : AdapterTurn where
  stageReading := 0
  firstProposal := fun _ => .ok (.live ⟨.str "", [], [], ⟨1, 1⟩⟩)
  secondProposal := fun _ => .ok (.live ⟨.str "", [], [], ⟨1, 1⟩⟩)
  firstResponse := fun _ => .ok (.live ⟨.str "", [], [], ⟨1, 1⟩⟩)
  secondResponse := fun _ => .ok (.live ⟨.str "", [], [], ⟨1, 1⟩⟩)
  outside := labOutside "receipt" "evidence"
  routeReading := 0
  reportReading := 0
  fault := none

def silentRun : List ModelRequest :=
  requested (after labSetting (Thread.start labSetting "investigation" "run" 0)
    ([Move.step silentAdapter].map (Move.act labSetting.pydantic))).journal

/-- The question and its repair have two keys, and neither is refused on an empty ledger. -/
theorem distinct_send_keys_silent :
    silentRun.length = 2 ∧ (silentRun.map requestKey).Nodup ∧
      ∀ (acts : List (CausalOps.Cost.Act (Fin silentRun.length ⊕ Empty)))
        (i : Fin silentRun.length) (row : CostLedgerRow),
        ((System.initial []).run (sends silentRun
          (fun _ => ⟨CausalOps.Cost.claudeSonnet5Pricing, some 5, true⟩) (fun _ => "[]")
          Empty.elim) acts).progress (.inl i) ≠
            .ended (.error (.ambiguousReservationNotResent row)) := by
  have hkeys := distinct_send_keys labSetting labHashing_digestText_injective
    labReader_explains "investigation" "run" 0 [.step silentAdapter]
  refine ⟨by decide +kernel, hkeys.1, ?_⟩
  intro acts i row
  exact hkeys.2 Empty [] _ _ Empty.elim acts i row (Rows.keyed_nil _)
    (fun _ hnone => absurd hnone List.not_mem_nil) (fun k => k.elim)

end Runs

end CausalOps.Investigation
