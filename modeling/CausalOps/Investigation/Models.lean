import CausalOps.Investigation.ToolCalls

set_option autoImplicit false

/-! What the graph asks a model for and what the model answers, and the two adapters
that turn a scripted or a provider response into a proposed turn. -/

namespace CausalOps.Investigation

structure ModelRequest where
  stage : Stage
  systemText : String
  contextText : String
  repairErrors : Option String
  runId : String
  graphPhase : GraphPhase
  modelTurn : ℕ
  contextDigest : String
  deriving DecidableEq, Repr

structure ModelResponse where
  content : Json.Dict
  usage : Option ModelUsage
  errors : String
  deriving Repr

structure ProposedTurn where
  parsed : Option Plan
  errors : String
  toolCall : List NativeToolCall
  usage : Option ModelUsage

section Plans

variable (pydantic : Pydantic)

def readProposal (entries : Json.Dict) : Except Issues (Option ToolProposal) :=
  match Json.get entries "proposal" with
  | none => .ok none
  | some .null => .ok none
  | some (.obj fields) => (validateProposal pydantic ["proposal"] fields).map some
  | some _ => .error [⟨["proposal"],
      "Input should be a valid dictionary or instance of ToolProposal"⟩]

def stopIssue (bound msg : String) : Issues :=
  [⟨["stop_reason"], "String should have at " ++ bound ++ " " ++ msg⟩]

def readStopReason (entries : Json.Dict) :
    Except Issues { reason : Option String // ∀ text ∈ reason, 1 ≤ text.length ∧ text.length ≤ 600 } :=
  match Json.get entries "stop_reason" with
  | none => .ok ⟨none, by simp⟩
  | some .null => .ok ⟨none, by simp⟩
  | some (.str text) =>
      if hlow : 1 ≤ text.length then
        if hhigh : text.length ≤ 600 then .ok ⟨some text, by simp [hlow, hhigh]⟩
        else .error (stopIssue "most" "600 characters")
      else .error (stopIssue "least" "1 character")
  | some _ => .error [⟨["stop_reason"], "Input should be a valid string"⟩]

def planIssues {α : Type} : Except Issues α → Issues
  | .ok _ => []
  | .error issues => issues

/-- `InitialPlan.model_validate` and `HypothesisUpdate.model_validate`. -/
def validatePlan (content : Json.Dict) : Except Issues Plan :=
  match pydantic.hypotheses (Json.get content "hypotheses"), readProposal pydantic content,
    readStopReason content with
  | .ok hypotheses, .ok proposal, .ok reason =>
      if h : proposal.isNone ≠ reason.1.isNone then
        .ok ⟨hypotheses.1, proposal, reason.1, hypotheses.2, reason.2, h⟩
      else .error [⟨[], "Value error, give either a tool proposal or a stop reason"⟩]
  | hypotheses, proposal, reason =>
      .error (planIssues hypotheses ++ planIssues proposal ++ planIssues reason)

end Plans

section Graph

variable (pydantic : Pydantic)

/-- What the graph takes from a turn: the plan, and the proposal it will dispatch. -/
def readTurn (turn : ProposedTurn) : Except String (Plan × Option ToolProposal) :=
  match turn.parsed with
  | none => .error turn.errors
  | some plan =>
      if turn.toolCall.isEmpty then .ok (plan, none)
      else
        match selectSingleToolCall turn.toolCall with
        | none => .error ("the model proposed " ++ toString turn.toolCall.length ++
            " checks in one turn; exactly one is allowed")
        | some call =>
            match parseToolCall pydantic call with
            | .error reason => .error reason
            | .ok proposal => .ok (plan, some proposal)

end Graph

section Replay

variable (pydantic : Pydantic)

/-- `ReplayToolCallingModel.propose`, given the scripted response. -/
def replayTurn (response : ModelResponse) (callId : String) : ProposedTurn :=
  match validatePlan pydantic response.content with
  | .error issues => ⟨none, summarizeErrors issues, [], response.usage⟩
  | .ok plan =>
      match plan.proposal with
      | none => ⟨some plan, "", [], response.usage⟩
      | some proposal =>
          ⟨some plan, "", [toToolCall pydantic proposal callId], response.usage⟩

end Replay

section Live

variable (pydantic : Pydantic)

/-- A tool call as the provider's client library reports it. -/
structure ProviderCall where
  name : String
  args : Json.Dict
  id : Option String
  deriving Repr

structure InvalidToolCall where
  name : Option String
  error : Option String
  deriving DecidableEq, Repr

structure ProviderMessage where
  content : Json
  toolCalls : List ProviderCall
  invalidToolCalls : List InvalidToolCall
  usage : ModelUsage
  deriving Repr

def isToolBlock : Json → Bool
  | .obj fields =>
      match Json.get fields "type" with
      | some (.str kind) => kind = "tool_use" || kind = "thinking" || kind = "redacted_thinking"
      | _ => false
  | _ => false

def hasVisibleContent : Json → Bool
  | .str text => text ≠ ""
  | .arr blocks => blocks.any fun block => !isToolBlock block
  | _ => true

/-- `value or fallback` for an optional string. -/
def orElseText (value : Option String) (fallback : String) : String :=
  match value with
  | some "" => fallback
  | some text => text
  | none => fallback

def toNativeToolCall (call : ProviderCall) : NativeToolCall where
  name := call.name
  args := call.args
  id := orElseText call.id "missing-call-id"

def malformedCalls (calls : List InvalidToolCall) : String :=
  "malformed tool call(s): " ++ joinStrings "; " (calls.map fun call =>
    orElseText call.name "<unnamed>" ++ ": " ++ orElseText call.error "unparseable")

def recordStopToolName : String := "record_stop"

/-- `StopRecord.model_validate`. -/
def validateStop (entries : Json.Dict) :
    Except Issues ({ entries : List Hypothesis // 2 ≤ entries.length ∧ entries.length ≤ 3 } ×
      String) :=
  let extras := extraIssues [] ["hypotheses", "stop_reason"] entries
  match pydantic.hypotheses (Json.get entries "hypotheses"), readStopReason entries, extras with
  | .ok hypotheses, .ok ⟨some reason, _⟩, [] => .ok (hypotheses, reason)
  | .ok _, .ok ⟨none, _⟩, extras => .error (⟨["stop_reason"], "Field required"⟩ :: extras)
  | hypotheses, reason, extras =>
      .error (planIssues hypotheses ++ planIssues reason ++ extras)

/-- `_finish_plan`: the whole payload goes through the stage's own schema again. -/
def finishPlan (hypotheses : List Hypothesis) (proposal : Option ToolProposal)
    (stopReason : Option String) : Except Issues Plan :=
  validatePlan pydantic
    [("hypotheses", pydantic.dumpHypotheses hypotheses),
      ("proposal", match proposal with
        | some proposal => .obj (dumpProposal pydantic proposal)
        | none => .null),
      ("stop_reason", match stopReason with
        | some reason => .str reason
        | none => .null)]

def finishedTurn (result : Except Issues Plan) (calls : List NativeToolCall)
    (usage : ModelUsage) : ProposedTurn :=
  match result with
  | .ok plan => ⟨some plan, "", calls, some usage⟩
  | .error issues => ⟨none, summarizeErrors issues, calls, some usage⟩

def refusedTurn (errors : String) (usage : ModelUsage) : ProposedTurn :=
  ⟨none, errors, [], some usage⟩

/-- `LiveClaudeModel.propose`, given the settled provider message. -/
def liveTurn (message : ProviderMessage) : ProposedTurn :=
  if hasVisibleContent message.content then
    refusedTurn "tool-call response must not include visible text" message.usage
  else if !message.invalidToolCalls.isEmpty then
    refusedTurn (malformedCalls message.invalidToolCalls) message.usage
  else
    match message.toolCalls with
    | [call] =>
        if call.name = recordStopToolName then
          match validateStop pydantic call.args with
          | .error issues => refusedTurn (summarizeErrors issues) message.usage
          | .ok (hypotheses, reason) =>
              finishedTurn (finishPlan pydantic hypotheses.1 none (some reason)) [] message.usage
        else
          match readToolName call.name with
          | none => refusedTurn ("unknown proposal tool " ++ pydantic.represent (.str call.name))
              message.usage
          | some _ =>
              match parseToolCall pydantic (toNativeToolCall call) with
              | .error reason => refusedTurn reason message.usage
              | .ok proposal =>
                  match pydantic.hypotheses
                      (some ((Json.get call.args "hypotheses").getD .null)) with
                  | .error issues => refusedTurn (summarizeErrors issues) message.usage
                  | .ok hypotheses =>
                      finishedTurn (finishPlan pydantic hypotheses.1 (some proposal) none)
                        [toNativeToolCall call] message.usage
    | calls => refusedTurn ("the model called " ++ toString calls.length ++
        " tools in one turn; exactly one is required") message.usage

end Live

end CausalOps.Investigation
