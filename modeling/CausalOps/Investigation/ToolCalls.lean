import CausalOps.Investigation.Prompts

set_option autoImplicit false

/-! Proposals as native tool calls: how a proposal is encoded, how a call is read into
a proposal, and what both model adapters hand to the graph. -/

namespace CausalOps.Investigation

section Validation

/-- What a validation complains about: where, and what. -/
structure Issue where
  loc : List String
  msg : String
  deriving DecidableEq, Repr

abbrev Issues := List Issue

/-- `summarize_errors`: the first five. -/
def summarizeErrors (issues : Issues) : String :=
  joinStrings "; " ((issues.take 5).map fun issue =>
    joinStrings "." issue.loc ++ ": " ++ issue.msg)

/-- What pydantic itself decides about scalars and hypotheses, and `repr`. -/
structure Pydantic where
  dateTime : Json → Except String Time
  formatDateTime : Time → String
  integer : Json → Except String ℤ
  hypotheses : Option Json →
    Except Issues { entries : List Hypothesis // 2 ≤ entries.length ∧ entries.length ≤ 3 }
  dumpHypotheses : List Hypothesis → Json
  assessment : Json.Dict → Except Issues FinalAssessment
  represent : Json → String

/-- A datetime and an integer are read back as they were written. The library's years end, but
a run writes finitely many moments, and on those it agrees with a library without end. -/
structure Pydantic.Faithful (pydantic : Pydantic) : Prop where
  dateTime : ∀ moment, pydantic.dateTime (.str (pydantic.formatDateTime moment)) = .ok moment
  integer : ∀ n, pydantic.integer (.int n) = .ok n

variable (pydantic : Pydantic)

def readString : Json → Except String String
  | .str text => .ok text
  | _ => .error "Input should be a valid string"

def readMetricTemplate : Json → Except String MetricTemplate
  | .str "gateway_error_rate" => .ok .gatewayErrorRate
  | .str "gateway_latency_p95" => .ok .gatewayLatencyP95
  | .str "downstream_timeout_share" => .ok .downstreamTimeoutShare
  | .str "resource_pool_attempts_per_capacity" => .ok .resourcePoolAttemptsPerCapacity
  | _ => .error ("Input should be 'gateway_error_rate', 'gateway_latency_p95', " ++
      "'downstream_timeout_share' or 'resource_pool_attempts_per_capacity'")

def readLogFilter : Json → Except String LogFilter
  | .str "errors_only" => .ok .errorsOnly
  | .str "timeouts_only" => .ok .timeoutsOnly
  | .str "pool_exhaustion" => .ok .poolExhaustion
  | .str "config_reload" => .ok .configReload
  | _ => .error ("Input should be 'errors_only', 'timeouts_only', 'pool_exhaustion' or " ++
      "'config_reload'")

def readTopic : Json → Except String RunbookTopic
  | .str "gateway_errors" => .ok .gatewayErrors
  | .str "gateway_latency" => .ok .gatewayLatency
  | .str "downstream_timeouts" => .ok .downstreamTimeouts
  | .str "resource_pool_pressure" => .ok .resourcePoolPressure
  | .str "recent_config_changes" => .ok .recentConfigChanges
  | _ => .error ("Input should be 'gateway_errors', 'gateway_latency', " ++
      "'downstream_timeouts', 'resource_pool_pressure' or 'recent_config_changes'")

def readToolName (name : String) : Option ToolName :=
  if name = "query_metric" then some .queryMetric
  else if name = "query_logs" then some .queryLogs
  else if name = "list_recent_changes" then some .listRecentChanges
  else if name = "get_topology" then some .getTopology
  else if name = "search_runbooks" then some .searchRunbooks
  else none

/-- `UtcDatetime | None`. -/
def readWindow : Json → Except String (Option Time)
  | .null => .ok none
  | value => (pydantic.dateTime value).map some

/-- An integer field with `ge` and `le`. -/
def readBounded (low high : ℤ) (value : Json) :
    Except String { n : ℤ // low ≤ n ∧ n ≤ high } :=
  match pydantic.integer value with
  | .error msg => .error msg
  | .ok n =>
      if hlow : low ≤ n then
        if hhigh : n ≤ high then .ok ⟨n, hlow, hhigh⟩
        else .error ("Input should be less than or equal to " ++ toString high)
      else .error ("Input should be greater than or equal to " ++ toString low)

/-- One field of a model: read, defaulted, or missing. -/
def readField {α : Type} (prefixed : List String) (entries : Json.Dict) (key : String)
    (fallback : Option α) (read : Json → Except String α) : Except Issue α :=
  match Json.get entries key with
  | some value => (read value).mapError fun msg => ⟨prefixed ++ [key], msg⟩
  | none =>
      match fallback with
      | some value => .ok value
      | none => .error ⟨prefixed ++ [key], "Field required"⟩

def issue {α : Type} : Except Issue α → Issues
  | .ok _ => []
  | .error one => [one]

/-- `extra="forbid"`. -/
def extraIssues (prefixed : List String) (known : List String) (entries : Json.Dict) : Issues :=
  (entries.filter fun entry => !known.contains entry.1).map fun entry =>
    ⟨prefixed ++ [entry.1], "Extra inputs are not permitted"⟩

end Validation

section Arguments

/-- The fields of each arguments class, the discriminator first. -/
def argumentFields : ToolName → List String
  | .queryMetric => ["tool", "template", "service", "window_start", "window_end"]
  | .queryLogs => ["tool", "log_filter", "service", "window_start", "window_end", "row_limit"]
  | .listRecentChanges => ["tool", "service", "window_start", "window_end"]
  | .getTopology => ["tool", "incident_id"]
  | .searchRunbooks => ["tool", "topic", "limit"]

variable (pydantic : Pydantic)

def validateMetric (loc : List String) (entries : Json.Dict) :
    Except Issues QueryMetricArguments :=
  let extras := extraIssues loc (argumentFields .queryMetric) entries
  match readField loc entries "template" none readMetricTemplate,
    readField loc entries "service" none readString,
    readField loc entries "window_start" (some none) (readWindow pydantic),
    readField loc entries "window_end" (some none) (readWindow pydantic), extras with
  | .ok template, .ok service, .ok start, .ok stop, [] => .ok ⟨template, service, start, stop⟩
  | template, service, start, stop, extras =>
      .error (issue template ++ issue service ++ issue start ++ issue stop ++ extras)

def validateLogs (loc : List String) (entries : Json.Dict) : Except Issues QueryLogsArguments :=
  let extras := extraIssues loc (argumentFields .queryLogs) entries
  match readField loc entries "log_filter" none readLogFilter,
    readField loc entries "service" none readString,
    readField loc entries "window_start" (some none) (readWindow pydantic),
    readField loc entries "window_end" (some none) (readWindow pydantic),
    readField loc entries "row_limit" none (readBounded pydantic 1 200), extras with
  | .ok logFilter, .ok service, .ok start, .ok stop, .ok rowLimit, [] =>
      .ok ⟨logFilter, service, start, stop, rowLimit⟩
  | logFilter, service, start, stop, rowLimit, extras =>
      .error (issue logFilter ++ issue service ++ issue start ++ issue stop ++
        issue rowLimit ++ extras)

def validateChanges (loc : List String) (entries : Json.Dict) :
    Except Issues ListRecentChangesArguments :=
  let extras := extraIssues loc (argumentFields .listRecentChanges) entries
  match readField loc entries "service" none readString,
    readField loc entries "window_start" (some none) (readWindow pydantic),
    readField loc entries "window_end" (some none) (readWindow pydantic), extras with
  | .ok service, .ok start, .ok stop, [] => .ok ⟨service, start, stop⟩
  | service, start, stop, extras => .error (issue service ++ issue start ++ issue stop ++ extras)

def validateTopology (loc : List String) (entries : Json.Dict) :
    Except Issues GetTopologyArguments :=
  let extras := extraIssues loc (argumentFields .getTopology) entries
  match readField loc entries "incident_id" none readString, extras with
  | .ok incidentId, [] => .ok ⟨incidentId⟩
  | incidentId, extras => .error (issue incidentId ++ extras)

def validateSearch (loc : List String) (entries : Json.Dict) :
    Except Issues SearchRunbooksArguments :=
  let extras := extraIssues loc (argumentFields .searchRunbooks) entries
  match readField loc entries "topic" none readTopic,
    readField loc entries "limit" none (readBounded pydantic 1 20), extras with
  | .ok topic, .ok limit, [] => .ok ⟨topic, limit⟩
  | topic, limit, extras => .error (issue topic ++ issue limit ++ extras)

/-- The tags of `ToolArguments`, as pydantic lists them. -/
def expectedTags : String :=
  joinStrings ", " ["<ToolName.QUERY_METRIC: 'query_metric'>",
    "<ToolName.QUERY_LOGS: 'query_logs'>",
    "<ToolName.LIST_RECENT_CHANGES: 'list_recent_changes'>",
    "<ToolName.GET_TOPOLOGY: 'get_topology'>", "<ToolName.SEARCH_RUNBOOKS: 'search_runbooks'>"]

def unexpectedTag (tag : String) : String :=
  "Input tag '" ++ tag ++ "' found using 'tool' does not match any of the expected tags: " ++
    expectedTags

/-- `arguments_adapter.validate_python`: the union told apart by `tool`. -/
def validateArguments (loc : List String) (entries : Json.Dict) : Except Issues ToolArguments :=
  match Json.get entries "tool" with
  | some (.str name) =>
      match readToolName name with
      | some .queryMetric =>
          (validateMetric pydantic (loc ++ [name]) entries).map .queryMetric
      | some .queryLogs => (validateLogs pydantic (loc ++ [name]) entries).map .queryLogs
      | some .listRecentChanges =>
          (validateChanges pydantic (loc ++ [name]) entries).map .listRecentChanges
      | some .getTopology => (validateTopology (loc ++ [name]) entries).map .getTopology
      | some .searchRunbooks =>
          (validateSearch pydantic (loc ++ [name]) entries).map .searchRunbooks
      | none => .error [⟨loc, unexpectedTag name⟩]
  | some value => .error [⟨loc, unexpectedTag (pydantic.represent value)⟩]
  | none => .error [⟨loc, "Unable to extract tag using discriminator 'tool'"⟩]

def dumpWindow : Option Time → Json
  | none => .null
  | some moment => .str (pydantic.formatDateTime moment)

/-- `arguments.model_dump(mode="json")`: the fields in declaration order. -/
def dumpArguments : ToolArguments → Json.Dict
  | .queryMetric a =>
      [("tool", .str "query_metric"), ("template", .str a.template.value),
        ("service", .str a.service), ("window_start", dumpWindow pydantic a.windowStart),
        ("window_end", dumpWindow pydantic a.windowEnd)]
  | .queryLogs a =>
      [("tool", .str "query_logs"), ("log_filter", .str a.logFilter.value),
        ("service", .str a.service), ("window_start", dumpWindow pydantic a.windowStart),
        ("window_end", dumpWindow pydantic a.windowEnd), ("row_limit", .int a.rowLimit)]
  | .listRecentChanges a =>
      [("tool", .str "list_recent_changes"), ("service", .str a.service),
        ("window_start", dumpWindow pydantic a.windowStart),
        ("window_end", dumpWindow pydantic a.windowEnd)]
  | .getTopology a => [("tool", .str "get_topology"), ("incident_id", .str a.incidentId)]
  | .searchRunbooks a =>
      [("tool", .str "search_runbooks"), ("topic", .str a.topic.value), ("limit", .int a.limit)]

end Arguments

section Proposals

variable (pydantic : Pydantic)

/-- A string field with `max_length`. -/
def readText (bound : ℕ) (value : Json) : Except String { text : String // text.length ≤ bound } :=
  match readString value with
  | .error msg => .error msg
  | .ok text =>
      if h : text.length ≤ bound then .ok ⟨text, h⟩
      else .error ("String should have at most " ++ toString bound ++ " characters")

/-- `ToolProposal.model_validate` of a JSON object. -/
def validateProposal (loc : List String) (entries : Json.Dict) : Except Issues ToolProposal :=
  let arguments : Except Issues ToolArguments :=
    match Json.get entries "arguments" with
    | some (.obj fields) => validateArguments pydantic (loc ++ ["arguments"]) fields
    | some _ => .error [⟨loc ++ ["arguments"],
        "Input should be a valid dictionary or object to extract fields from"⟩]
    | none => .error [⟨loc ++ ["arguments"], "Field required"⟩]
  let gap := readField loc entries "evidence_gap" none (readText 300)
  let observation := readField loc entries "expected_observation" none (readText 300)
  match arguments, gap, observation with
  | .ok arguments, .ok gap, .ok observation =>
      .ok ⟨arguments, gap.1, observation.1, gap.2, observation.2⟩
  | .error issues, gap, observation => .error (issues ++ issue gap ++ issue observation)
  | .ok _, gap, observation => .error (issue gap ++ issue observation)

/-- `proposal.model_dump(mode="json")`. -/
def dumpProposal (proposal : ToolProposal) : Json.Dict :=
  [("arguments", .obj (dumpArguments pydantic proposal.arguments)),
    ("evidence_gap", .str proposal.evidenceGap),
    ("expected_observation", .str proposal.expectedObservation)]

structure NativeToolCall where
  name : String
  args : Json.Dict
  id : String
  deriving Repr

def selectSingleToolCall : List NativeToolCall → Option NativeToolCall
  | [call] => some call
  | _ => none

def siblingKeys : List String := ["evidence_gap", "expected_observation", "hypotheses"]

/-- `_ToolProposal(...)` once the arguments are typed. -/
def finishProposal (arguments : ToolArguments) (gap observation : String) :
    Except String ToolProposal :=
  if hgap : gap.length ≤ 300 then
    if hobservation : observation.length ≤ 300 then
      .ok ⟨arguments, gap, observation, hgap, hobservation⟩
    else .error (summarizeErrors
      [⟨["expected_observation"], "String should have at most 300 characters"⟩])
  else if observation.length ≤ 300 then
    .error (summarizeErrors [⟨["evidence_gap"], "String should have at most 300 characters"⟩])
  else .error (summarizeErrors
    [⟨["evidence_gap"], "String should have at most 300 characters"⟩,
      ⟨["expected_observation"], "String should have at most 300 characters"⟩])

def parseToolCall (call : NativeToolCall) : Except String ToolProposal :=
  match readToolName call.name with
  | none => .error ("unknown registered tool name " ++ pydantic.represent (.str call.name))
  | some declaredName =>
      match Json.get call.args "tool" with
      | some (.str declaredTool) =>
          if declaredTool ≠ declaredName.value then
            .error ("the tool call's name " ++ pydantic.represent (.str call.name) ++
              " does not match its arguments' declared tool " ++
              pydantic.represent (.str declaredTool))
          else finish declaredName
      | some _ => .error "tool must be a string when present"
      | none => finish declaredName
where
  finish (declaredName : ToolName) : Except String ToolProposal :=
    let argumentValues := Json.set
      (call.args.filter fun entry => !siblingKeys.contains entry.1)
      "tool" (.str declaredName.value)
    match validateArguments pydantic [] argumentValues with
    | .error issues => .error (summarizeErrors issues)
    | .ok arguments =>
        match Json.get call.args "evidence_gap", Json.get call.args "expected_observation" with
        | some (.str gap), some (.str observation) => finishProposal arguments gap observation
        | _, _ => .error "evidence_gap and expected_observation must both be present strings"

def toToolCall (proposal : ToolProposal) (callId : String) : NativeToolCall where
  name := proposal.tool.value
  args := dumpArguments pydantic proposal.arguments ++
    [("evidence_gap", .str proposal.evidenceGap),
      ("expected_observation", .str proposal.expectedObservation)]
  id := callId

end Proposals

end CausalOps.Investigation
