import Mathlib.Data.List.Dedup
import CausalOps.Library.Loaded
import CausalOps.Investigation.Domain

set_option autoImplicit false

/-! The four diagnostic backends: what they read from the files of a run and from
Prometheus, how a result is trimmed to the byte bound, and the outcome they report. -/

namespace CausalOps.Telemetry

open Loaded
open CausalOps.Investigation (ToolOutcome EvidenceKind ReasonCode LogFilter MetricTemplate)

section Reading

/-- How `json.loads` fails: as `JSONDecodeError`, as another `ValueError`, or as
`RecursionError`. -/
inductive LoadsError where
  | decode
  | value
  | recursion
  deriving DecidableEq, Repr

inductive Raised where
  | osError
  | httpException
  | unicodeDecodeError
  | valueError
  | recursionError
  | validationError
  | assertionError
  deriving DecidableEq, Repr

/-- What `datetime.fromisoformat` returns, in microseconds from the epoch when aware. -/
inductive Stamp where
  | naive
  | aware (moment : ℤ)

/-- The parts of Python's library, of the file system and of pydantic that the checks call.
`loadsFinite` is `json.loads` with the two hooks that refuse what is not finite, `nameFits` says
that `stat` takes a file of this name (`ENAMETOOLONG` otherwise), and `encodable` that
`json.dumps` reaches the bottom of a value that stands in a payload. -/
structure Runtime where
  loads : Text → Except LoadsError Value
  loadsFinite : Text → Except LoadsError Value
  fromisoformat : Text → Option Stamp
  floatOfText : Text → Option Number
  floatOfInt : ℤ → Option Double
  isoformat : ℤ → Text
  nameFits : Text → Bool
  encodable : Value → Bool
  accepts : Value → Bool
  isoformatEncodes : ∀ moment, encodes (isoformat moment) = true
  acceptsBool : ∀ value, accepts (.bool value) = true
  acceptsInt : ∀ value, accepts (.int value) = true
  acceptsDouble : ∀ double, accepts (.float (.finite double)) = true
  acceptsText : ∀ t, accepts (.str t) = encodes t
  acceptsItems : ∀ items, accepts (.arr items) = true → ∀ item ∈ items, accepts item = true
  acceptsEntries : ∀ entries, accepts (.obj entries) = true →
    ∀ entry ∈ entries, encodes entry.1 = true ∧ accepts entry.2 = true
  /-- Samples nest twice, which no limit forbids. -/
  acceptsSamples : ∀ samples : List (Double × Double),
    accepts (.arr (samples.map fun sample =>
      .arr [.float (.finite sample.1), .float (.finite sample.2)])) = true
  encodableSamples : ∀ samples : List (Double × Double),
    encodable (.arr (samples.map fun sample =>
      .arr [.float (.finite sample.1), .float (.finite sample.2)])) = true
  encodableFlat : ∀ value, value.isFlat = true → encodable value = true
  encodableSuffix : ∀ kept items, kept <:+ items → encodable (.arr items) = true →
    encodable (.arr kept) = true
  /-- `sys.maxsize`. -/
  loadsSized : ∀ t value, loads t = .ok value → sized value = true

abbrev Bytes := List UInt8

def continues (b : UInt8) : Bool := 0x80 ≤ b && b ≤ 0xBF

/-- The second byte that a first byte of three allows: no overlong form, no surrogate. -/
def secondOfThree (a b : UInt8) : Bool :=
  if a = 0xE0 then 0xA0 ≤ b && b ≤ 0xBF
  else if a = 0xED then 0x80 ≤ b && b ≤ 0x9F
  else 0xE1 ≤ a && a ≤ 0xEF && continues b

def secondOfFour (a b : UInt8) : Bool :=
  if a = 0xF0 then 0x90 ≤ b && b ≤ 0xBF
  else if a = 0xF4 then 0x80 ≤ b && b ≤ 0x8F
  else 0xF1 ≤ a && a ≤ 0xF3 && continues b

/-- The code points of a byte string, or nothing when it is not UTF-8. -/
def decodeUtf8 : Bytes → Option Text
  | [] => some []
  | a :: rest =>
      if a < 0x80 then (decodeUtf8 rest).map fun t => a.toNat :: t
      else
        match rest with
        | [] => none
        | b :: rest =>
            if 0xC2 ≤ a && a ≤ 0xDF && continues b then
              (decodeUtf8 rest).map fun t => ((a.toNat - 0xC0) * 64 + (b.toNat - 0x80)) :: t
            else
              match rest with
              | [] => none
              | c :: rest =>
                  if secondOfThree a b && continues c then
                    (decodeUtf8 rest).map fun t =>
                      ((a.toNat - 0xE0) * 4096 + (b.toNat - 0x80) * 64 + (c.toNat - 0x80)) :: t
                  else
                    match rest with
                    | [] => none
                    | d :: rest =>
                        if secondOfFour a b && continues c && continues d then
                          (decodeUtf8 rest).map fun t =>
                            ((a.toNat - 0xF0) * 262144 + (b.toNat - 0x80) * 4096 +
                              (c.toNat - 0x80) * 64 + (d.toNat - 0x80)) :: t
                        else none

/-- The lines of a file read as bytes, each with its newline. -/
def lines : Bytes → List Bytes
  | [] => []
  | b :: rest =>
      if b = 10 then [b] :: lines rest
      else
        match lines rest with
        | [] => [[b]]
        | line :: more => (b :: line) :: more

/-- `read_text` reads `\r\n` and `\r` as `\n`. -/
def universalNewlines : Text → Text
  | [] => []
  | 13 :: 10 :: rest => 10 :: universalNewlines rest
  | 13 :: rest => 10 :: universalNewlines rest
  | c :: rest => c :: universalNewlines rest

variable (r : Runtime)

/-- `read_json_file`: a file that cannot be read is `none`. -/
def readJsonFile (file : Option Bytes) : Except Raised (Option Value) :=
  match file with
  | none => .ok none
  | some bytes =>
      match decodeUtf8 bytes with
      | none => .ok none
      | some t =>
          match r.loadsFinite (universalNewlines t) with
          | .ok value => .ok (some value)
          | .error .recursion => .error .recursionError
          | .error _ => .ok none

def readJsonLine (line : Text) : Except Raised (Option Dict) :=
  match r.loadsFinite line with
  | .ok (.obj record) => .ok (some record)
  | .ok _ => .ok none
  | .error .recursion => .error .recursionError
  | .error _ => .ok none

/-- `record.get(key) == text`. -/
def holds (record : Dict) (key value : Text) : Bool :=
  match get record key with
  | some (.str t) => t = value
  | _ => false

def matchesFilter (logFilter : LogFilter) (record : Dict) : Bool :=
  match logFilter with
  | .errorsOnly => holds record (text "severity") (text "error")
  | .timeoutsOnly => holds record (text "event") (text "upstream_timeout")
  | .poolExhaustion => holds record (text "event") (text "pool_exhausted")
  | .configReload =>
      holds record (text "event") (text "config_loaded") ||
        holds record (text "event") (text "config_rejected_request")

def momentOf (record : Dict) : Option ℤ :=
  match get record (text "at") with
  | some (.str moment) =>
      match r.fromisoformat moment with
      | some (.aware observed) => some observed
      | _ => none
  | _ => none

/-- The `at` of a record is a string that `within_window` accepts. -/
def withinWindow (record : Dict) (start stop : ℤ) : Bool :=
  match momentOf r record with
  | some observed => start ≤ observed && observed ≤ stop
  | none => false

end Reading

section Trimming

def maxResultBytes : ℕ := 12 * 1024

def fits (payload : Dict) : Bool := size (.obj payload) ≤ maxResultBytes

def textLength : Value → ℕ
  | .str t => t.length
  | _ => 0

/-- The first of the longest non-empty strings of a payload. -/
def widest : Dict → Option (Text × Text)
  | [] => none
  | (key, .str t) :: rest =>
      match widest rest with
      | some (other, longer) =>
          if t.length < longer.length then some (other, longer) else some (key, t)
      | none => if t = [] then none else some (key, t)
  | _ :: rest => widest rest

def textWeight (payload : Dict) : ℕ := (payload.map fun entry => textLength entry.2).sum

/-- Halve the widest string until the payload fits or holds no text. -/
def shrink : ℕ → Dict → Dict
  | 0, payload => payload
  | fuel + 1, payload =>
      if fits payload then payload
      else
        match widest payload with
        | none => payload
        | some (key, t) =>
            shrink fuel (set (set payload key (.str (t.take (t.length / 2))))
              (text "truncated") (.bool true))

def withRows (payload : Dict) (rowsKey countKey : Text) (rows : List Value) : Dict :=
  set (set payload rowsKey (.arr rows)) countKey (.int rows.length)

/-- Drop rows from the front until the payload fits or no row is left. -/
def dropRows (payload : Dict) (rowsKey countKey : Text) : List Value → Dict
  | [] => withRows payload rowsKey countKey []
  | row :: rest =>
      if fits (withRows payload rowsKey countKey (row :: rest)) then
        withRows payload rowsKey countKey (row :: rest)
      else dropRows (set payload (text "truncated") (.bool true)) rowsKey countKey rest

/-- `trim_to_bytes`. The first dump holds every row and every other value, so one that nests
too deeply for it raises there. -/
def trimToBytes (r : Runtime) (payload : Dict) (rowsKey countKey : Text) (rows : List Value) :
    Except Raised Dict :=
  if (withRows payload rowsKey countKey rows).all fun entry => r.encodable entry.2 then
    let dropped := dropRows payload rowsKey countKey rows
    .ok (shrink (textWeight dropped) dropped)
  else .error .recursionError

def rowsOf (payload : Dict) (key : Text) : List Value :=
  match get payload key with
  | some (.arr rows) => rows
  | _ => []

def countOf (payload : Dict) (key : Text) : ℤ :=
  match get payload key with
  | some (.int n) => n
  | _ => 0

def isTruncated (payload : Dict) : Bool :=
  match get payload (text "truncated") with
  | some (.bool value) => value
  | _ => false

def textOf (payload : Dict) (key : Text) : Text :=
  match get payload key with
  | some (.str t) => t
  | _ => []

end Trimming

section Outcomes

structure CheckOutcome where
  outcome : ToolOutcome
  kind : EvidenceKind
  source : Text
  summary : Text
  payload : Dict
  reasonCode : Option ReasonCode
  durationMs : ℤ

/-- The model validates what it is built from: its strings must be encodable. -/
def checkOutcome (r : Runtime) (outcome : CheckOutcome) : Except Raised CheckOutcome :=
  if encodes outcome.source && encodes outcome.summary &&
      outcome.payload.all (fun entry => encodes entry.1 && r.accepts entry.2) then
    .ok outcome
  else .error .validationError

def failedCheck (r : Runtime) (kind : EvidenceKind) (source : Text) (outcome : ToolOutcome)
    (reason : ReasonCode) (note : Text) : Except Raised CheckOutcome :=
  checkOutcome r ⟨outcome, kind, source, note, [], some reason, 0⟩

def executedCheck (r : Runtime) (kind : EvidenceKind) (source summary : Text) (payload : Dict)
    (durationMs : ℤ) : Except Raised CheckOutcome :=
  checkOutcome r ⟨.executed, kind, source, summary, payload, none, durationMs⟩

end Outcomes

section Logs

variable (r : Runtime)

/-- Arguments that the wrapper has resolved: both bounds of the window are given, and the
service passed the validation of the model. -/
structure LogArguments where
  logFilter : LogFilter
  service : Text
  windowStart : ℤ
  windowEnd : ℤ
  rowLimit : ℕ
  serviceEncodes : encodes service = true

def maxLogRows : ℕ := 40

def logRow (arguments : LogArguments) (line : Bytes) : Except Raised (Option Value) :=
  match decodeUtf8 line with
  | none => .ok none
  | some t =>
      match readJsonLine r t with
      | .error raised => .error raised
      | .ok none => .ok none
      | .ok (some record) =>
          if matchesFilter arguments.logFilter record &&
              withinWindow r record arguments.windowStart arguments.windowEnd then
            .ok (some (.obj record))
          else .ok none

def logRows (arguments : LogArguments) : List Bytes → Except Raised (List Value)
  | [] => .ok []
  | line :: rest =>
      match logRow r arguments line with
      | .error raised => .error raised
      | .ok none => logRows arguments rest
      | .ok (some row) =>
          match logRows arguments rest with
          | .error raised => .error raised
          | .ok rows => .ok (row :: rows)

/-- A `deque` of at most `limit` rows keeps the newest. -/
def newest (limit : ℕ) {α : Type} (rows : List α) : List α := rows.drop (rows.length - limit)

def textsOf (key : Text) (rows : List Value) : List Text :=
  rows.filterMap fun row =>
    match row with
    | .obj record =>
        match get record key with
        | some (.str t) => some t
        | _ => none
    | _ => none

/-- `",".join(sorted(set(...)))` of the events of the rows. -/
def eventCodes (rows : List Value) : Text :=
  List.intercalate (text ",")
    ((textsOf (text "event") rows).dedup.mergeSort fun a b => decide (a ≤ b))

def logPayload (arguments : LogArguments) (rows : List Value) (matched : ℕ) : Dict :=
  [(text "filter", .str (text arguments.logFilter.value)), (text "service", .str arguments.service),
    (text "row_count", .int rows.length), (text "event_codes", .str []),
    (text "truncated", .bool (decide (rows.length < matched)))]

def keptNote (payload : Dict) (countKey : Text) (matched : ℕ) : Text :=
  if isTruncated payload then
    text " (kept the newest " ++ decimalInt (countOf payload countKey) ++ text " of " ++
      decimal matched ++ text ")"
  else []

def logSummary (arguments : LogArguments) (payload : Dict) (matched : ℕ) : Text :=
  let codes := textOf payload (text "event_codes")
  text arguments.logFilter.value ++ text " on " ++ arguments.service ++ text ": " ++
    decimalInt (countOf payload (text "row_count")) ++ text " rows, events " ++
    (if codes = [] then text "none" else codes) ++ keptNote payload (text "row_count") matched

/-- The name of the file below `logs`. -/
def logFileName (arguments : LogArguments) : Text := arguments.service ++ text ".jsonl"

/-- `is_file` takes a missing file for none, but not one whose name is too long. -/
def runLogsCheck (arguments : LogArguments) (file : Option Bytes) (durationMs : ℤ) :
    Except Raised CheckOutcome :=
  if !r.nameFits (logFileName arguments) then .error .osError
  else
    match file with
    | none =>
        failedCheck r .log (text "query_logs") .unavailable .toolUnavailable
          (text "no log for " ++ arguments.service ++ text " in this run")
    | some bytes =>
        match logRows r arguments (lines bytes) with
        | .error raised => .error raised
        | .ok matched =>
            let rows := newest (min arguments.rowLimit maxLogRows) matched
            match trimToBytes r (logPayload arguments rows matched.length) (text "rows")
                (text "row_count") rows with
            | .error raised => .error raised
            | .ok trimmed =>
                let payload := set trimmed (text "event_codes")
                  (.str (eventCodes (rowsOf trimmed (text "rows"))))
                executedCheck r .log (text "query_logs")
                  (logSummary arguments payload matched.length) payload durationMs

end Logs

section Changes

variable (r : Runtime)

structure ChangeArguments where
  service : Text
  windowStart : ℤ
  windowEnd : ℤ
  serviceEncodes : encodes service = true

def isChange (arguments : ChangeArguments) (entry : Value) : Bool :=
  match entry with
  | .obj record =>
      holds record (text "service") arguments.service &&
        withinWindow r record arguments.windowStart arguments.windowEnd
  | _ => false

def changeMoment (entry : Value) : ℤ :=
  match entry with
  | .obj record => (momentOf r record).getD 0
  | _ => 0

def joined (texts : List Text) : Text := List.intercalate (text "; ") texts

def changePayload (arguments : ChangeArguments) (changes : List Value) (summaries : Text) : Dict :=
  [(text "service", .str arguments.service), (text "change_count", .int changes.length),
    (text "summaries", .str summaries), (text "truncated", .bool false)]

/-- The part of the summaries that a summary has room for: their tail, marked. -/
def changeContent (summaries : Text) (budget : ℤ) : Text :=
  if budget ≤ 0 then []
  else if summaries.length ≤ budget then summaries
  else if 0 < budget - 3 then
    text "..." ++ summaries.drop (summaries.length - (budget - 3).toNat)
  else []

def changeSummary (arguments : ChangeArguments) (payload : Dict) (matched : ℕ) : Text :=
  let heading := decimalInt (countOf payload (text "change_count")) ++
    text " recent changes on " ++ arguments.service ++
    keptNote payload (text "change_count") matched
  let content := changeContent (textOf payload (text "summaries")) (400 - heading.length - 2)
  let summary := heading ++ (if content = [] then [] else text ": " ++ content)
  if 400 < summary.length then summary.take 397 ++ text "..." else summary

def runChangesCheck (arguments : ChangeArguments) (file : Option Bytes) (durationMs : ℤ) :
    Except Raised CheckOutcome :=
  match readJsonFile r file with
  | .error raised => .error raised
  | .ok (some (.arr loaded)) =>
      let found := loaded.filter (isChange r arguments)
      let changes := found.mergeSort fun a b => decide (changeMoment r a ≤ changeMoment r b)
      let summaries := joined (textsOf (text "summary") found)
      match trimToBytes r (changePayload arguments changes summaries) (text "changes")
          (text "change_count") changes with
      | .error raised => .error raised
      | .ok trimmed =>
          let payload := set trimmed (text "summaries")
            (.str (joined (textsOf (text "summary") (rowsOf trimmed (text "changes")))))
          if fits payload then
            executedCheck r .change (text "list_recent_changes")
              (changeSummary arguments payload changes.length) payload durationMs
          else .error .assertionError
  | .ok _ =>
      failedCheck r .change (text "list_recent_changes") .unavailable .toolUnavailable
        (text "this run records no changes")

end Changes

section Topology

variable (r : Runtime)

def listOf (record : Dict) (key : Text) : List Value :=
  match get record key with
  | some (.arr items) => items
  | _ => []

def topologyPayload (services edges : List Value) : Dict :=
  [(text "services", .arr services), (text "service_count", .int services.length),
    (text "edges", .arr edges), (text "edge_count", .int edges.length),
    (text "truncated", .bool false)]

def topologySummary (payload : Dict) : Text :=
  decimalInt (countOf payload (text "edge_count")) ++ text " service edges in this incident" ++
    (if isTruncated payload then text " (truncated)" else [])

def runTopologyCheck (file : Option Bytes) (durationMs : ℤ) : Except Raised CheckOutcome :=
  match readJsonFile r file with
  | .error raised => .error raised
  | .ok (some (.obj loaded)) =>
      let edges := listOf loaded (text "edges")
      let services := listOf loaded (text "services")
      match trimToBytes r (topologyPayload services edges) (text "edges") (text "edge_count")
          edges with
      | .error raised => .error raised
      | .ok first =>
          match trimToBytes r first (text "services") (text "service_count") services with
          | .error raised => .error raised
          | .ok payload =>
              if fits payload then
                executedCheck r .topology (text "get_topology") (topologySummary payload) payload
                  durationMs
              else .error .assertionError
  | .ok _ =>
      failedCheck r .topology (text "get_topology") .unavailable .toolUnavailable
        (text "this run records no topology")

end Topology

section Metrics

variable (r : Runtime)

/-- The moments of a `datetime`, in the years 1 to 9999. -/
def isMoment (moment : ℤ) : Bool :=
  -62135596800000000 ≤ moment && moment < 253402300800000000

structure MetricArguments where
  template : MetricTemplate
  service : Text
  windowStart : ℤ
  windowEnd : ℤ
  startIsMoment : isMoment windowStart = true
  endIsMoment : isMoment windowEnd = true

/-- What the request for a range query comes to. `brokenOff` is an answer that is no HTTP or
ends before its announced length: an `HTTPException`, which is no `OSError`. -/
inductive Response where
  | timedOut
  | unreachable
  | brokenOff
  | body (bytes : Bytes)

def isLower (c : ℕ) : Bool := 97 ≤ c && c ≤ 122

/-- `^[a-z][a-z0-9-]{0,30}$`, where `$` also stands before a last newline. -/
def safeServiceName (service : Text) : Bool :=
  let name := if service.getLast? = some 10 then service.dropLast else service
  match name with
  | [] => false
  | first :: rest =>
      isLower first && rest.length ≤ 30 &&
        rest.all fun c => isLower c || (48 ≤ c && c ≤ 57) || c == 45

def labels (service incident : Text) : Text :=
  text "service=\"" ++ service ++ text "\",incident=\"" ++ incident ++ text "\""

/-- `METRIC_QUERIES[template].format(...)`. -/
def metricQuery (template : MetricTemplate) (service incident : Text) : Text :=
  match template with
  | .gatewayErrorRate =>
      text "sum(rate(causalops_requests_total\x7b" ++ labels service incident ++
        text ",outcome=\"error\"\x7d[30s]))"
  | .gatewayLatencyP95 =>
      text "histogram_quantile(0.95, sum by (le) (rate(" ++
        text "causalops_request_latency_seconds_bucket\x7b" ++ labels service incident ++
        text "\x7d[1m])))"
  | .downstreamTimeoutShare =>
      text "sum(rate(causalops_requests_total\x7b" ++ labels service incident ++
        text ",outcome=\"timeout\"\x7d[30s])) / " ++
        text "sum(rate(causalops_requests_total\x7b" ++ labels service incident ++
        text "\x7d[30s]))"
  | .resourcePoolAttemptsPerCapacity =>
      text "max(causalops_pool_attempts_per_capacity\x7b" ++ labels service incident ++
        text "\x7d)"

def readNumber (value : Value) : Option Number :=
  match value with
  | .bool b => (r.floatOfInt (if b then 1 else 0)).map .finite
  | .int n => (r.floatOfInt n).map .finite
  | .float number => some number
  | _ => none

/-- `read_sample`: a pair of finite numbers, the second perhaps as a text. -/
def readSample (pair : Value) : Option (Double × Double) :=
  match pair with
  | .arr [moment, reading] =>
      let value :=
        match reading with
        | .str t => r.floatOfText t
        | other => readNumber r other
      match readNumber r moment, value with
      | some (.finite moment), some (.finite reading) => some (moment, reading)
      | _, _ => none
  | _ => none

structure ParsedSamples where
  samples : List (Double × Double)
  rawCount : ℕ
  seriesCount : ℕ

def parseSamples (answered : Value) : Option ParsedSamples :=
  match answered with
  | .obj answer =>
      if holds answer (text "status") (text "success") then
        match get answer (text "data") with
        | some (.obj data) =>
            match get data (text "result") with
            | some (.arr []) => some ⟨[], 0, 0⟩
            | some (.arr (.obj first :: others)) =>
                match get first (text "values") with
                | some (.arr values) =>
                    some ⟨values.filterMap (readSample r), values.length, others.length + 1⟩
                | _ => some ⟨[], 0, others.length + 1⟩
            | _ => none
        | _ => none
      else none
  | _ => none

/-- `query_prometheus`, its answer once the bytes are there: `none` is what
`JSONDecodeError` and an unreadable shape lead to. -/
def queryPrometheus (bytes : Bytes) : Except Raised (Option ParsedSamples) :=
  match decodeUtf8 bytes with
  | none => .error .unicodeDecodeError
  | some t =>
      match r.loads t with
      | .ok answered => .ok (parseSamples r answered)
      | .error .decode => .ok none
      | .error .value => .error .valueError
      | .error .recursion => .error .recursionError

def metricStepMicroseconds : ℤ := 15000000

def gridSteps (arguments : MetricArguments) : ℤ :=
  (arguments.windowEnd - arguments.windowStart) / metricStepMicroseconds

def alignedStart (arguments : MetricArguments) : ℤ :=
  arguments.windowEnd - gridSteps arguments * metricStepMicroseconds

inductive MetricSampleStatus where
  | multipleSeries
  | noReturnedSeries
  | noUsableSamples
  | allReadingsDiscarded
  | sampled
  deriving DecidableEq, Repr

def MetricSampleStatus.value : MetricSampleStatus → String
  | .multipleSeries => "MULTIPLE_SERIES"
  | .noReturnedSeries => "NO_RETURNED_SERIES"
  | .noUsableSamples => "NO_USABLE_SAMPLES"
  | .allReadingsDiscarded => "ALL_READINGS_DISCARDED"
  | .sampled => "SAMPLED"

def sampleStatus (parsed : ParsedSamples) : MetricSampleStatus :=
  if 1 < parsed.seriesCount then .multipleSeries
  else if parsed.seriesCount = 0 then .noReturnedSeries
  else if parsed.rawCount = 0 then .noUsableSamples
  else if parsed.samples = [] then .allReadingsDiscarded
  else .sampled

def zero : Double := ⟨0, text "0.0", by decide, by decide, by decide⟩

/-- `max(..., default=0.0)`, the first of equal readings. -/
def peak : List Double → Double
  | [] => zero
  | first :: rest => rest.foldl (fun best d => if best.value < d.value then d else best) first

def maxMetricSamples : ℕ := 60

def sampleRow (sample : Double × Double) : Value :=
  .arr [.float (.finite sample.1), .float (.finite sample.2)]

def metricPayload (arguments : MetricArguments) (incidentId : Text)
    (parsed : ParsedSamples) (kept : List (Double × Double)) : Dict :=
  [(text "template", .str (text arguments.template.value)),
    (text "service", .str arguments.service), (text "sample_count", .int kept.length),
    (text "max_value", .float (.finite (peak (kept.map Prod.snd)))),
    (text "truncated", .bool (decide (kept.length < parsed.samples.length))),
    (text "readings_discarded", .int (parsed.rawCount - parsed.samples.length : ℤ)),
    (text "status", .str (text (sampleStatus parsed).value)),
    (text "promql", .str (metricQuery arguments.template arguments.service incidentId)),
    (text "query_window_start", .str (r.isoformat (alignedStart arguments))),
    (text "query_window_end", .str (r.isoformat arguments.windowEnd)),
    (text "query_step_seconds", .int 15),
    (text "grid_points", .int (gridSteps arguments + 1))]

/-- The readings of the samples that a payload holds. -/
def readingsOf (payload : Dict) : List Double :=
  (rowsOf payload (text "samples")).filterMap fun row =>
    match row with
    | .arr [_, .float (.finite reading)] => some reading
    | _ => none

def statusNote (parsed : ParsedSamples) : Text :=
  match sampleStatus parsed with
  | .multipleSeries =>
      text " (multiple series returned: showing series 1 of " ++ decimal parsed.seriesCount ++
        text ", others not shown)"
  | .noReturnedSeries => text " (status: no series returned for this query)"
  | .noUsableSamples => text " (status: a series returned but had no usable samples)"
  | .allReadingsDiscarded => text " (status: every returned reading was unreadable)"
  | .sampled => []

def metricSummary (arguments : MetricArguments) (parsed : ParsedSamples) (payload : Dict)
    (highest : Double) : Text :=
  let discarded := countOf payload (text "readings_discarded")
  text arguments.template.value ++ text " for " ++ arguments.service ++ text ": " ++
    decimalInt (countOf payload (text "sample_count")) ++ text " samples, peak " ++
    highest.repr ++ keptNote payload (text "sample_count") parsed.samples.length ++
    (if discarded = 0 then []
      else text " (" ++ decimalInt discarded ++ text " unreadable, discarded)") ++
    statusNote parsed

/-- The incident id has passed the validation of the scope. -/
def runMetricCheck (arguments : MetricArguments) (incidentId : { t : Text // encodes t = true })
    (response : Response) (durationMs : ℤ) : Except Raised CheckOutcome :=
  let source := text "query_metric"
  if !safeServiceName arguments.service then
    failedCheck r .metric source .error .toolError
      (text "that service name cannot be used in a query")
  else
    match response with
    | .timedOut =>
        failedCheck r .metric source .timeout .toolTimeout
          (text "Prometheus did not answer in time")
    | .unreachable =>
        failedCheck r .metric source .unavailable .toolUnavailable
          (text "Prometheus is not reachable")
    | .brokenOff => .error .httpException
    | .body bytes =>
        match queryPrometheus r bytes with
        | .error raised => .error raised
        | .ok none =>
            failedCheck r .metric source .error .toolError
              (text "Prometheus returned something this tool cannot read")
        | .ok (some parsed) =>
            let kept := newest maxMetricSamples parsed.samples
            match trimToBytes r (metricPayload r arguments incidentId.1 parsed kept)
                (text "samples") (text "sample_count") (kept.map sampleRow) with
            | .error raised => .error raised
            | .ok trimmed =>
                let highest := peak (readingsOf trimmed)
                let payload := set trimmed (text "max_value") (.float (.finite highest))
                executedCheck r .metric source (metricSummary arguments parsed payload highest)
                  payload durationMs

end Metrics

section Samples

def labMoment : Text := text "2026-01-01T00:00:00+00:00"

/-- An error whose event is the same letter 400 times. -/
def labRecord : Dict :=
  [(text "at", .str labMoment), (text "severity", .str (text "error")),
    (text "event", .str (List.replicate 400 97))]

def labLine : Text :=
  text "\x7b\"at\":\"" ++ labMoment ++ text "\",\"severity\":\"error\",\"event\":\"" ++
    List.replicate 400 97 ++ text "\"\x7d"

def labRuntime : Runtime where
  loads := fun _ => .error .decode
  loadsFinite := fun t => if t = labLine then .ok (.obj labRecord) else .error .decode
  fromisoformat := fun t => if t = labMoment then some (.aware 1767225600000000) else none
  floatOfText := fun _ => none
  floatOfInt := fun _ => none
  isoformat := fun _ => labMoment
  nameFits := fun name => decide (name.length ≤ 255)
  encodable := fun _ => true
  accepts := validates
  isoformatEncodes := fun _ => by decide
  acceptsBool := fun _ => rfl
  acceptsInt := fun _ => rfl
  acceptsDouble := fun _ => rfl
  acceptsText := fun _ => rfl
  acceptsItems := fun _ h => validates_item h
  acceptsEntries := fun _ h => validates_entry h
  acceptsSamples := fun samples => by
    induction samples with
    | nil => rfl
    | cons sample rest ih => exact ih
  encodableSamples := fun _ => rfl
  encodableFlat := fun _ _ => rfl
  encodableSuffix := fun _ _ _ _ => rfl
  loadsSized := fun _ _ h => by cases h

def labLogArguments : LogArguments where
  logFilter := .errorsOnly
  service := text "orders"
  windowStart := 1767225000000000
  windowEnd := 1767226200000000
  rowLimit := 40
  serviceEncodes := by decide

def labLog : Bytes := labLine.map UInt8.ofNat

end Samples

end CausalOps.Telemetry
