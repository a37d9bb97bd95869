import CausalOps.Cost.Totals
import CausalOps.Evaluation.Summary
import CausalOps.Investigation.Graph
import CausalOps.Library.Replacing

set_option autoImplicit false

/-! `run_evaluation` and the end of `main`, operation by operation: every family with every
seed, both arms of each, one record for each run. The records so far are written again after
each of them. Any operation may raise, and the process may die between any two. -/

namespace CausalOps.Evaluation

open CausalOps.ControlPlane (CheckpointStoreError Uuid)
open CausalOps.Cost (CostLedgerRow Reading ToolDefinitions runCostTotals checkPreflightCost)
open CausalOps.Investigation

section Records

/-- The arms of the comparison, in the order in which they run. -/
inductive Arm where
  | noToolBaseline
  | toolEnabled
  deriving DecidableEq, Repr

def Arm.mode : Arm → String
  | .noToolBaseline => modeNoToolBaseline
  | .toolEnabled => modeToolEnabled

/-- What a line of `records.jsonl` says that the batch or its summary reads. -/
structure StoredRecord extends EvaluationRecord where
  investigationId : String
  incidentId : String
  failureReason : Option ReasonCode
  modelCallsBudget : ℤ
  seedName : String

structure Run where
  incident : String
  seed : String
  arm : Arm
  deriving DecidableEq, Repr

/-- A record, and what a line of it does not say: its run, and the id and model of that. -/
structure Scored where
  record : StoredRecord
  run : Run
  runId : String
  modelName : String

def infrastructureAbortReasons : List ReasonCode :=
  [.costCeilingExceeded, .inputTokenCapExceeded, .ambiguousModelRequest, .wallClockExpired,
    .internalError]

/-- `record.failure_reason in INFRASTRUCTURE_ABORT_REASONS`. -/
def Scored.abort (scored : Scored) : Option ReasonCode :=
  scored.record.failureReason.filter fun reason => decide (reason ∈ infrastructureAbortReasons)

def runIdFromEvents : List RunEvent → Option String
  | [] => none
  | ⟨_, _, .investigationStarted _ runId⟩ :: _ => some runId
  | _ :: rest => runIdFromEvents rest

end Records

section Batch

/-- What an invocation is given: the budgets, the ceiling, the reading of numbers and the tools'
texts for the check before it, and how records and summaries are written as text. -/
structure Setup where
  reading : Reading
  tools : ToolDefinitions
  budgets : Budgets
  ceilingUsd : ℚ
  json : StoredRecord → String
  summaryJson : PairedEvaluationSummary → String

/-- The families with their seeds, in the order of the two loops. -/
def plan : List (String × String) :=
  Cost.evaluationFamilies.flatMap fun family => Cost.evaluationSeeds.map fun seed => (family, seed)

/-- A scenario that `start_scenario` has started. -/
structure Started where
  family : String
  seed : String
  incident : String
  deriving DecidableEq, Repr

inductive LabAct where
  | started (scenario : Started)
  | reset (incident : String)
  deriving DecidableEq, Repr

inductive Failure where
  | preflight (e : CheckpointStoreError)
  | aborted (reason : ReasonCode)
  | unsaved (name : String)
  | raised (name : String)
  deriving DecidableEq

structure Finished where
  result : InvestigationResult
  runId : String
  modelName : String

abbrev Job := Replacing.Job String String

inductive Phase where
  | opening
  | starting
  | loading
  | building (arm : Arm)
  | running (arm : Arm)
  | filing (arm : Arm) (run : Finished)
  | closing (arm : Arm) (result : Except Failure Scored)
  | saving (arm : Arm) (job : Job) (inner : Replacing.Phase Failure)
  | resetting (failed : Option Failure)
  | summarizing
  | savingSummary (job : Job) (inner : Replacing.Phase Failure)
  | ended (result : Except Failure Unit)
  | dead

/-- What an operation meets: an error, with what a failing write has written; or what it
returns. -/
structure Fate where
  error : Option String
  written : Option String
  incident : String
  expected : ExpectedOutcome
  settled : Settled
  events : List RunEvent
  modelName : String
  fresh : Uuid

/-- An invocation: the pairs that are left, the current one first; the scenario that it started
last; its records; its directory; the cost ledger that all runs share; what it has asked of the
lab; and the runs that are over. -/
structure Batch where
  phase : Phase
  todo : List (String × String)
  current : Started
  expected : ExpectedOutcome
  records : List Scored
  files : Replacing.Files String String
  ledger : List CostLedgerRow
  lab : List LabAct
  closed : List String

/-- The lines of `write_jsonl`. -/
def Setup.text (setup : Setup) (records : List Scored) : String :=
  String.join (records.map fun scored => setup.json scored.record ++ "\n")

def temporaryName (name : String) (fresh : Uuid) : String := name ++ ".tmp-" ++ fresh.hex

/-- `write_jsonl(records_path, records)`. -/
def Setup.recordsJob (setup : Setup) (records : List Scored) (fresh : Uuid) : Job :=
  ⟨temporaryName "records.jsonl" fresh, "records.jsonl", setup.text records⟩

/-- `_write_json_atomic(summary_path, summary)`. -/
def Setup.summaryJob (setup : Setup) (summary : PairedEvaluationSummary) (fresh : Uuid) : Job :=
  ⟨temporaryName "summary.json" fresh, "summary.json", setup.summaryJson summary⟩

def Fate.fault (fate : Fate) : Option (Replacing.Fault String Failure) :=
  fate.error.map fun name => ⟨.unsaved name, fate.written⟩

/-- The rows of a ledger that was opened. -/
abbrev StoredLedger := { rows : List CostLedgerRow // Rows.Keyed CostLedgerRow.key rows }

/-- `main` after `_new_evaluation_target`, with the ledger as it stands. -/
def Batch.start (ledger : StoredLedger) : Batch where
  phase := .opening
  todo := plan
  current := ⟨"", "", ""⟩
  expected := ⟨.undetermined, .insufficientEvidence, []⟩
  records := []
  files := fun name => if name = "records.jsonl" then some "" else none
  ledger := ledger.1
  lab := []
  closed := []

def Batch.goto (b : Batch) (phase : Phase) : Batch := { b with phase := phase }

def Batch.next (b : Batch) : Batch :=
  b.goto (match b.todo with
    | [] => .summarizing
    | _ :: _ => .starting)

def runKey (setup : Setup) (incident modelName : String) (arm : Arm) : String :=
  incident ++ "/" ++ modelName ++ "/et" ++ toString setup.budgets.executedTools ++ "/" ++ arm.mode

/-- `reset_scenario(root, incident_id)`. -/
def Batch.resets (b : Batch) : Batch := { b with lab := b.lab ++ [.reset b.current.incident] }

/-- The record that `_run_one` returns, with the costs that the ledger shows. -/
def Batch.record (setup : Setup) (b : Batch) (arm : Arm) (run : Finished) : Scored :=
  let result := run.result
  let cost := runCostTotals b.ledger run.runId
  ⟨{ scorerVersion := "4"
     runKey := runKey setup b.current.incident run.modelName arm
     expected := b.expected
     scores := scoreRun result.report result.evidence result.receipts b.expected
     retrievalMode := result.report.retrievalMode
     reservedUsd := cost.reservedUsd
     actualUsd := if cost.fullySettled then some cost.actualUsd else none
     executedTools := setup.budgets.executedTools
     investigationId := result.report.investigationId
     incidentId := result.report.incidentId
     failureReason := result.report.reasonCode
     modelCallsBudget := setup.budgets.modelCalls
     seedName := b.current.seed },
    ⟨b.current.incident, b.current.seed, arm⟩, run.runId, run.modelName⟩

/-- After the graph has returned: a run that paused, or has no id, raises. -/
def Batch.returned (b : Batch) (arm : Arm) (fate : Fate) : Batch :=
  match fate.settled, runIdFromEvents fate.events with
  | .finished result, some runId =>
      { b with phase := .filing arm ⟨result, runId, fate.modelName⟩, closed := b.closed ++ [runId] }
  | .finished _, none => b.goto (.closing arm (.error (.raised "RuntimeError")))
  | .escalated _, runId =>
      { b with phase := .closing arm (.error (.raised "RuntimeError")),
               closed := b.closed ++ runId.toList }

/-- After a save: the abort check, and the other arm. -/
def Batch.saved (b : Batch) (arm : Arm) : Batch :=
  match b.records.getLast?.bind Scored.abort with
  | some reason => b.goto (.resetting (some (.aborted reason)))
  | none =>
      match arm with
      | .noToolBaseline => b.goto (.building .toolEnabled)
      | .toolEnabled => b.goto (.resetting none)

def Batch.act (setup : Setup) (b : Batch) (fate : Fate) : Batch :=
  match b.phase with
  | .opening =>
      match fate.error with
      | some name => b.goto (.ended (.error (.raised name)))
      | none =>
          match checkPreflightCost setup.reading setup.tools b.ledger setup.budgets
              setup.ceilingUsd with
          | .error e => b.goto (.ended (.error (.preflight e)))
          | .ok () => b.next
  | .starting =>
      match fate.error, b.todo with
      | some name, _ => b.goto (.ended (.error (.raised name)))
      | none, [] => b.goto .summarizing
      | none, (family, seed) :: _ =>
          { b with phase := .loading, current := ⟨family, seed, fate.incident⟩,
                   lab := b.lab ++ [.started ⟨family, seed, fate.incident⟩] }
  | .loading =>
      match fate.error with
      | some name => b.goto (.resetting (some (.raised name)))
      | none => { b with phase := .building .noToolBaseline, expected := fate.expected }
  | .building arm =>
      match fate.error with
      | some name => b.goto (.resetting (some (.raised name)))
      | none => b.goto (.running arm)
  | .running arm =>
      match fate.error with
      | some name =>
          { b with phase := .closing arm (.error (.raised name)),
                   closed := b.closed ++ (runIdFromEvents fate.events).toList }
      | none => b.returned arm fate
  | .filing arm run =>
      match fate.error with
      | some name => b.goto (.closing arm (.error (.raised name)))
      | none => b.goto (.closing arm (.ok (b.record setup arm run)))
  | .closing arm result =>
      -- What the `finally` raises takes the place of the result.
      match fate.error, result with
      | some name, _ => b.goto (.resetting (some (.raised name)))
      | none, .error e => b.goto (.resetting (some e))
      | none, .ok scored =>
          { b with records := b.records ++ [scored]
                   phase := .saving arm (setup.recordsJob (b.records ++ [scored]) fate.fresh)
                     .writing }
  | .saving arm job inner =>
      match inner with
      | .replaced => b.saved arm
      | .raised e => b.goto (.resetting (some e))
      | inner =>
          { b with files := (job.act (.unsaved "FileNotFoundError") b.files inner fate.fault).2
                   phase := .saving arm job
                     (job.act (.unsaved "FileNotFoundError") b.files inner fate.fault).1 }
  | .resetting failed =>
      -- A failing reset is only printed when the pass itself has failed.
      match failed, fate.error with
      | some e, _ => b.resets.goto (.ended (.error e))
      | none, some name => b.resets.goto (.ended (.error (.raised name)))
      | none, none => { b.resets with todo := b.todo.tail }.next
  | .summarizing =>
      match summarizePairedEvaluation (b.records.map fun scored =>
          scored.record.toEvaluationRecord) with
      | .error name => b.goto (.ended (.error (.raised name)))
      | .ok summary => b.goto (.savingSummary (setup.summaryJob summary fate.fresh) .writing)
  | .savingSummary job inner =>
      match inner with
      | .replaced => b.goto (.ended (.ok ()))
      | .raised e => b.goto (.ended (.error e))
      | inner =>
          { b with files := (job.act (.unsaved "FileNotFoundError") b.files inner fate.fault).2
                   phase := .savingSummary job
                     (job.act (.unsaved "FileNotFoundError") b.files inner fate.fault).1 }
  | .ended _ | .dead => b

/-- The batch makes its next operation, its process dies, or some run, of the batch or not,
calls the ledger. -/
inductive Event where
  | acts (fate : Fate)
  | dies
  | calls (ceilingUsd : Option ℚ) (call : Cost.Call)

def Batch.step (setup : Setup) (b : Batch) : Event → Unit × Batch
  | .acts fate => ((), b.act setup fate)
  | .dies =>
      match b.phase with
      | .ended _ => ((), b)
      | _ => ((), b.goto .dead)
  | .calls ceilingUsd call =>
      ((), { b with ledger := (Cost.callStep ceilingUsd b.ledger call).2 })

/-- Run ids are not drawn twice, and a run that is over makes no further call. -/
def Batch.Admissible (b : Batch) : Event → Prop
  | .acts fate => ∀ runId ∈ runIdFromEvents fate.events, runId ∉ b.closed
  | .dies => True
  | .calls _ call => call.key.runId ∉ b.closed

end Batch

end CausalOps.Evaluation
