import CausalOps.ControlPlane.Sqlite.Reports
import CausalOps.ControlPlane.Outbox
import CausalOps.Results.Finalize

set_option autoImplicit false

/-! The hosted runner around the control plane: `ReplayGraphJobRunner.run`, one operation at a
time, with the directories that it publishes and the bucket that it copies them to. Its process
may die between any two operations and be started again. -/

namespace CausalOps.ControlPlane.Hosted

open Sqlite
open Results (Artifacts Files FileOp FinalizeError Root artifactNames)

section Runner

/-- What `run` has come to when the scenario, the model and the graph are done. -/
inductive GraphRun where
  | raised (errorName : String)
  | paused (checkpointId : String)
  | finished (artifacts : Artifacts)

inductive Phase where
  /-- `_has_finalized_artifact`. -/
  | looking
  | investigating
  | staging (rest : List FileOp) (handle : Option ℕ)
  /-- `_upload_finalized_artifacts` reads every artifact before it uploads one. -/
  | collecting
  | uploading (rest : List (String × String))
  | ending (outcome : Except String WorkerOutcome)

/-- One call of `run`, and what `run_once` does after it. -/
structure Attempt where
  claim : WorkerClaim
  phase : Phase

/-- The databases, the results, the bucket, the attempt of the one worker, and how the graph has
ended so far. -/
structure Host where
  store : Store
  results : String → Root
  bucket : String → Option String
  attempt : Option Attempt
  graphs : List (String × GraphRun)

def Host.start : Host := ⟨.empty, fun _ => Results.noResults, fun _ => none, none, []⟩

def Host.text (h : Host) (investigationId name : String) : Option String :=
  (h.results investigationId).target.bind fun dir => dir.files name

def Host.goto (h : Host) (attempt : Attempt) (phase : Phase) : Host :=
  { h with attempt := some { attempt with phase := phase } }

def Host.setResults (h : Host) (investigationId : String) (root : Root) : Host :=
  { h with results := fun other => if other = investigationId then root else h.results other }

def reportArtifact (investigationId : String) : String := investigationId ++ "/report.md"

/-- What `read_report_snapshot` reads, unless it fails. -/
def Host.reportFile (h : Host) (investigationId : String) (reading : Except String String) :
    Except String String :=
  match reading, h.text investigationId "report.md" with
  | .error message, _ => .error message
  | .ok _, some content => .ok content
  | .ok _, none => .error "report_artifact is not readable UTF-8"

def Host.ambient (h : Host) (a : Ambient) : Call → Ambient
  | .finalize id _ _ => { a with reportFile := h.reportFile id a.reportFile }
  | _ => a

def Host.call (s : Settings) (h : Host) (a : Ambient) (call : Call) :
    Except Refusal Reply × Host :=
  ((step s h.store (h.ambient a call, call)).1,
    { h with store := (step s h.store (h.ambient a call, call)).2 })

end Runner

section Uploads

def objectPath (investigationId name : String) : String :=
  "investigations/" ++ investigationId ++ "/" ++ name

/-- `upload_from_string(content, if_generation_match=0)`, with `PreconditionFailed` passed over:
an object that is there stays. -/
def upload (bucket : String → Option String) (path content : String) : String → Option String :=
  fun other => if other = path then (bucket path).or (some content) else bucket other

/-- Universal newlines: `\r\n` and a lone `\r` are read as `\n`. -/
def universalNewlines : List Char → List Char
  | [] => []
  | '\r' :: '\n' :: rest => '\n' :: universalNewlines rest
  | '\r' :: rest => '\n' :: universalNewlines rest
  | c :: rest => c :: universalNewlines rest

def readText (content : String) : String := String.ofList (universalNewlines content.toList)

theorem universalNewlines_of_plain {chars : List Char} (h : '\r' ∉ chars) :
    universalNewlines chars = chars := by
  induction chars with
  | nil => rfl
  | cons c rest ih =>
      simp only [List.mem_cons, not_or] at h
      have hne : c ≠ '\r' := fun heq => h.1 heq.symm
      rw [universalNewlines, ih h.2]
      · exact fun _ heq => absurd heq hne
      · exact hne

theorem readText_of_plain {content : String} (h : '\r' ∉ content.toList) :
    readText content = content := by
  rw [readText, universalNewlines_of_plain h, String.ofList_toList]

/-- A file of a published directory as `read_text` gives it back. -/
def Host.copy (h : Host) (investigationId name : String) : Option String :=
  (h.text investigationId name).map readText

/-- The artifacts as they are read back, when all of them are there. -/
def Host.collect (h : Host) (investigationId : String) : Option (List (String × String)) :=
  artifactNames.mapM fun name => (h.copy investigationId name).map fun content => (name, content)

end Uploads

section Steps

def finalizeErrorName : FinalizeError → String
  | .alreadyFinalized => "RunRecordError"
  | .os => "OSError"

/-- What can happen on the host. Other processes call the control plane and the ledger; the
worker claims a job, makes its next operation, ends its run of the graph, and calls the control
plane with what came of it. An operation may raise, and the process may die: a directory that is
being staged is then left with some files, and an object that was being uploaded may be there. -/
inductive Event where
  | incident (incident : Incident)
  | claims (a : Ambient)
  | acts
  | graph (run : GraphRun)
  | calls (a : Ambient)
  /-- `lstat` raises on a report that is there. -/
  | blinks
  | fails (errorName : String) (left : Files) (reached : Bool)
  | dies (left : Files) (reached : Bool)

def Host.act (uploads : Bool) (h : Host) (attempt : Attempt) : Host :=
  let id := attempt.claim.investigationId
  match attempt.phase with
  | .looking =>
      h.goto attempt (if (h.text id "report.md").isSome then .collecting else .investigating)
  | .investigating => h
  | .staging [] _ => h.goto attempt .collecting
  | .staging (op :: rest) handle =>
      match op.exec (h.results id) handle with
      | .ok (root, handle) =>
          (h.setResults id root).goto attempt
            (if rest.isEmpty then .collecting else .staging rest handle)
      | .error e =>
          let root := match op.temporary with
            | some name => (h.results id).unlink name
            | none => h.results id
          (h.setResults id root).goto attempt (.ending (.error (finalizeErrorName e)))
  | .collecting =>
      if uploads then
        match h.collect id with
        | none => h.goto attempt (.ending (.error "FileNotFoundError"))
        | some artifacts => h.goto attempt (.uploading artifacts)
      else h.goto attempt (.ending (.ok (.finalized (reportArtifact id))))
  | .uploading [] => h.goto attempt (.ending (.ok (.finalized (reportArtifact id))))
  | .uploading ((name, content) :: rest) =>
      { h with bucket := upload h.bucket (objectPath id name) content }.goto attempt
        (.uploading rest)
  | .ending _ => h

/-- What an operation that does not return leaves behind. -/
def Host.partly (h : Host) (attempt : Attempt) (left : Files) (reached : Bool) : Host :=
  let id := attempt.claim.investigationId
  match attempt.phase with
  | .staging _ _ =>
      let root := h.results id
      h.setResults id { root with staging := root.staging.map fun dir => { dir with files := left } }
  | .uploading ((name, content) :: _) =>
      if reached then { h with bucket := upload h.bucket (objectPath id name) content } else h
  | _ => h

def Host.finish (h : Host) (attempt : Attempt) (run : GraphRun) : Host :=
  let h := { h with graphs := h.graphs ++ [(attempt.claim.investigationId, run)] }
  match run with
  | .raised errorName => h.goto attempt (.ending (.error errorName))
  | .paused checkpointId => h.goto attempt (.ending (.ok (.paused checkpointId)))
  | .finished artifacts => h.goto attempt (.staging artifacts.operations none)

/-- What `run_once` does with the outcome: an error is followed by `retry_running`. -/
def Host.report (s : Settings) (h : Host) (attempt : Attempt)
    (outcome : Except String WorkerOutcome) (a : Ambient) : Host :=
  match outcome with
  | .ok outcome =>
      match h.call s a (endingCall attempt.claim outcome) with
      | (.ok _, h) => { h with attempt := none }
      | (.error e, h) => h.goto attempt (.ending (.error (refusalName e)))
  | .error errorName =>
      { (h.call s a (.retryRunning attempt.claim.investigationId attempt.claim.claimToken
        errorName)).2 with attempt := none }

def Host.step (s : Settings) (uploads : Bool) (h : Host) (event : Event) : Host :=
  match event, h.attempt with
  | .incident (.call a call), _ => (h.call s a call).2
  | .incident (.ledger rows), _ => { h with store := { h.store with ledger := rows } }
  | .claims a, none =>
      match h.call s a .claimNext with
      | (.ok (.claim (some claim)), h) => { h with attempt := some ⟨claim, .looking⟩ }
      | (_, h) => h
  | .acts, some attempt => h.act uploads attempt
  | .graph run, some attempt =>
      match attempt.phase with
      | .investigating => h.finish attempt run
      | _ => h
  | .calls a, some attempt =>
      match attempt.phase with
      | .ending outcome => h.report s attempt outcome a
      | _ => h
  | .blinks, some attempt =>
      match attempt.phase with
      | .looking => h.goto attempt .investigating
      | _ => h
  | .fails errorName left reached, some attempt =>
      match attempt.phase with
      | .looking => h
      | .ending (.error _) => { h with attempt := none }
      | _ => (h.partly attempt left reached).goto attempt (.ending (.error errorName))
  | .dies left reached, some attempt => { h.partly attempt left reached with attempt := none }
  | _, _ => h

def Host.run (s : Settings) (uploads : Bool) (h : Host) (events : List Event) : Host :=
  events.foldl (Host.step s uploads) h

end Steps

end CausalOps.ControlPlane.Hosted
