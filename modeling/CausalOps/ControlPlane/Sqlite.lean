import Mathlib.Data.List.MinMax
import Mathlib.Data.List.Sort
import Mathlib.Data.Prod.Lex
import CausalOps.Library.Rows
import CausalOps.Library.Program
import CausalOps.ControlPlane.Ledger

set_option autoImplicit false

/-! `SqliteReplayControlPlane`: the four tables of the control-plane database, and
its methods as programs that hold the write transaction on that database while
they use the owner-decision ledger, which commits on its own. -/

namespace CausalOps.ControlPlane.Sqlite

section Tables

structure JobRow extends Job where
  rowid : Nat
  deriving DecidableEq, Repr

structure DeliveryRow extends Delivery where
  rowid : Nat
  deriving DecidableEq, Repr

structure EventRow extends TimelineEvent where
  jobId : String
  deriving DecidableEq, Repr

structure MirrorRow extends DecisionColumns where
  jobId : String
  deriving DecidableEq, Repr

/-- The tables `replay_jobs`, `replay_events`, `replay_decisions` and
`report_deliveries`, each in insertion order. -/
structure Database where
  jobs : List JobRow
  events : List EventRow
  decisions : List MirrorRow
  deliveries : List DeliveryRow
  deriving DecidableEq, Repr

def Database.empty : Database := ⟨[], [], [], []⟩

def JobRow.key (row : JobRow) : String := row.id
def DeliveryRow.key (row : DeliveryRow) : String := row.jobId
def MirrorRow.key (row : MirrorRow) : String := row.jobId

def Database.job (db : Database) (id : String) : Option JobRow :=
  Rows.lookup JobRow.key id db.jobs

def Database.delivery (db : Database) (id : String) : Option DeliveryRow :=
  Rows.lookup DeliveryRow.key id db.deliveries

def Database.decision (db : Database) (id : String) : Option MirrorRow :=
  Rows.lookup MirrorRow.key id db.decisions

def Database.timeline (db : Database) (id : String) : List TimelineEvent :=
  (db.events.filter fun row => row.jobId = id).map EventRow.toTimelineEvent

/-- `COALESCE(MAX(ordinal) + 1, 0)`. -/
def nextOrdinal (rows : List TimelineEvent) : Nat :=
  rows.foldr (fun row bound => max (row.ordinal + 1) bound) 0

def Database.event (db : Database) (id : String) (o : Occurrence) : Database :=
  { db with events := db.events ++ [⟨⟨nextOrdinal (db.timeline id), o.name, o.fields⟩, id⟩] }

/-- `UPDATE replay_jobs SET … WHERE id = ?`. -/
def Database.updateJob (db : Database) (id : String) (set : JobRow → JobRow) : Database :=
  { db with jobs := Rows.modify JobRow.key id set db.jobs }

/-- `UPDATE report_deliveries SET … WHERE job_id = ?`. -/
def Database.updateDelivery (db : Database) (id : String)
    (set : DeliveryRow → DeliveryRow) : Database :=
  { db with deliveries := Rows.modify DeliveryRow.key id set db.deliveries }

/-- The rowid SQLite gives to the next row of a table. -/
def nextRowid (rowids : List Nat) : Nat := rowids.foldr max 0 + 1

/-- `INSERT INTO replay_jobs`. -/
def Database.insertJob (db : Database) (job : Job) : Database :=
  { db with jobs := db.jobs ++ [⟨job, nextRowid (db.jobs.map JobRow.rowid)⟩] }

/-- `INSERT INTO report_deliveries`. -/
def Database.insertDelivery (db : Database) (delivery : Delivery) : Database :=
  { db with
    deliveries := db.deliveries ++ [⟨delivery, nextRowid (db.deliveries.map DeliveryRow.rowid)⟩] }

end Tables

section Store

/-- Both database files, and the answers of the transactions committed so far. -/
structure Store where
  control : Database
  ledger : Ledger
  history : List Reply
  deriving DecidableEq

def Store.empty : Store := ⟨.empty, [], []⟩

/-- What a method does outside its own memory: take the write lock and read the
control-plane database, commit it, or use the ledger. -/
inductive Op where
  | begin
  | commit (db : Database) (reply : Reply)
  | readDecision (threadId : String)
  | recordDecision (threadId checkpointId : String) (d : OwnerDecision) (decidedAt : Time)

abbrev Op.Res : Op → Type
  | .begin => Database
  | .commit _ _ => Unit
  | .readDecision _ => Except CheckpointStoreError (Option DecisionRow)
  | .recordDecision _ _ _ _ => Except CheckpointStoreError Unit

def exec : (op : Op) → Store → op.Res × Store
  | .begin, s => (s.control, s)
  | .commit db reply, s => ((), { s with control := db, history := s.history ++ [reply] })
  | .readDecision threadId, s => (readDecisionForThread s.ledger threadId, s)
  | .recordDecision threadId checkpointId d decidedAt, s =>
      let (result, ledger) :=
        recordDecisionBeforeResume s.ledger threadId checkpointId d decidedAt
      (result, { s with ledger := ledger })

abbrev Prog (α : Type) := Program Op Op.Res Refusal α

/-- `_connection`: the body runs inside one transaction, which commits when the
body returns and rolls back when it raises. -/
def transaction (body : Database → Prog (Reply × Database)) : Prog Reply :=
  .call .begin fun db => body db >>= fun (reply, db') =>
    .call (.commit db' reply) fun _ => .ret reply

end Store

section Decisions

def ensureLedgerDecision (utcNow : Time) (investigationId checkpointId : String)
    (d : OwnerDecision) : Prog Unit :=
  .call (.readDecision investigationId) fun
    | .error _ => .raise (.integrity "owner decision ledger is unavailable")
    | .ok (some existing) =>
        if existing.checkpointId ≠ checkpointId then
          .raise (.integrity "owner decision belongs to a different checkpoint")
        else if existing.matches d then .ret ()
        else .raise (.conflict "a different owner decision is recorded")
    | .ok none =>
        .call (.recordDecision investigationId checkpointId d utcNow) fun
          | .ok _ => .ret ()
          | .error _ => .call (.readDecision investigationId) fun
              | .error _ => .raise (.integrity "owner decision ledger is unavailable")
              | .ok (some existing) =>
                  if existing.checkpointId = checkpointId && existing.matches d then .ret ()
                  else .raise (.conflict "a different owner decision is recorded")
              | .ok none => .raise (.conflict "a different owner decision is recorded")

def decisionFromRow (row : MirrorRow) : Except Refusal OwnerDecision :=
  match OwnerDecision.validate row.decision row.rejectionNote with
  | some d => .ok d
  | none => .error (.integrity "stored owner decision is invalid")

/-- A checkpoint id that is neither NULL nor empty. -/
def presentCheckpoint : Option String → Option String
  | none => none
  | some checkpointId => if checkpointId = "" then none else some checkpointId

/-- The last step of queueing a decided job: status and timeline. -/
def queueDecided (db : Database) (id checkpointId : String) (d : OwnerDecision) : Database :=
  (db.updateJob id fun row => { row with status := .queued }).event id
    (.ownerDecisionRecorded checkpointId d.decision.text)

def insertMirror (db : Database) (id checkpointId : String) (d : OwnerDecision) : Database :=
  { db with decisions := db.decisions ++ [⟨.of checkpointId d, id⟩] }

/-- `_reconcile_durable_decisions`, for one paused row. -/
def reconcileRow (row : JobRow) (db : Database) : Prog Database :=
  match presentCheckpoint row.checkpointId with
  | none => .raise (.integrity "paused investigation has no checkpoint")
  | some checkpointId => .call (.readDecision row.id) fun
      | .error _ => .raise (.integrity "owner decision ledger is unreadable")
      | .ok none => .ret db
      | .ok (some ledger) =>
          if ledger.checkpointId ≠ checkpointId then
            .raise (.integrity "owner decision belongs to a different checkpoint")
          else
            match OwnerDecision.validate ledger.decision.text ledger.rejectionNote with
            | none => .raise (.value "the ledger row is no owner decision")
            | some d =>
                match db.decision row.id with
                | none =>
                    .ret (queueDecided (insertMirror db row.id checkpointId d) row.id
                      checkpointId d)
                | some mirrored =>
                    if mirrored.checkpointId ≠ checkpointId then
                      .raise (.integrity
                        "control-plane decision belongs to a different checkpoint")
                    else
                      match decisionFromRow mirrored with
                      | .error e => .raise e
                      | .ok mirroredDecision =>
                          if mirroredDecision ≠ d then
                            .raise (.integrity
                              "control-plane decision disagrees with decision ledger")
                          else .ret (queueDecided db row.id checkpointId d)

def reconcileRows : List JobRow → Database → Prog Database
  | [], db => .ret db
  | row :: rest, db => reconcileRow row db >>= reconcileRows rest

def reconcileDurableDecisions (db : Database) : Prog Database :=
  reconcileRows (db.jobs.filter fun row => row.status = .pausedApproval) db

end Decisions

section Owner

def owned (db : Database) (ownerEmail investigationId : String) : Except Refusal JobRow :=
  match db.jobs.find? fun row => row.id = investigationId && row.owner = ownerEmail with
  | some row => .ok row
  | none => .error (.notFound "investigation not found")

def newJob (fresh : Uuid) (ownerEmail : String) (family : ScenarioFamily)
    (idempotencyKey : String) : Job where
  id := fresh.hex
  owner := ownerEmail
  status := .queued
  scenarioFamily := family
  seed := .development
  idempotencyKey := some idempotencyKey
  checkpointId := none
  incidentId := none
  reportArtifact := none
  reportContent := none
  reportSha256 := none
  attemptCount := 0
  availableAt := 0
  failureReason := none
  claimToken := none
  claimExpiresAt := none

def create (fresh : Uuid) (ownerEmail : String) (family : ScenarioFamily)
    (idempotencyKey : String) (db : Database) : Except Refusal (Reply × Database) :=
  match db.jobs.find? fun row =>
      row.owner = ownerEmail && row.idempotencyKey = some idempotencyKey with
  | some existing => .ok (.view existing.view, db)
  | none =>
      if (db.job fresh.hex).isSome then
        .error (.sqlite "UNIQUE constraint failed: replay_jobs.id")
      else
        .ok (.view ⟨fresh.hex, .queued⟩,
          (db.insertJob (newJob fresh ownerEmail family idempotencyKey)).event fresh.hex
            .investigationQueued)

def status (ownerEmail investigationId : String) (db : Database) :
    Except Refusal (Reply × Database) := do
  let row ← owned db ownerEmail investigationId
  return (.view row.view, db)

/-- `ORDER BY ordinal`. -/
def byOrdinal (events : List TimelineEvent) : List TimelineEvent :=
  events.insertionSort fun a b => a.ordinal ≤ b.ordinal

def events (ownerEmail investigationId : String) (db : Database) :
    Except Refusal (Reply × Database) := do
  let _ ← owned db ownerEmail investigationId
  return (.timeline (byOrdinal (db.timeline investigationId)), db)

protected def decide (utcNow : Time) (ownerEmail investigationId : String) (d : OwnerDecision)
    (db : Database) : Prog (Reply × Database) :=
  match owned db ownerEmail investigationId with
  | .error e => .raise e
  | .ok job =>
      match db.decision investigationId with
      | some prior =>
          match decisionFromRow prior with
          | .error e => .raise e
          | .ok mirroredDecision =>
              match presentCheckpoint job.checkpointId with
              | none => .raise (.integrity "decision record has no paused checkpoint")
              | some checkpointId =>
                  if prior.checkpointId ≠ checkpointId then
                    .raise (.integrity "decision record belongs to a different checkpoint")
                  else if mirroredDecision ≠ d then
                    .raise (.conflict "a different owner decision is recorded")
                  else
                    ensureLedgerDecision utcNow investigationId checkpointId
                      mirroredDecision >>= fun _ => .ret (.view job.view, db)
      | none =>
          if job.status ≠ .pausedApproval then
            .raise (.conflict "investigation is not waiting for a decision")
          else
            match presentCheckpoint job.checkpointId with
            | none => .raise (.integrity "paused investigation has no checkpoint")
            | some checkpointId =>
                ensureLedgerDecision utcNow investigationId checkpointId d >>= fun _ =>
                  .ret (.view ⟨investigationId, .queued⟩,
                    queueDecided (insertMirror db investigationId checkpointId d)
                      investigationId checkpointId d)

/-- The checks `report` makes on a job before it hands out the stored text. -/
def reportText (s : Settings) (investigationId : String) (job : Job) :
    Except Refusal String :=
  if job.status ≠ .completed then .error (.conflict "report is not finalized")
  else
    match job.reportArtifact with
    | none => .error (.integrity "finalized investigation has no report artifact")
    | some storedArtifact =>
        if storedArtifact = "" then
          .error (.integrity "finalized investigation has no report artifact")
        else
          match job.reportContent, job.reportSha256 with
          | some storedContent, some storedSha256 =>
              match validateReportReference investigationId storedArtifact with
              | .error _ =>
                  .error (.integrity "finalized investigation report is unavailable")
              | .ok _ =>
                  if s.sha256 storedContent ≠ storedSha256 then
                    .error (.integrity "finalized investigation report is corrupt")
                  else .ok storedContent
          | _, _ => .error (.integrity "finalized investigation has no report snapshot")

def report (s : Settings) (ownerEmail investigationId : String) (db : Database) :
    Except Refusal (Reply × Database) := do
  let job ← owned db ownerEmail investigationId
  let content ← reportText s investigationId job.toJob
  return (.report content, db)

end Owner

section Worker

def claimCurrent (now : Time) (claimToken : String) (row : JobRow) : Bool :=
  row.status = .running && row.claimToken = some claimToken &&
    unexpired now row.claimExpiresAt

def renewRunning (s : Settings) (now : Time) (investigationId claimToken : String)
    (db : Database) : Except Refusal (Reply × Database) :=
  let current := fun row : JobRow =>
    decide (row.key = investigationId) && claimCurrent now claimToken row
  if db.jobs.countP current ≠ 1 then
    .error (.conflict "investigation claim is no longer current")
  else
    .ok (.done, { db with
      jobs := Rows.update current
        (fun row => { row with claimExpiresAt := some (now + s.claimLeaseSeconds) }) db.jobs })

def reserveIncident (now : Time) (investigationId claimToken : String) (db : Database) :
    Except Refusal (Reply × Database) :=
  match db.job investigationId with
  | none => .error (.notFound "investigation not found")
  | some row =>
      if !claimCurrent now claimToken row then
        .error (.conflict "investigation claim is no longer current")
      else
        match row.incidentId with
        | none =>
            let incidentId := scenarioIncident investigationId
            .ok (.incident incidentId,
              (db.updateJob investigationId
                fun row => { row with incidentId := some incidentId }).event
                investigationId (.scenarioReserved incidentId))
        | some stored =>
            if Text.isAlnum stored then .ok (.incident stored, db)
            else .error (.integrity "stored incident id is invalid")

def scenarioStatus (incidentId : String) (db : Database) :
    Except Refusal (Reply × Database) :=
  match db.jobs.find? fun row => row.incidentId = some incidentId with
  | none => .ok (.scenario none, db)
  | some row => .ok (.scenario (some row.view.status), db)

def incidentIdFor (investigationId : String) (db : Database) :
    Except Refusal (Reply × Database) :=
  match db.job investigationId with
  | none => .error (.notFound "investigation not found")
  | some row =>
      match row.incidentId with
      | none => .ok (.incidentId none, db)
      | some stored =>
          if Text.isAlnum stored then .ok (.incidentId (some stored), db)
          else .error (.integrity "stored incident id is invalid")

/-- `_reclaim_expired_investigations`, for one row of its SELECT. -/
def reclaimInvestigation (s : Settings) (now : Time) (db : Database) (row : JobRow) :
    Database :=
  let attempt := row.attemptCount + 1
  if s.maxReplayAttempts ≤ attempt then
    (db.updateJob row.id fun r => { r with
      status := .queued
      claimToken := none
      claimExpiresAt := none
      attemptCount := attempt
      failureReason := some "retry_limit:lease_expired" }).event row.id
        (.investigationFailed attempt)
  else
    let retryAt := now + s.retryDelay attempt
    (db.updateJob row.id fun r => { r with
      status := .queued
      claimToken := none
      claimExpiresAt := none
      attemptCount := attempt
      availableAt := retryAt }).event row.id (.investigationLeaseExpired attempt retryAt)

def reclaimExpiredInvestigations (s : Settings) (now : Time) (db : Database) : Database :=
  (db.jobs.filter fun row => row.status = .running && expired now row.claimExpiresAt).foldl
    (reclaimInvestigation s now) db

/-- A QUEUED row that still holds an incident in its retry backoff. -/
def deferredScenario (now : Time) (row : JobRow) : Bool :=
  row.status = .queued && row.failureReason.isNone && row.incidentId.isSome &&
    decide (now < row.availableAt)

def claimable (now : Time) (row : JobRow) : Bool :=
  row.status = .queued && row.failureReason.isNone && decide (row.availableAt ≤ now)

/-- `ORDER BY CASE WHEN incident_id IS NULL THEN 1 ELSE 0 END, available_at, rowid`. -/
def claimOrder (row : JobRow) : ℕ ×ₗ Time ×ₗ ℕ :=
  toLex (if row.incidentId.isNone then 1 else 0, toLex (row.availableAt, row.rowid))

def startClaim (s : Settings) (now : Time) (claimToken : String) (row : JobRow)
    (db : Database) : Database :=
  (db.updateJob row.id fun r => { r with
    status := .running
    claimToken := some claimToken
    claimExpiresAt := some (now + s.claimLeaseSeconds) }).event row.id .investigationStarted

def workerClaim (row : JobRow) (ownerDecision : Option OwnerDecision) (claimToken : String) :
    WorkerClaim where
  scenarioFamily := row.scenarioFamily
  seed := row.seed
  investigationId := row.id
  ownerEmail := row.owner
  checkpointId := row.checkpointId
  incidentId := row.incidentId
  ownerDecision := ownerDecision
  claimToken := claimToken

/-- The part of `claim_next` that follows the selection of a row. -/
def claimRow (s : Settings) (a : Ambient) (row : JobRow) (db : Database) :
    Prog (Reply × Database) :=
  let started := startClaim s a.now a.fresh.hex row db
  match started.decision row.id with
  | none => .ret (.claim (some (workerClaim row none a.fresh.hex)), started)
  | some decisionRow =>
      match decisionFromRow decisionRow with
      | .error e => .raise e
      | .ok ownerDecision =>
          match presentCheckpoint row.checkpointId with
          | none => .raise (.integrity "resumed investigation has no checkpoint")
          | some checkpointId =>
              if decisionRow.checkpointId ≠ checkpointId then
                .raise (.integrity "stored owner decision belongs to a different checkpoint")
              else
                ensureLedgerDecision a.utcNow row.id checkpointId ownerDecision >>= fun _ =>
                  .ret (.claim (some (workerClaim row (some ownerDecision) a.fresh.hex)),
                    started)

def claimNext (s : Settings) (a : Ambient) (db : Database) : Prog (Reply × Database) :=
  reconcileDurableDecisions (reclaimExpiredInvestigations s a.now db) >>= fun db =>
    if db.jobs.any fun row => row.status = .running then .ret (.claim none, db)
    else if db.jobs.any (deferredScenario a.now) then .ret (.claim none, db)
    else
      match (db.jobs.filter (claimable a.now)).argmin claimOrder with
      | none => .ret (.claim none, db)
      | some row => claimRow s a row db

def markPaused (now : Time) (investigationId checkpointId claimToken : String)
    (db : Database) : Except Refusal (Reply × Database) :=
  match db.job investigationId with
  | none => .error (.notFound "investigation not found")
  | some row =>
      if !claimCurrent now claimToken row then
        .error (.conflict "investigation claim is no longer current")
      else
        .ok (.done, (db.updateJob investigationId fun row => { row with
          status := .pausedApproval
          checkpointId := some checkpointId
          claimToken := none
          claimExpiresAt := none }).event investigationId
            (.ownerDecisionRequested checkpointId))

/-- The guard of the worker methods that do not look at the lease end. -/
def claimHeld (claimToken : String) (row : JobRow) : Bool :=
  row.status = .running && row.claimToken = some claimToken

def requeueRunning (investigationId claimToken : String) (db : Database) :
    Except Refusal (Reply × Database) :=
  let held := fun row : JobRow =>
    decide (row.key = investigationId) && claimHeld claimToken row
  if db.jobs.countP held ≠ 1 then
    .error (.conflict "only a running investigation may be requeued")
  else
    .ok (.done, ({ db with
      jobs := Rows.update held (fun row => { row with
        status := .queued
        claimToken := none
        claimExpiresAt := none }) db.jobs }).event investigationId .investigationRequeued)

def retryRunning (s : Settings) (now : Time) (investigationId claimToken errorName : String)
    (db : Database) : Except Refusal (Reply × Database) :=
  match db.job investigationId with
  | none => .error (.notFound "investigation not found")
  | some row =>
      if !claimHeld claimToken row then
        .error (.conflict "only a running investigation may be retried")
      else
        let attempt := row.attemptCount + 1
        if s.maxReplayAttempts ≤ attempt then
          .ok (.retryable false, (db.updateJob investigationId fun row => { row with
            status := .queued
            claimToken := none
            claimExpiresAt := none
            attemptCount := attempt
            failureReason := some ("retry_limit:" ++ errorName) }).event investigationId
              (.investigationFailed attempt))
        else
          let retryAt := now + s.retryDelay attempt
          .ok (.retryable true, (db.updateJob investigationId fun row => { row with
            status := .queued
            claimToken := none
            claimExpiresAt := none
            attemptCount := attempt
            availableAt := retryAt }).event investigationId
              (.investigationRetryScheduled attempt retryAt))

def newDelivery (job : Job) : Delivery where
  jobId := job.id
  destinationEmail := job.owner
  status := .pending
  claimToken := none
  claimExpiresAt := none
  attemptCount := 0
  availableAt := 0
  failureReason := none

def finalize (s : Settings) (a : Ambient) (investigationId reportArtifact claimToken : String)
    (db : Database) : Except Refusal (Reply × Database) :=
  match db.job investigationId with
  | none => .error (.notFound "investigation not found")
  | some row =>
      if row.status = .completed then
        .error (.conflict "investigation is already finalized")
      else if !claimCurrent a.now claimToken row then
        .error (.conflict "investigation claim is no longer current")
      else
        match readReportSnapshot a.reportFile investigationId reportArtifact with
        | .error e => .error e
        | .ok content =>
            if (db.delivery investigationId).isSome then
              .error (.sqlite "UNIQUE constraint failed: report_deliveries.job_id")
            else
              let completed := db.updateJob investigationId fun row => { row with
                status := .completed
                reportArtifact := some reportArtifact
                reportContent := some content
                reportSha256 := some (s.sha256 content)
                claimToken := none
                claimExpiresAt := none }
              .ok (.done, (completed.insertDelivery (newDelivery row.toJob)).event
                investigationId .reportFinalized)

end Worker

section Outbox

/-- `_reclaim_expired_deliveries`, for one row of its SELECT. -/
def reclaimDelivery (s : Settings) (now : Time) (db : Database) (row : DeliveryRow) :
    Database :=
  let attempt := row.attemptCount + 1
  if s.maxDeliveryAttempts ≤ attempt then
    (db.updateDelivery row.jobId fun r => { r with
      status := .pending
      claimToken := none
      claimExpiresAt := none
      attemptCount := attempt
      failureReason := some "retry_limit:lease_expired" }).event row.jobId
        (.reportDeliveryFailed attempt)
  else
    let retryAt := now + s.retryDelay attempt
    (db.updateDelivery row.jobId fun r => { r with
      status := .pending
      claimToken := none
      claimExpiresAt := none
      attemptCount := attempt
      availableAt := retryAt }).event row.jobId (.reportDeliveryLeaseExpired attempt retryAt)

def reclaimExpiredDeliveries (s : Settings) (now : Time) (db : Database) : Database :=
  (db.deliveries.filter
    fun row => row.status = .sending && expired now row.claimExpiresAt).foldl
    (reclaimDelivery s now) db

/-- `report_deliveries d JOIN replay_jobs j ON j.id = d.job_id`. -/
def joined (db : Database) : List (DeliveryRow × JobRow) :=
  db.deliveries.filterMap fun d => (db.job d.jobId).map fun j => (d, j)

def deliverable (now : Time) (d : Delivery) : Bool :=
  d.status = .pending && d.failureReason.isNone && decide (d.availableAt ≤ now)

/-- `ORDER BY d.available_at, j.rowid`. -/
def deliveryOrder (pair : DeliveryRow × JobRow) : Time ×ₗ ℕ :=
  toLex (pair.1.availableAt, pair.2.rowid)

def deliveryClaim (job : Job) (destinationEmail claimToken : String) :
    Except Refusal DeliveryClaim :=
  match job.reportArtifact, job.reportContent, job.reportSha256 with
  | some artifact, some content, some digest => .ok {
      investigationId := job.id
      status := job.status.investigationStatus
      reportArtifact := artifact
      reportContent := content
      reportSha256 := digest
      destinationEmail := destinationEmail
      deliveryId := job.id
      claimToken := claimToken }
  | _, _, _ => .error (.value "a delivery claim needs its report")

def claimDelivery (s : Settings) (a : Ambient) (db : Database) :
    Except Refusal (Reply × Database) :=
  let db := reclaimExpiredDeliveries s a.now db
  match ((joined db).filter fun pair => deliverable a.now pair.1.toDelivery).argmin
      deliveryOrder with
  | none => .ok (.delivery none, db)
  | some (delivery, job) =>
      let sending := db.updateDelivery job.id fun r => { r with
        status := .sending
        claimToken := some a.fresh.hex
        claimExpiresAt := some (a.now + s.claimLeaseSeconds) }
      match deliveryClaim job.toJob delivery.destinationEmail a.fresh.hex with
      | .error e => .error e
      | .ok claim => .ok (.delivery (some claim), sending)

def deliveryHeld (claimToken : String) (row : DeliveryRow) : Bool :=
  row.status = .sending && row.claimToken = some claimToken

def deliveryCurrent (now : Time) (claimToken : String) (row : DeliveryRow) : Bool :=
  row.status = .sending && row.claimToken = some claimToken &&
    unexpired now row.claimExpiresAt

def markDelivered (now : Time) (investigationId claimToken : String) (db : Database) :
    Except Refusal (Reply × Database) :=
  let current := fun row : DeliveryRow =>
    decide (row.key = investigationId) && deliveryCurrent now claimToken row
  if db.deliveries.countP current ≠ 1 then
    .error (.conflict "delivery is not currently claimed")
  else
    .ok (.done, ({ db with
      deliveries := Rows.update current (fun row => { row with
        status := .sent
        claimToken := none
        claimExpiresAt := none }) db.deliveries }).event investigationId .reportDelivered)

def renewDelivery (s : Settings) (now : Time) (investigationId claimToken : String)
    (db : Database) : Except Refusal (Reply × Database) :=
  let current := fun row : DeliveryRow =>
    decide (row.key = investigationId) && deliveryCurrent now claimToken row
  if db.deliveries.countP current ≠ 1 then
    .error (.conflict "delivery is not currently claimed")
  else
    .ok (.done, { db with
      deliveries := Rows.update current
        (fun row => { row with claimExpiresAt := some (now + s.claimLeaseSeconds) })
        db.deliveries })

def releaseDelivery (investigationId claimToken : String) (db : Database) :
    Except Refusal (Reply × Database) :=
  let held := fun row : DeliveryRow =>
    decide (row.key = investigationId) && deliveryHeld claimToken row
  if db.deliveries.countP held ≠ 1 then
    .error (.conflict "delivery is not currently claimed")
  else
    .ok (.done, ({ db with
      deliveries := Rows.update held (fun row => { row with
        status := .pending
        claimToken := none
        claimExpiresAt := none }) db.deliveries }).event investigationId
          .reportDeliveryRequeued)

def retryDelivery (s : Settings) (now : Time) (investigationId claimToken errorName : String)
    (db : Database) : Except Refusal (Reply × Database) :=
  match db.delivery investigationId with
  | none => .error (.notFound "report delivery not found")
  | some row =>
      if !deliveryHeld claimToken row then
        .error (.conflict "delivery is not currently claimed")
      else
        let attempt := row.attemptCount + 1
        if s.maxDeliveryAttempts ≤ attempt then
          .ok (.retryable false, (db.updateDelivery investigationId fun row => { row with
            status := .pending
            claimToken := none
            claimExpiresAt := none
            attemptCount := attempt
            failureReason := some ("retry_limit:" ++ errorName) }).event investigationId
              (.reportDeliveryFailed attempt))
        else
          let retryAt := now + s.retryDelay attempt
          .ok (.retryable true, (db.updateDelivery investigationId fun row => { row with
            status := .pending
            claimToken := none
            claimExpiresAt := none
            attemptCount := attempt
            availableAt := retryAt }).event investigationId
              (.reportDeliveryRetryScheduled attempt retryAt))

end Outbox

section Dispatch

def body (s : Settings) (a : Ambient) : Call → Database → Prog (Reply × Database)
  | .create owner family key, db => .lift (create a.fresh owner family key db)
  | .status owner id, db => .lift (status owner id db)
  | .events owner id, db => .lift (events owner id db)
  | .decide owner id d, db => Sqlite.decide a.utcNow owner id d db
  | .report owner id, db => .lift (report s owner id db)
  | .renewRunning id token, db => .lift (renewRunning s a.now id token db)
  | .reserveIncident id token, db => .lift (reserveIncident a.now id token db)
  | .scenarioStatus incident, db => .lift (scenarioStatus incident db)
  | .incidentIdFor id, db => .lift (incidentIdFor id db)
  | .claimNext, db => claimNext s a db
  | .markPaused id checkpoint token, db => .lift (markPaused a.now id checkpoint token db)
  | .requeueRunning id token, db => .lift (requeueRunning id token db)
  | .retryRunning id token errorName, db =>
      .lift (retryRunning s a.now id token errorName db)
  | .finalize id artifact token, db => .lift (finalize s a id artifact token db)
  | .claimDelivery, db => .lift (claimDelivery s a db)
  | .markDelivered id token, db => .lift (markDelivered a.now id token db)
  | .renewDelivery id token, db => .lift (renewDelivery s a.now id token db)
  | .releaseDelivery id token, db => .lift (releaseDelivery id token db)
  | .retryDelivery id token errorName, db =>
      .lift (retryDelivery s a.now id token errorName db)

/-- The argument checks a method makes before it opens a connection. -/
def precheck : Call → Except Refusal Unit
  | .markPaused _ checkpointId _ =>
      if Text.strip checkpointId = "" then .error (.value "checkpoint_id must not be blank")
      else .ok ()
  | .finalize _ reportArtifact _ =>
      if Text.strip reportArtifact = "" then
        .error (.value "report_artifact must not be blank")
      else .ok ()
  | _ => .ok ()

/-- One call of a `SqliteReplayControlPlane` method. -/
def method (s : Settings) (a : Ambient) (call : Call) : Prog Reply :=
  match precheck call with
  | .error e => .raise e
  | .ok _ => transaction (body s a call)

def step (s : Settings) (store : Store) (input : Ambient × Call) :
    Except Refusal Reply × Store :=
  (method s input.1 input.2).run exec store

end Dispatch

end CausalOps.ControlPlane.Sqlite
