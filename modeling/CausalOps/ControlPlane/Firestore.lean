import Mathlib.Data.List.MinMax
import Mathlib.Data.List.Sort
import Mathlib.Data.Prod.Lex
import CausalOps.Library.Rows
import CausalOps.Library.Program
import CausalOps.ControlPlane.Ledger

set_option autoImplicit false

/-! `FirestoreReplayControlPlane`: the documents of its collections, and its methods as
programs of single reads, queries and batch commits. -/

namespace CausalOps.ControlPlane.Firestore

section Documents

structure JobDoc extends Job where
  sequence : Nat
  deriving DecidableEq, Repr

structure DeliveryDoc extends Delivery where
  sequence : Nat
  deriving DecidableEq, Repr

structure EventDoc extends TimelineEvent where
  jobId : String
  deriving DecidableEq, Repr

structure DecisionDoc extends DecisionColumns where
  jobId : String
  deriving DecidableEq, Repr

/-- The collections `replay_jobs`, each job's `events`, `owner_decisions` and
`report_deliveries`. A document is stored under the id it carries. -/
structure Database where
  jobs : List JobDoc
  events : List EventDoc
  decisions : List DecisionDoc
  deliveries : List DeliveryDoc
  deriving DecidableEq, Repr

def Database.empty : Database := ⟨[], [], [], []⟩

def JobDoc.key (doc : JobDoc) : String := doc.id
def DeliveryDoc.key (doc : DeliveryDoc) : String := doc.jobId
def DecisionDoc.key (doc : DecisionDoc) : String := doc.jobId
def EventDoc.key (doc : EventDoc) : String × Nat := (doc.jobId, doc.ordinal)

/-- The order in which a query streams the documents it matches. -/
structure StreamOrder where
  order : {α : Type} → List α → List α
  perm : ∀ {α : Type} (docs : List α), (order docs).Perm docs

/-- Documents stream in the order in which they were first written. -/
def writtenOrder : StreamOrder := ⟨fun docs => docs, fun docs => .refl docs⟩

/-- `where("…", "==", …)` on the jobs collection, or no filter. -/
inductive JobQuery where
  | all
  | owner (ownerEmail : String)
  | status (status : JobStatus)
  | incident (incidentId : String)
  deriving DecidableEq

def JobQuery.selects : JobQuery → JobDoc → Bool
  | .all, _ => true
  | .owner ownerEmail, doc => doc.owner = ownerEmail
  | .status wanted, doc => doc.status = wanted
  | .incident incidentId, doc => doc.incidentId = some incidentId

inductive DeliveryQuery where
  | all
  | status (status : DeliveryStatus)
  deriving DecidableEq

def DeliveryQuery.selects : DeliveryQuery → DeliveryDoc → Bool
  | .all, _ => true
  | .status wanted, doc => doc.status = wanted

/-- One `set` of a batch. -/
inductive Write where
  | job (doc : JobDoc)
  | event (doc : EventDoc)
  | decision (doc : DecisionDoc)
  | delivery (doc : DeliveryDoc)

def Database.write (db : Database) : Write → Database
  | .job doc => { db with jobs := Rows.put JobDoc.key doc db.jobs }
  | .event doc => { db with events := Rows.put EventDoc.key doc db.events }
  | .decision doc => { db with decisions := Rows.put DecisionDoc.key doc db.decisions }
  | .delivery doc => { db with deliveries := Rows.put DeliveryDoc.key doc db.deliveries }

inductive Op where
  | getJob (id : String)
  | getDecision (id : String)
  | getDelivery (id : String)
  | streamJobs (query : JobQuery)
  | streamEvents (id : String)
  | streamDeliveries (query : DeliveryQuery)
  | commit (writes : List Write)

abbrev Op.Res : Op → Type
  | .getJob _ => Option JobDoc
  | .getDecision _ => Option DecisionDoc
  | .getDelivery _ => Option DeliveryDoc
  | .streamJobs _ => List JobDoc
  | .streamEvents _ => List TimelineEvent
  | .streamDeliveries _ => List DeliveryDoc
  | .commit _ => Unit

def exec (streams : StreamOrder) : (op : Op) → Database → op.Res × Database
  | .getJob id, db => (Rows.lookup JobDoc.key id db.jobs, db)
  | .getDecision id, db => (Rows.lookup DecisionDoc.key id db.decisions, db)
  | .getDelivery id, db => (Rows.lookup DeliveryDoc.key id db.deliveries, db)
  | .streamJobs query, db => (streams.order (db.jobs.filter query.selects), db)
  | .streamEvents id, db =>
      (streams.order ((db.events.filter fun doc => doc.jobId = id).map
        EventDoc.toTimelineEvent), db)
  | .streamDeliveries query, db => (streams.order (db.deliveries.filter query.selects), db)
  | .commit writes, db => ((), writes.foldl Database.write db)

abbrev Prog (α : Type) := Program Op Op.Res Refusal α

/-- `reference.set(…)` and `batch.commit()`. -/
def commit (writes : List Write) : Prog Unit := .call (.commit writes) .ret

/-- `_stage_event`: the write of the next event of a timeline. -/
def stageEvent (id : String) (o : Occurrence) : Prog Write :=
  .call (.streamEvents id) fun events =>
    .ret (.event ⟨⟨events.length, o.name, o.fields⟩, id⟩)

def event (id : String) (o : Occurrence) : Prog Unit :=
  stageEvent id o >>= fun write => commit [write]

end Documents

section Owner

def owned (investigationId ownerEmail : String) : Prog JobDoc :=
  .call (.getJob investigationId) fun
    | none => .raise (.notFound "investigation not found")
    | some data =>
        if data.owner ≠ ownerEmail then .raise (.notFound "investigation not found")
        else .ret data

def newJob (fresh : Uuid) (ownerEmail : String) (family : ScenarioFamily)
    (idempotencyKey : String) (sequence : Nat) : JobDoc where
  id := fresh.hex
  sequence := sequence
  owner := ownerEmail
  status := .queued
  scenarioFamily := family
  seed := .development
  idempotencyKey := some idempotencyKey
  checkpointId := none
  incidentId := none
  reportArtifact := none
  reportContent := none
  reportSha256 := none
  attemptCount := 0
  availableAt := 0
  failureReason := none
  claimToken := none
  claimExpiresAt := none

def create (fresh : Uuid) (ownerEmail : String) (family : ScenarioFamily)
    (idempotencyKey : String) : Prog Reply :=
  .call (.streamJobs (.owner ownerEmail)) fun owned =>
    match owned.find? fun data => data.idempotencyKey = some idempotencyKey with
    | some data => .ret (.view data.view)
    | none =>
        .call (.streamJobs .all) fun jobs =>
          stageEvent fresh.hex .investigationQueued >>= fun staged =>
            commit [.job (newJob fresh ownerEmail family idempotencyKey jobs.length),
              staged] >>= fun _ =>
                .ret (.view ⟨fresh.hex, .queued⟩)

def status (ownerEmail investigationId : String) : Prog Reply :=
  owned investigationId ownerEmail >>= fun data => .ret (.view data.view)

/-- `rows.sort(key=lambda row: int(row["ordinal"]))`. -/
def byOrdinal (events : List TimelineEvent) : List TimelineEvent :=
  events.insertionSort fun a b => a.ordinal ≤ b.ordinal

def events (ownerEmail investigationId : String) : Prog Reply :=
  owned investigationId ownerEmail >>= fun _ =>
    .call (.streamEvents investigationId) fun rows => .ret (.timeline (byOrdinal rows))

/-- A checkpoint id that is neither `None` nor empty. -/
def presentCheckpoint : Option String → Option String
  | none => none
  | some checkpointId => if checkpointId = "" then none else some checkpointId

protected def decide (ownerEmail investigationId : String) (d : OwnerDecision) : Prog Reply :=
  owned investigationId ownerEmail >>= fun job =>
    .call (.getDecision investigationId) fun
      | some prior =>
          match OwnerDecision.validate prior.decision prior.rejectionNote with
          | none => .raise (.value "stored owner decision is invalid")
          | some priorDecision =>
              match presentCheckpoint job.checkpointId with
              | none => .raise (.integrity "decision record has no paused checkpoint")
              | some checkpointId =>
                  if prior.checkpointId ≠ checkpointId then
                    .raise (.integrity "decision record belongs to a different checkpoint")
                  else if priorDecision ≠ d then
                    .raise (.conflict "a different owner decision is recorded")
                  else .ret (.view job.view)
      | none =>
          if job.status ≠ .pausedApproval then
            .raise (.conflict "investigation is not waiting for a decision")
          else
            match presentCheckpoint job.checkpointId with
            | none => .raise (.integrity "paused investigation has no checkpoint")
            | some checkpointId =>
                stageEvent investigationId
                  (.ownerDecisionRecorded checkpointId d.decision.text) >>= fun staged =>
                    commit [.decision ⟨.of checkpointId d, investigationId⟩,
                      .job { job with status := .queued }, staged] >>= fun _ =>
                        .ret (.view ⟨investigationId, .queued⟩)

/-- The checks `report` makes on a job before it hands out the stored text. -/
def reportText (s : Settings) (investigationId : String) (job : Job) :
    Except Refusal String :=
  if job.status ≠ .completed then .error (.conflict "report is not finalized")
  else
    match job.reportArtifact with
    | none => .error (.integrity "finalized investigation has no report artifact")
    | some storedArtifact =>
        if storedArtifact = "" then
          .error (.integrity "finalized investigation has no report artifact")
        else
          match job.reportContent, job.reportSha256 with
          | some storedContent, some storedSha256 =>
              match validateReportReference investigationId storedArtifact with
              | .error _ =>
                  .error (.integrity "finalized investigation report is unavailable")
              | .ok _ =>
                  if s.sha256 storedContent ≠ storedSha256 then
                    .error (.integrity "finalized investigation report is corrupt")
                  else .ok storedContent
          | _, _ => .error (.integrity "finalized investigation has no report snapshot")

def report (s : Settings) (ownerEmail investigationId : String) : Prog Reply :=
  owned investigationId ownerEmail >>= fun job =>
    Program.lift (reportText s investigationId job.toJob) >>= fun content =>
      .ret (.report content)

end Owner

section Worker

/-- The claim is over: not RUNNING, another token, or a lease that has ended. -/
def claimOver (now : Time) (claimToken : String) (data : JobDoc) : Bool :=
  data.status ≠ .running || data.claimToken ≠ some claimToken ||
    match data.claimExpiresAt with
    | none => true
    | some expiresAt => decide (expiresAt ≤ now)

def renewRunning (s : Settings) (now : Time) (investigationId claimToken : String) :
    Prog Reply :=
  .call (.getJob investigationId) fun
    | none => .raise (.conflict "investigation claim is no longer current")
    | some data =>
        if claimOver now claimToken data then
          .raise (.conflict "investigation claim is no longer current")
        else
          commit [.job { data with claimExpiresAt := some (now + s.claimLeaseSeconds) }] >>=
            fun _ => .ret .done

def reserveIncident (now : Time) (investigationId claimToken : String) : Prog Reply :=
  .call (.getJob investigationId) fun
    | none => .raise (.notFound "investigation not found")
    | some data =>
        if claimOver now claimToken data then
          .raise (.conflict "investigation claim is no longer current")
        else
          match data.incidentId with
          | none =>
              let incidentId := scenarioIncident investigationId
              commit [.job { data with incidentId := some incidentId }] >>= fun _ =>
                event investigationId (.scenarioReserved incidentId) >>= fun _ =>
                  .ret (.incident incidentId)
          | some stored =>
              if Text.isAlnum stored then .ret (.incident stored)
              else .raise (.integrity "stored incident id is invalid")

def scenarioStatus (incidentId : String) : Prog Reply :=
  .call (.streamJobs (.incident incidentId)) fun found =>
    match found with
    | [] => .ret (.scenario none)
    | data :: _ => .ret (.scenario (some data.view.status))

def incidentIdFor (investigationId : String) : Prog Reply :=
  .call (.getJob investigationId) fun
    | none => .raise (.notFound "investigation not found")
    | some data =>
        match data.incidentId with
        | none => .ret (.incidentId none)
        | some stored =>
            if Text.isAlnum stored then .ret (.incidentId (some stored))
            else .raise (.integrity "stored incident id is invalid")

/-- `_reclaim_expired_investigations`, for one document of its stream. -/
def reclaimInvestigation (s : Settings) (now : Time) (data : JobDoc) : Prog Unit :=
  if !expired now data.claimExpiresAt then .ret ()
  else
    let attempt := data.attemptCount + 1
    if s.maxReplayAttempts ≤ attempt then
      commit [.job { data with
        status := .queued
        claimToken := none
        claimExpiresAt := none
        attemptCount := attempt
        failureReason := some "retry_limit:lease_expired" }] >>= fun _ =>
          event data.id (.investigationFailed attempt)
    else
      let retryAt := now + s.retryDelay attempt
      commit [.job { data with
        status := .queued
        claimToken := none
        claimExpiresAt := none
        attemptCount := attempt
        availableAt := retryAt }] >>= fun _ =>
          event data.id (.investigationLeaseExpired attempt retryAt)

/-- A `for` loop over the documents of a stream. -/
def forEach {α : Type} (action : α → Prog Unit) : List α → Prog Unit
  | [] => .ret ()
  | data :: rest => action data >>= fun _ => forEach action rest

def reclaimExpiredInvestigations (s : Settings) (now : Time) : Prog Unit :=
  .call (.streamJobs (.status .running)) fun docs =>
    forEach (reclaimInvestigation s now) docs

def deferredScenario (now : Time) (data : JobDoc) : Bool :=
  data.incidentId.isSome && decide (now < data.availableAt)

def claimOrder (data : JobDoc) : ℕ ×ₗ Time ×ₗ ℕ :=
  toLex (if data.incidentId.isSome then 0 else 1, toLex (data.availableAt, data.sequence))

def workerClaim (row : JobDoc) (ownerDecision : Option OwnerDecision) (claimToken : String) :
    WorkerClaim where
  scenarioFamily := row.scenarioFamily
  seed := row.seed
  investigationId := row.id
  ownerEmail := row.owner
  checkpointId := row.checkpointId
  incidentId := row.incidentId
  ownerDecision := ownerDecision
  claimToken := claimToken

/-- The part of `claim_next` that follows the selection of a document. -/
def claimDoc (s : Settings) (a : Ambient) (row : JobDoc) : Prog Reply :=
  commit [.job { row with
    status := .running
    claimToken := some a.fresh.hex
    claimExpiresAt := some (a.now + s.claimLeaseSeconds) }] >>= fun _ =>
  event row.id .investigationStarted >>= fun _ =>
    .call (.getDecision row.id) fun
      | none => .ret (.claim (some (workerClaim row none a.fresh.hex)))
      | some decisionData =>
          match OwnerDecision.validate decisionData.decision decisionData.rejectionNote with
          | none => .raise (.integrity "stored owner decision is invalid")
          | some ownerDecision =>
              match presentCheckpoint row.checkpointId with
              | none => .raise (.integrity "resumed investigation has no checkpoint")
              | some checkpointId =>
                  if decisionData.checkpointId ≠ checkpointId then
                    .raise (.integrity
                      "stored owner decision belongs to a different checkpoint")
                  else
                    .ret (.claim (some (workerClaim row (some ownerDecision) a.fresh.hex)))

def claimNext (s : Settings) (a : Ambient) : Prog Reply :=
  reclaimExpiredInvestigations s a.now >>= fun _ =>
    .call (.streamJobs (.status .running)) fun running =>
      if !running.isEmpty then .ret (.claim none)
      else
        .call (.streamJobs (.status .queued)) fun docs =>
          let queued := docs.filter fun data => data.failureReason.isNone
          if queued.any (deferredScenario a.now) then .ret (.claim none)
          else
            match (queued.filter fun data => data.availableAt ≤ a.now).argmin claimOrder with
            | none => .ret (.claim none)
            | some row => claimDoc s a row

def markPaused (now : Time) (investigationId checkpointId claimToken : String) : Prog Reply :=
  .call (.getJob investigationId) fun
    | none => .raise (.notFound "investigation not found")
    | some data =>
        if claimOver now claimToken data then
          .raise (.conflict "investigation claim is no longer current")
        else
          stageEvent investigationId (.ownerDecisionRequested checkpointId) >>= fun staged =>
            commit [.job { data with
              status := .pausedApproval
              checkpointId := some checkpointId
              claimToken := none
              claimExpiresAt := none }, staged] >>= fun _ => .ret .done

def claimLost (claimToken : String) (data : JobDoc) : Bool :=
  data.status ≠ .running || data.claimToken ≠ some claimToken

def requeueRunning (investigationId claimToken : String) : Prog Reply :=
  .call (.getJob investigationId) fun
    | none => .raise (.conflict "only a running investigation may be requeued")
    | some data =>
        if claimLost claimToken data then
          .raise (.conflict "only a running investigation may be requeued")
        else
          commit [.job { data with
            status := .queued
            claimToken := none
            claimExpiresAt := none }] >>= fun _ =>
              event investigationId .investigationRequeued >>= fun _ => .ret .done

def retryRunning (s : Settings) (now : Time) (investigationId claimToken errorName : String) :
    Prog Reply :=
  .call (.getJob investigationId) fun
    | none => .raise (.notFound "investigation not found")
    | some data =>
        if claimLost claimToken data then
          .raise (.conflict "only a running investigation may be retried")
        else
          let attempt := data.attemptCount + 1
          if s.maxReplayAttempts ≤ attempt then
            commit [.job { data with
              status := .queued
              claimToken := none
              claimExpiresAt := none
              attemptCount := attempt
              failureReason := some ("retry_limit:" ++ errorName) }] >>= fun _ =>
                event investigationId (.investigationFailed attempt) >>= fun _ =>
                  .ret (.retryable false)
          else
            let retryAt := now + s.retryDelay attempt
            commit [.job { data with
              status := .queued
              claimToken := none
              claimExpiresAt := none
              attemptCount := attempt
              availableAt := retryAt }] >>= fun _ =>
                event investigationId (.investigationRetryScheduled attempt retryAt) >>=
                  fun _ => .ret (.retryable true)

def newDelivery (investigationId owner : String) (sequence : Nat) : DeliveryDoc where
  jobId := investigationId
  sequence := sequence
  destinationEmail := owner
  status := .pending
  claimToken := none
  claimExpiresAt := none
  attemptCount := 0
  availableAt := 0
  failureReason := none

def finalize (s : Settings) (a : Ambient)
    (investigationId reportArtifact claimToken : String) : Prog Reply :=
  .call (.getJob investigationId) fun
    | none => .raise (.notFound "investigation not found")
    | some data =>
        if data.status = .completed then
          .raise (.conflict "investigation is already finalized")
        else if claimOver a.now claimToken data then
          .raise (.conflict "investigation claim is no longer current")
        else
          Program.lift (readReportSnapshot a.reportFile investigationId reportArtifact) >>=
            fun content =>
              .call (.streamDeliveries .all) fun deliveries =>
                stageEvent investigationId .reportFinalized >>= fun staged =>
                  commit [.job { data with
                      status := .completed
                      reportArtifact := some reportArtifact
                      reportContent := some content
                      reportSha256 := some (s.sha256 content)
                      claimToken := none
                      claimExpiresAt := none },
                    .delivery (newDelivery investigationId data.owner deliveries.length),
                    staged] >>= fun _ => .ret .done

end Worker

section Outbox

/-- `_reclaim_expired_deliveries`, for one document of its stream. -/
def reclaimDelivery (s : Settings) (now : Time) (data : DeliveryDoc) : Prog Unit :=
  if !expired now data.claimExpiresAt then .ret ()
  else
    let attempt := data.attemptCount + 1
    if s.maxDeliveryAttempts ≤ attempt then
      commit [.delivery { data with
        status := .pending
        claimToken := none
        claimExpiresAt := none
        attemptCount := attempt
        failureReason := some "retry_limit:lease_expired" }] >>= fun _ =>
          event data.jobId (.reportDeliveryFailed attempt)
    else
      let retryAt := now + s.retryDelay attempt
      commit [.delivery { data with
        status := .pending
        claimToken := none
        claimExpiresAt := none
        attemptCount := attempt
        availableAt := retryAt }] >>= fun _ =>
          event data.jobId (.reportDeliveryLeaseExpired attempt retryAt)

def reclaimExpiredDeliveries (s : Settings) (now : Time) : Prog Unit :=
  .call (.streamDeliveries (.status .sending)) fun docs =>
    forEach (reclaimDelivery s now) docs

def deliveryOrder (data : DeliveryDoc) : Time ×ₗ ℕ :=
  toLex (data.availableAt, data.sequence)

def deliveryClaim (investigationId : String) (job : Job)
    (destinationEmail claimToken : String) : Except Refusal DeliveryClaim :=
  match job.reportArtifact, job.reportContent, job.reportSha256 with
  | some artifact, some content, some digest => .ok {
      investigationId := investigationId
      status := job.status.investigationStatus
      reportArtifact := artifact
      reportContent := content
      reportSha256 := digest
      destinationEmail := destinationEmail
      deliveryId := investigationId
      claimToken := claimToken }
  | _, _, _ => .error (.value "a delivery claim needs its report")

def claimDelivery (s : Settings) (a : Ambient) : Prog Reply :=
  reclaimExpiredDeliveries s a.now >>= fun _ =>
    .call (.streamDeliveries (.status .pending)) fun docs =>
      let candidates := docs.filter fun data =>
        data.failureReason.isNone && decide (data.availableAt ≤ a.now)
      match candidates.argmin deliveryOrder with
      | none => .ret (.delivery none)
      | some delivery =>
          .call (.getJob delivery.jobId) fun
            | none => .raise (.integrity "delivery references a missing investigation")
            | some job =>
                commit [.delivery { delivery with
                  status := .sending
                  claimToken := some a.fresh.hex
                  claimExpiresAt := some (a.now + s.claimLeaseSeconds) }] >>= fun _ =>
                    Program.lift (deliveryClaim delivery.jobId job.toJob
                      delivery.destinationEmail a.fresh.hex) >>= fun claim =>
                        .ret (.delivery (some claim))

def deliveryLost (claimToken : String) (data : DeliveryDoc) : Bool :=
  data.status ≠ .sending || data.claimToken ≠ some claimToken

def deliveryOver (now : Time) (claimToken : String) (data : DeliveryDoc) : Bool :=
  data.status ≠ .sending || data.claimToken ≠ some claimToken ||
    match data.claimExpiresAt with
    | none => true
    | some expiresAt => decide (expiresAt ≤ now)

def markDelivered (now : Time) (investigationId claimToken : String) : Prog Reply :=
  .call (.getDelivery investigationId) fun
    | none => .raise (.conflict "delivery is not currently claimed")
    | some data =>
        if deliveryOver now claimToken data then
          .raise (.conflict "delivery is not currently claimed")
        else
          commit [.delivery { data with
            status := .sent
            claimToken := none
            claimExpiresAt := none }] >>= fun _ =>
              event investigationId .reportDelivered >>= fun _ => .ret .done

def renewDelivery (s : Settings) (now : Time) (investigationId claimToken : String) :
    Prog Reply :=
  .call (.getDelivery investigationId) fun
    | none => .raise (.conflict "delivery is not currently claimed")
    | some data =>
        if deliveryOver now claimToken data then
          .raise (.conflict "delivery is not currently claimed")
        else
          commit [.delivery { data with
            claimExpiresAt := some (now + s.claimLeaseSeconds) }] >>= fun _ => .ret .done

def releaseDelivery (investigationId claimToken : String) : Prog Reply :=
  .call (.getDelivery investigationId) fun
    | none => .raise (.conflict "delivery is not currently claimed")
    | some data =>
        if deliveryLost claimToken data then
          .raise (.conflict "delivery is not currently claimed")
        else
          commit [.delivery { data with
            status := .pending
            claimToken := none
            claimExpiresAt := none }] >>= fun _ =>
              event investigationId .reportDeliveryRequeued >>= fun _ => .ret .done

def retryDelivery (s : Settings) (now : Time) (investigationId claimToken errorName : String) :
    Prog Reply :=
  .call (.getDelivery investigationId) fun
    | none => .raise (.notFound "report delivery not found")
    | some data =>
        if deliveryLost claimToken data then
          .raise (.conflict "delivery is not currently claimed")
        else
          let attempt := data.attemptCount + 1
          if s.maxDeliveryAttempts ≤ attempt then
            commit [.delivery { data with
              status := .pending
              claimToken := none
              claimExpiresAt := none
              attemptCount := attempt
              failureReason := some ("retry_limit:" ++ errorName) }] >>= fun _ =>
                event investigationId (.reportDeliveryFailed attempt) >>= fun _ =>
                  .ret (.retryable false)
          else
            let retryAt := now + s.retryDelay attempt
            commit [.delivery { data with
              status := .pending
              claimToken := none
              claimExpiresAt := none
              attemptCount := attempt
              availableAt := retryAt }] >>= fun _ =>
                event investigationId (.reportDeliveryRetryScheduled attempt retryAt) >>=
                  fun _ => .ret (.retryable true)

end Outbox

section Dispatch

/-- The argument checks a method makes before it takes the lock. -/
def precheck : Call → Except Refusal Unit
  | .markPaused _ checkpointId _ =>
      if Text.strip checkpointId = "" then .error (.value "checkpoint_id must not be blank")
      else .ok ()
  | .finalize _ reportArtifact _ =>
      if Text.strip reportArtifact = "" then
        .error (.value "report_artifact must not be blank")
      else .ok ()
  | _ => .ok ()

def body (s : Settings) (a : Ambient) : Call → Prog Reply
  | .create owner family key => create a.fresh owner family key
  | .status owner id => status owner id
  | .events owner id => events owner id
  | .decide owner id d => Firestore.decide owner id d
  | .report owner id => report s owner id
  | .renewRunning id token => renewRunning s a.now id token
  | .reserveIncident id token => reserveIncident a.now id token
  | .scenarioStatus incident => scenarioStatus incident
  | .incidentIdFor id => incidentIdFor id
  | .claimNext => claimNext s a
  | .markPaused id checkpoint token => markPaused a.now id checkpoint token
  | .requeueRunning id token => requeueRunning id token
  | .retryRunning id token errorName => retryRunning s a.now id token errorName
  | .finalize id artifact token => finalize s a id artifact token
  | .claimDelivery => claimDelivery s a
  | .markDelivered id token => markDelivered a.now id token
  | .renewDelivery id token => renewDelivery s a.now id token
  | .releaseDelivery id token => releaseDelivery id token
  | .retryDelivery id token errorName => retryDelivery s a.now id token errorName

/-- One call of a `FirestoreReplayControlPlane` method. -/
def method (s : Settings) (a : Ambient) (call : Call) : Prog Reply :=
  match precheck call with
  | .error e => .raise e
  | .ok _ => body s a call

def step (s : Settings) (streams : StreamOrder) (db : Database) (input : Ambient × Call) :
    Except Refusal Reply × Database :=
  (method s input.1 input.2).run (exec streams) db

end Dispatch

section Access

variable {streams : StreamOrder} {fs : Database} {id : String}

def Database.job (fs : Database) (id : String) : Option JobDoc :=
  Rows.lookup JobDoc.key id fs.jobs

def Database.decision (fs : Database) (id : String) : Option DecisionDoc :=
  Rows.lookup DecisionDoc.key id fs.decisions

def Database.delivery (fs : Database) (id : String) : Option DeliveryDoc :=
  Rows.lookup DeliveryDoc.key id fs.deliveries

def Database.timeline (fs : Database) (id : String) : List TimelineEvent :=
  (fs.events.filter fun doc => doc.jobId = id).map EventDoc.toTimelineEvent

def Database.nextEvent (fs : Database) (id : String) (o : Occurrence) : EventDoc :=
  ⟨⟨(fs.timeline id).length, o.name, o.fields⟩, id⟩

def Database.record (fs : Database) (id : String) (o : Occurrence) : Database :=
  fs.write (.event (fs.nextEvent id o))

@[simp] theorem exec_getJob : exec streams (.getJob id) fs = (fs.job id, fs) := rfl
@[simp] theorem exec_getDecision :
    exec streams (.getDecision id) fs = (fs.decision id, fs) := rfl
@[simp] theorem exec_getDelivery :
    exec streams (.getDelivery id) fs = (fs.delivery id, fs) := rfl
@[simp] theorem exec_streamEvents :
    exec streams (.streamEvents id) fs = (streams.order (fs.timeline id), fs) := rfl
@[simp] theorem exec_streamJobs (query : JobQuery) :
    exec streams (.streamJobs query) fs =
      (streams.order (fs.jobs.filter query.selects), fs) := rfl
@[simp] theorem exec_streamDeliveries (query : DeliveryQuery) :
    exec streams (.streamDeliveries query) fs =
      (streams.order (fs.deliveries.filter query.selects), fs) := rfl
@[simp] theorem exec_commit (writes : List Write) :
    exec streams (.commit writes) fs = ((), writes.foldl Database.write fs) := rfl

@[simp] theorem length_order {α : Type} (docs : List α) :
    (streams.order docs).length = docs.length :=
  (streams.perm docs).length_eq

@[simp] theorem mem_order {α : Type} {docs : List α} {doc : α} :
    doc ∈ streams.order docs ↔ doc ∈ docs :=
  (streams.perm docs).mem_iff

@[simp] theorem filter_all_jobs (docs : List JobDoc) :
    docs.filter JobQuery.all.selects = docs :=
  List.filter_eq_self.2 fun _ _ => rfl

@[simp] theorem filter_all_deliveries (docs : List DeliveryDoc) :
    docs.filter DeliveryQuery.all.selects = docs :=
  List.filter_eq_self.2 fun _ _ => rfl

@[simp] theorem run_commit (writes : List Write) :
    (commit writes).run (exec streams) fs = (.ok (), writes.foldl Database.write fs) := rfl

@[simp] theorem run_stageEvent (o : Occurrence) :
    (stageEvent id o).run (exec streams) fs = (.ok (.event (fs.nextEvent id o)), fs) := by
  simp [stageEvent, Database.nextEvent]

@[simp] theorem run_event (o : Occurrence) :
    (event id o).run (exec streams) fs = (.ok (), fs.record id o) := by
  simp [event, Program.run_bind, Database.record]

@[simp] theorem write_job_decision (doc : JobDoc) :
    (fs.write (.job doc)).decision id = fs.decision id := rfl

@[simp] theorem record_decision (o : Occurrence) (other : String) :
    (fs.record id o).decision other = fs.decision other := rfl

end Access

end CausalOps.ControlPlane.Firestore
