import Mathlib.Logic.Relation
import CausalOps.ControlPlane.Sqlite

set_option autoImplicit false

/-! What the methods of the SQLite control plane can do to its tables: a small set
of moves, and for each method the moves it is made of. -/

namespace CausalOps.ControlPlane.Sqlite

section Access

variable {db : Database} {id : String}

@[simp] theorem event_jobs (o : Occurrence) : (db.event id o).jobs = db.jobs := rfl
@[simp] theorem event_decisions (o : Occurrence) :
    (db.event id o).decisions = db.decisions := rfl
@[simp] theorem event_deliveries (o : Occurrence) :
    (db.event id o).deliveries = db.deliveries := rfl
@[simp] theorem event_job (o : Occurrence) (other : String) :
    (db.event id o).job other = db.job other := rfl
@[simp] theorem event_decision (o : Occurrence) (other : String) :
    (db.event id o).decision other = db.decision other := rfl
@[simp] theorem event_delivery (o : Occurrence) (other : String) :
    (db.event id o).delivery other = db.delivery other := rfl

def Database.setJob (db : Database) (id : String) (job : Job) : Database :=
  db.updateJob id fun row => { row with toJob := job }

def Database.setDelivery (db : Database) (id : String) (delivery : Delivery) : Database :=
  db.updateDelivery id fun row => { row with toDelivery := delivery }

def Database.emit (db : Database) (id : String) : Option Occurrence → Database
  | none => db
  | some o => db.event id o

@[simp] theorem emit_jobs (o : Option Occurrence) : (db.emit id o).jobs = db.jobs := by
  cases o <;> rfl
@[simp] theorem emit_decisions (o : Option Occurrence) :
    (db.emit id o).decisions = db.decisions := by
  cases o <;> rfl
@[simp] theorem emit_deliveries (o : Option Occurrence) :
    (db.emit id o).deliveries = db.deliveries := by
  cases o <;> rfl

@[simp] theorem setJob_decisions (job : Job) :
    (db.setJob id job).decisions = db.decisions := rfl
@[simp] theorem setJob_deliveries (job : Job) :
    (db.setJob id job).deliveries = db.deliveries := rfl
@[simp] theorem setJob_events (job : Job) : (db.setJob id job).events = db.events := rfl
@[simp] theorem setDelivery_jobs (delivery : Delivery) :
    (db.setDelivery id delivery).jobs = db.jobs := rfl
@[simp] theorem setDelivery_decisions (delivery : Delivery) :
    (db.setDelivery id delivery).decisions = db.decisions := rfl
@[simp] theorem setDelivery_events (delivery : Delivery) :
    (db.setDelivery id delivery).events = db.events := rfl

theorem job_mem {row : JobRow} (h : db.job id = some row) : row ∈ db.jobs :=
  Rows.lookup_mem h

theorem job_id {row : JobRow} (h : db.job id = some row) : row.id = id :=
  (Rows.lookup_key h : row.key = id)

theorem delivery_mem {row : DeliveryRow} (h : db.delivery id = some row) :
    row ∈ db.deliveries :=
  Rows.lookup_mem h

theorem delivery_jobId {row : DeliveryRow} (h : db.delivery id = some row) :
    row.jobId = id :=
  (Rows.lookup_key h : row.key = id)

theorem decision_mem {row : MirrorRow} (h : db.decision id = some row) :
    row ∈ db.decisions :=
  Rows.lookup_mem h

end Access

section Moves

/-- What the workers do: where they may pause a job, and the tokens they are issued. -/
structure Conduct where
  pausable : Database → String → String → Prop
  issued : String → Prop

/-- What holds around the tables: the conduct of the workers, and which decision is on
record for a thread and checkpoint. -/
structure Rules extends Conduct where
  recorded : String → String → OwnerDecision → Prop

/-- A change of one job, with the timeline event that comes with it. -/
inductive JobStep (s : Settings) (rules : Rules) (db : Database) (job : Job) :
    Job → Option Occurrence → Prop where
  | leaseFailed {now : Time} (hrunning : job.status = .running)
      (hexpired : expired now job.claimExpiresAt = true)
      (hlimit : s.maxReplayAttempts ≤ job.attemptCount + 1) :
      JobStep s rules db job
        { job with
          status := .queued
          claimToken := none
          claimExpiresAt := none
          attemptCount := job.attemptCount + 1
          failureReason := some "retry_limit:lease_expired" }
        (some (.investigationFailed (job.attemptCount + 1)))
  | leaseExpired {now : Time} (hrunning : job.status = .running)
      (hexpired : expired now job.claimExpiresAt = true)
      (hlimit : job.attemptCount + 1 < s.maxReplayAttempts) :
      JobStep s rules db job
        { job with
          status := .queued
          claimToken := none
          claimExpiresAt := none
          attemptCount := job.attemptCount + 1
          availableAt := now + s.retryDelay (job.attemptCount + 1) }
        (some (.investigationLeaseExpired (job.attemptCount + 1)
          (now + s.retryDelay (job.attemptCount + 1))))
  | started {now : Time} {token : String} (hissued : rules.issued token)
      (hqueued : job.status = .queued) (hlive : job.failureReason = none) (havailable : job.availableAt ≤ now)
      (hidle : ∀ row ∈ db.jobs, row.status ≠ .running)
      (hlab : ∀ row ∈ db.jobs, deferredScenario now row = false)
      (hfirst : job.incidentId = none → ∀ row ∈ db.jobs, claimable now row = true →
        row.incidentId = none) :
      JobStep s rules db job
        { job with
          status := .running
          claimToken := some token
          claimExpiresAt := some (now + s.claimLeaseSeconds) }
        (some .investigationStarted)
  | renewed {now : Time} (hrunning : job.status = .running)
      (hcurrent : unexpired now job.claimExpiresAt = true) :
      JobStep s rules db job { job with claimExpiresAt := some (now + s.claimLeaseSeconds) } none
  | reserved (hrunning : job.status = .running) (hnone : job.incidentId = none) :
      JobStep s rules db job { job with incidentId := some (scenarioIncident job.id) }
        (some (.scenarioReserved (scenarioIncident job.id)))
  | paused {checkpointId token : String} (hrunning : job.status = .running)
      (htoken : job.claimToken = some token) (hpresent : Text.strip checkpointId ≠ "")
      (hpausable : rules.pausable db job.id checkpointId) :
      JobStep s rules db job
        { job with
          status := .pausedApproval
          checkpointId := some checkpointId
          claimToken := none
          claimExpiresAt := none }
        (some (.ownerDecisionRequested checkpointId))
  | requeued (hrunning : job.status = .running) :
      JobStep s rules db job
        { job with status := .queued, claimToken := none, claimExpiresAt := none }
        (some .investigationRequeued)
  | retryFailed {errorName : String} (hrunning : job.status = .running)
      (hlimit : s.maxReplayAttempts ≤ job.attemptCount + 1) :
      JobStep s rules db job
        { job with
          status := .queued
          claimToken := none
          claimExpiresAt := none
          attemptCount := job.attemptCount + 1
          failureReason := some ("retry_limit:" ++ errorName) }
        (some (.investigationFailed (job.attemptCount + 1)))
  | retryScheduled {now : Time} (hrunning : job.status = .running)
      (hlimit : job.attemptCount + 1 < s.maxReplayAttempts) :
      JobStep s rules db job
        { job with
          status := .queued
          claimToken := none
          claimExpiresAt := none
          attemptCount := job.attemptCount + 1
          availableAt := now + s.retryDelay (job.attemptCount + 1) }
        (some (.investigationRetryScheduled (job.attemptCount + 1)
          (now + s.retryDelay (job.attemptCount + 1))))

/-- A change of one delivery, with the timeline event that comes with it. -/
inductive DeliveryStep (s : Settings) (delivery : Delivery) :
    Delivery → Option Occurrence → Prop where
  | leaseFailed {now : Time} (hsending : delivery.status = .sending)
      (hexpired : expired now delivery.claimExpiresAt = true)
      (hlimit : s.maxDeliveryAttempts ≤ delivery.attemptCount + 1) :
      DeliveryStep s delivery
        { delivery with
          status := .pending
          claimToken := none
          claimExpiresAt := none
          attemptCount := delivery.attemptCount + 1
          failureReason := some "retry_limit:lease_expired" }
        (some (.reportDeliveryFailed (delivery.attemptCount + 1)))
  | leaseExpired {now : Time} (hsending : delivery.status = .sending)
      (hexpired : expired now delivery.claimExpiresAt = true)
      (hlimit : delivery.attemptCount + 1 < s.maxDeliveryAttempts) :
      DeliveryStep s delivery
        { delivery with
          status := .pending
          claimToken := none
          claimExpiresAt := none
          attemptCount := delivery.attemptCount + 1
          availableAt := now + s.retryDelay (delivery.attemptCount + 1) }
        (some (.reportDeliveryLeaseExpired (delivery.attemptCount + 1)
          (now + s.retryDelay (delivery.attemptCount + 1))))
  | claimed {now : Time} {token : String} (hdeliverable : deliverable now delivery = true) :
      DeliveryStep s delivery
        { delivery with
          status := .sending
          claimToken := some token
          claimExpiresAt := some (now + s.claimLeaseSeconds) }
        none
  | delivered {now : Time} (hsending : delivery.status = .sending)
      (hcurrent : unexpired now delivery.claimExpiresAt = true) :
      DeliveryStep s delivery
        { delivery with status := .sent, claimToken := none, claimExpiresAt := none }
        (some .reportDelivered)
  | renewed {now : Time} (hsending : delivery.status = .sending)
      (hcurrent : unexpired now delivery.claimExpiresAt = true) :
      DeliveryStep s delivery
        { delivery with claimExpiresAt := some (now + s.claimLeaseSeconds) } none
  | released (hsending : delivery.status = .sending) :
      DeliveryStep s delivery
        { delivery with status := .pending, claimToken := none, claimExpiresAt := none }
        (some .reportDeliveryRequeued)
  | retryFailed {errorName : String} (hsending : delivery.status = .sending)
      (hlimit : s.maxDeliveryAttempts ≤ delivery.attemptCount + 1) :
      DeliveryStep s delivery
        { delivery with
          status := .pending
          claimToken := none
          claimExpiresAt := none
          attemptCount := delivery.attemptCount + 1
          failureReason := some ("retry_limit:" ++ errorName) }
        (some (.reportDeliveryFailed (delivery.attemptCount + 1)))
  | retryScheduled {now : Time} (hsending : delivery.status = .sending)
      (hlimit : delivery.attemptCount + 1 < s.maxDeliveryAttempts) :
      DeliveryStep s delivery
        { delivery with
          status := .pending
          claimToken := none
          claimExpiresAt := none
          attemptCount := delivery.attemptCount + 1
          availableAt := now + s.retryDelay (delivery.attemptCount + 1) }
        (some (.reportDeliveryRetryScheduled (delivery.attemptCount + 1)
          (now + s.retryDelay (delivery.attemptCount + 1))))

/-- The columns that `finalize` writes. -/
def completedJob (s : Settings) (job : Job) (artifact content : String) : Job :=
  { job with
    status := .completed
    reportArtifact := some artifact
    reportContent := some content
    reportSha256 := some (s.sha256 content)
    claimToken := none
    claimExpiresAt := none }

/-- The columns of a paused job once its decision is in. -/
def queuedJob (job : Job) : Job := { job with status := .queued }

/-- One move on the tables. A paused job is only queued on a decision on record. -/
inductive Move (s : Settings) (rules : Rules) : Database → Database → Prop where
  | created {db : Database} (fresh : Uuid) (ownerEmail : String) (family : ScenarioFamily)
      (idempotencyKey : String) (habsent : db.job fresh.hex = none)
      (hkey : ∀ row ∈ db.jobs, ¬ (row.owner = ownerEmail ∧
        row.idempotencyKey = some idempotencyKey)) :
      Move s rules db
        ((db.insertJob (newJob fresh ownerEmail family idempotencyKey)).event fresh.hex
          .investigationQueued)
  | job {db : Database} {id : String} {row : JobRow} {job : Job} {o : Option Occurrence}
      (hrow : db.job id = some row) (hstep : JobStep s rules db row.toJob job o) :
      Move s rules db ((db.setJob id job).emit id o)
  | decided {db : Database} {id checkpointId : String} {row : JobRow} {d : OwnerDecision}
      (hrow : db.job id = some row) (hpaused : row.status = .pausedApproval)
      (hcheckpoint : row.checkpointId = some checkpointId) (hpresent : checkpointId ≠ "")
      (hrecorded : rules.recorded id checkpointId d) (hnone : db.decision id = none) :
      Move s rules db (queueDecided (insertMirror db id checkpointId d) id checkpointId d)
  | redecided {db : Database} {id checkpointId : String} {row : JobRow} {d : OwnerDecision}
      {mirrored : MirrorRow} (hrow : db.job id = some row)
      (hpaused : row.status = .pausedApproval)
      (hcheckpoint : row.checkpointId = some checkpointId) (hpresent : checkpointId ≠ "")
      (hrecorded : rules.recorded id checkpointId d) (hmirrored : db.decision id = some mirrored) :
      Move s rules db (queueDecided db id checkpointId d)
  | finalized {db : Database} {id artifact content : String} {row : JobRow} {path : PurePath}
      (hrow : db.job id = some row) (hrunning : row.status = .running)
      (hpath : validateReportReference id artifact = .ok path)
      (hblank : Text.strip artifact ≠ "") (habsent : db.delivery id = none) :
      Move s rules db
        (((db.setJob id (completedJob s row.toJob artifact content)).insertDelivery
          (newDelivery row.toJob)).event id .reportFinalized)
  | delivery {db : Database} {id : String} {row : DeliveryRow} {delivery : Delivery}
      {o : Option Occurrence} (hrow : db.delivery id = some row)
      (hstep : DeliveryStep s row.toDelivery delivery o) :
      Move s rules db ((db.setDelivery id delivery).emit id o)

abbrev Moves (s : Settings) (rules : Rules) : Database → Database → Prop :=
  Relation.ReflTransGen (Move s rules)

theorem JobStep.keeps {s : Settings} {rules : Rules} {db : Database} {job job' : Job}
    {o : Option Occurrence} (h : JobStep s rules db job job' o) :
    job'.id = job.id ∧ job'.owner = job.owner ∧ job'.idempotencyKey = job.idempotencyKey := by
  cases h <;> exact ⟨rfl, rfl, rfl⟩

theorem DeliveryStep.keeps {s : Settings} {delivery delivery' : Delivery}
    {o : Option Occurrence} (h : DeliveryStep s delivery delivery' o) :
    delivery'.jobId = delivery.jobId ∧
      delivery'.destinationEmail = delivery.destinationEmail := by
  cases h <;> exact ⟨rfl, rfl⟩

theorem Move.mono {s : Settings} {rules rules' : Rules}
    (hrecorded : ∀ id checkpointId d, rules.recorded id checkpointId d →
      rules'.recorded id checkpointId d)
    (hconduct : rules'.toConduct = rules.toConduct)
    {db db' : Database} (h : Move s rules db db') : Move s rules' db db' := by
  cases h with
  | created fresh owner family key habsent hkey =>
      exact .created fresh owner family key habsent hkey
  | job hrow hstep =>
      refine .job hrow ?_
      cases hstep with
      | leaseFailed hrunning hexpired hlimit => exact .leaseFailed hrunning hexpired hlimit
      | leaseExpired hrunning hexpired hlimit => exact .leaseExpired hrunning hexpired hlimit
      | started hissued hqueued hlive havailable hidle hlab hfirst =>
          exact .started (hconduct ▸ hissued) hqueued hlive havailable hidle hlab hfirst
      | renewed hrunning hcurrent => exact .renewed hrunning hcurrent
      | reserved hrunning hnone => exact .reserved hrunning hnone
      | paused hrunning htoken hpresent hpause =>
          exact .paused hrunning htoken hpresent (hconduct ▸ hpause)
      | requeued hrunning => exact .requeued hrunning
      | retryFailed hrunning hlimit => exact .retryFailed hrunning hlimit
      | retryScheduled hrunning hlimit => exact .retryScheduled hrunning hlimit
  | decided hrow hpaused hcheckpoint hpresent hdecision hnone =>
      exact .decided hrow hpaused hcheckpoint hpresent (hrecorded _ _ _ hdecision) hnone
  | redecided hrow hpaused hcheckpoint hpresent hdecision hmirrored =>
      exact .redecided hrow hpaused hcheckpoint hpresent (hrecorded _ _ _ hdecision) hmirrored
  | finalized hrow hrunning hpath hblank habsent =>
      exact .finalized hrow hrunning hpath hblank habsent
  | delivery hrow hstep => exact .delivery hrow hstep

theorem Moves.mono {s : Settings} {rules rules' : Rules}
    (hrecorded : ∀ id checkpointId d, rules.recorded id checkpointId d →
      rules'.recorded id checkpointId d)
    (hconduct : rules'.toConduct = rules.toConduct)
    {db db' : Database} (h : Moves s rules db db') : Moves s rules' db db' :=
  Relation.ReflTransGen.mono (fun _ _ => Move.mono hrecorded hconduct) _ _ h

end Moves

section Keys

structure Keys (db : Database) : Prop where
  jobs : Rows.Keyed JobRow.key db.jobs
  decisions : Rows.Keyed MirrorRow.key db.decisions
  deliveries : Rows.Keyed DeliveryRow.key db.deliveries

theorem keys_empty : Keys .empty := ⟨by simp [Database.empty], by simp [Database.empty],
  by simp [Database.empty]⟩

variable {db : Database} {id : String}

/-- Under its key, an update of a job is determined by the row that is there. -/
theorem updateJob_eq_setJob (hkeys : Keys db) {row : JobRow} (hrow : db.job id = some row)
    (set : JobRow → JobRow) (hrowid : (set row).rowid = row.rowid) :
    db.updateJob id set = db.setJob id (set row).toJob := by
  have hjobs : Rows.modify JobRow.key id set db.jobs =
      Rows.modify JobRow.key id (fun r => { r with toJob := (set row).toJob }) db.jobs :=
    Rows.modify_congr hkeys.jobs hrow (by rw [← hrowid])
  simp only [Database.setJob, Database.updateJob, hjobs]

theorem updateDelivery_eq_setDelivery (hkeys : Keys db) {row : DeliveryRow}
    (hrow : db.delivery id = some row) (set : DeliveryRow → DeliveryRow)
    (hrowid : (set row).rowid = row.rowid) :
    db.updateDelivery id set = db.setDelivery id (set row).toDelivery := by
  have hdeliveries : Rows.modify DeliveryRow.key id set db.deliveries =
      Rows.modify DeliveryRow.key id
        (fun r => { r with toDelivery := (set row).toDelivery }) db.deliveries :=
    Rows.modify_congr hkeys.deliveries hrow (by rw [← hrowid])
  simp only [Database.setDelivery, Database.updateDelivery, hdeliveries]

/-- `setJob` as a change that keeps keys whatever row it meets. -/
theorem setJob_eq_modify (hkeys : Keys db) {row : JobRow} (hrow : db.job id = some row)
    {job : Job} :
    (db.setJob id job).jobs =
      Rows.modify JobRow.key id
        (fun r => if r.id = id then { r with toJob := job } else r) db.jobs :=
  Rows.modify_congr hkeys.jobs hrow (by simp [job_id hrow])

theorem setJob_keyed (hkeys : Keys db) {row : JobRow} (hrow : db.job id = some row)
    {job : Job} (hid : job.id = row.id) :
    Rows.Keyed JobRow.key (db.setJob id job).jobs := by
  rw [setJob_eq_modify hkeys hrow]
  refine hkeys.jobs.modify fun r => ?_
  by_cases h : r.id = id
  · simp [h, JobRow.key, hid, job_id hrow]
  · simp [h]

theorem setDelivery_keyed (hkeys : Keys db) {row : DeliveryRow}
    (hrow : db.delivery id = some row) {delivery : Delivery}
    (hid : delivery.jobId = row.jobId) :
    Rows.Keyed DeliveryRow.key (db.setDelivery id delivery).deliveries := by
  have heq : (db.setDelivery id delivery).deliveries =
      Rows.modify DeliveryRow.key id
        (fun r => if r.jobId = id then { r with toDelivery := delivery } else r)
        db.deliveries :=
    Rows.modify_congr hkeys.deliveries hrow (by simp [delivery_jobId hrow])
  rw [heq]
  refine hkeys.deliveries.modify fun r => ?_
  by_cases h : r.jobId = id
  · simp [h, DeliveryRow.key, hid, delivery_jobId hrow]
  · simp [h]

theorem mem_setJob_jobs (hkeys : Keys db) {row : JobRow} (hrow : db.job id = some row)
    {job : Job} {r : JobRow} :
    r ∈ (db.setJob id job).jobs ↔
      r = { row with toJob := job } ∨ (r ∈ db.jobs ∧ r.id ≠ id) := by
  simp only [Database.setJob, Database.updateJob, Rows.mem_modify]
  constructor
  · rintro ⟨old, hold, rfl⟩
    by_cases h : old.key = id
    · have heq : old = row :=
        hkeys.jobs.eq_of_key_eq hold (job_mem hrow) (h.trans (job_id hrow).symm)
      left
      rw [if_pos h, heq]
    · right
      simp only [h, if_false]
      exact ⟨hold, h⟩
  · rintro (rfl | ⟨hr, hne⟩)
    · exact ⟨row, job_mem hrow, by simp [JobRow.key, job_id hrow]⟩
    · exact ⟨r, hr, by simp [JobRow.key, hne]⟩

theorem setJob_job (hkeys : Keys db) {row : JobRow} (hrow : db.job id = some row)
    {job : Job} (hid : job.id = row.id) (other : String) :
    (db.setJob id job).job other =
      if other = id then some { row with toJob := job } else db.job other := by
  have hkeep : ∀ r : JobRow,
      (if r.id = id then { r with toJob := job } else r : JobRow).key = r.key := by
    intro r
    by_cases h : r.id = id
    · simp [h, JobRow.key, hid, job_id hrow]
    · simp [h]
  change Rows.lookup JobRow.key other (db.setJob id job).jobs = _
  rw [setJob_eq_modify hkeys hrow]
  by_cases h : other = id
  · subst h
    rw [Rows.lookup_modify_self hkeep]
    change (db.job other).map _ = _
    simp [hrow, job_id hrow]
  · rw [Rows.lookup_modify_ne hkeep h, if_neg h]
    rfl

theorem updateJob_job (hkeys : Keys db) {row : JobRow} (hrow : db.job id = some row)
    (set : JobRow → JobRow) (hrowid : (set row).rowid = row.rowid)
    (hid : (set row).id = row.id) (other : String) :
    (db.updateJob id set).job other =
      if other = id then some (set row) else db.job other := by
  rw [updateJob_eq_setJob hkeys hrow set hrowid, setJob_job hkeys hrow hid, ← hrowid]

theorem insertMirror_keys (hkeys : Keys db) {checkpointId : String} {d : OwnerDecision}
    (hnone : db.decision id = none) : Keys (insertMirror db id checkpointId d) :=
  ⟨hkeys.jobs, hkeys.decisions.append (Rows.lookup_eq_none.1 hnone), hkeys.deliveries⟩

theorem queueDecided_jobs (hkeys : Keys db) {row : JobRow} (hrow : db.job id = some row)
    {checkpointId : String} {d : OwnerDecision} :
    (queueDecided db id checkpointId d).jobs = (db.setJob id (queuedJob row.toJob)).jobs := by
  have hset := updateJob_eq_setJob hkeys hrow (fun r => { r with status := .queued }) rfl
  have hjobs := congrArg Database.jobs hset
  exact hjobs

theorem queueDecided_job (hkeys : Keys db) {row : JobRow} (hrow : db.job id = some row)
    {checkpointId : String} {d : OwnerDecision} (other : String) :
    (queueDecided db id checkpointId d).job other =
      if other = id then some { row with toJob := queuedJob row.toJob }
      else db.job other := by
  have hjob : (queueDecided db id checkpointId d).job other =
      (db.setJob id (queuedJob row.toJob)).job other := by
    simp only [Database.job, queueDecided_jobs hkeys hrow]
  have hid : (queuedJob row.toJob).id = row.id := rfl
  rw [hjob, setJob_job hkeys hrow hid]

theorem insertMirror_decision {checkpointId : String} {d : OwnerDecision} (other : String) :
    (insertMirror db id checkpointId d).decision other =
      (db.decision other).or (if id = other then some ⟨.of checkpointId d, id⟩ else none) :=
  Rows.lookup_append

theorem mem_setDelivery (hkeys : Keys db) {row : DeliveryRow}
    (hrow : db.delivery id = some row) {delivery : Delivery} {r : DeliveryRow} :
    r ∈ (db.setDelivery id delivery).deliveries ↔
      r = { row with toDelivery := delivery } ∨ (r ∈ db.deliveries ∧ r.jobId ≠ id) := by
  simp only [Database.setDelivery, Database.updateDelivery, Rows.mem_modify]
  constructor
  · rintro ⟨old, hold, rfl⟩
    by_cases h : old.key = id
    · have heq : old = row :=
        hkeys.deliveries.eq_of_key_eq hold (delivery_mem hrow)
          (h.trans (delivery_jobId hrow).symm)
      left
      rw [if_pos h, heq]
    · right
      simp only [h, if_false]
      exact ⟨hold, h⟩
  · rintro (rfl | ⟨hr, hne⟩)
    · exact ⟨row, delivery_mem hrow, by simp [DeliveryRow.key, delivery_jobId hrow]⟩
    · exact ⟨r, hr, by simp [DeliveryRow.key, hne]⟩

theorem setDelivery_delivery (hkeys : Keys db) {row : DeliveryRow}
    (hrow : db.delivery id = some row) {delivery : Delivery}
    (hid : delivery.jobId = row.jobId) (other : String) :
    (db.setDelivery id delivery).delivery other =
      if other = id then some { row with toDelivery := delivery } else db.delivery other := by
  have hkeep : ∀ r : DeliveryRow,
      (if r.jobId = id then { r with toDelivery := delivery } else r : DeliveryRow).key =
        r.key := by
    intro r
    by_cases h : r.jobId = id
    · simp [h, DeliveryRow.key, hid, delivery_jobId hrow]
    · simp [h]
  have heq : (db.setDelivery id delivery).deliveries =
      Rows.modify DeliveryRow.key id
        (fun r => if r.jobId = id then { r with toDelivery := delivery } else r)
        db.deliveries :=
    Rows.modify_congr hkeys.deliveries hrow (by simp [delivery_jobId hrow])
  change Rows.lookup DeliveryRow.key other (db.setDelivery id delivery).deliveries = _
  rw [heq]
  by_cases h : other = id
  · subst h
    rw [Rows.lookup_modify_self hkeep]
    change (db.delivery other).map _ = _
    simp [hrow, delivery_jobId hrow]
  · rw [Rows.lookup_modify_ne hkeep h, if_neg h]
    rfl

theorem Move.keys {s : Settings} {rules : Rules}
    {db db' : Database} (h : Move s rules db db') (hkeys : Keys db) : Keys db' := by
  cases h with
  | created fresh owner family key habsent hkey =>
      refine ⟨?_, hkeys.decisions, hkeys.deliveries⟩
      exact hkeys.jobs.append (Rows.lookup_eq_none.1 habsent)
  | job hrow hstep =>
      refine ⟨?_, by simpa using hkeys.decisions, by simpa using hkeys.deliveries⟩
      simpa using setJob_keyed hkeys hrow hstep.keeps.1
  | decided hrow hpaused hcheckpoint hpresent hrecorded hnone =>
      refine ⟨?_, ?_, hkeys.deliveries⟩
      · exact hkeys.jobs.modify fun _ => rfl
      · exact hkeys.decisions.append (Rows.lookup_eq_none.1 hnone)
  | redecided hrow hpaused hcheckpoint hpresent hrecorded hmirrored =>
      exact ⟨hkeys.jobs.modify fun _ => rfl, hkeys.decisions, hkeys.deliveries⟩
  | finalized hrow hrunning hpath hblank habsent =>
      refine ⟨setJob_keyed hkeys hrow rfl, hkeys.decisions, ?_⟩
      refine hkeys.deliveries.append fun old hold heq => ?_
      exact Rows.lookup_eq_none.1 habsent old hold (heq.trans (job_id hrow))
  | delivery hrow hstep =>
      refine ⟨by simpa using hkeys.jobs, by simpa using hkeys.decisions, ?_⟩
      simpa using setDelivery_keyed hkeys hrow hstep.keeps.1

theorem Moves.preserve {s : Settings} {rules : Rules}
    {invariant : Database → Prop}
    (hstep : ∀ db db', Keys db → invariant db → Move s rules db db' → invariant db')
    {db db' : Database} (h : Moves s rules db db') (hkeys : Keys db)
    (hinv : invariant db) : Keys db' ∧ invariant db' := by
  induction h with
  | refl => exact ⟨hkeys, hinv⟩
  | tail _ hmove ih => exact ⟨hmove.keys ih.1, hstep _ _ ih.1 ih.2 hmove⟩

theorem Moves.keys {s : Settings} {rules : Rules}
    {db db' : Database} (h : Moves s rules db db') (hkeys : Keys db) : Keys db' := by
  induction h with
  | refl => exact hkeys
  | tail _ hmove ih => exact hmove.keys ih

end Keys

end CausalOps.ControlPlane.Sqlite
