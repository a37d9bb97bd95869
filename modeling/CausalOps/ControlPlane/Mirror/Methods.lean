import CausalOps.Library.Selection
import CausalOps.ControlPlane.Mirror.Documents

set_option autoImplicit false

/-! The Firestore methods that read one job or one delivery, against the SQLite methods
of the same name. -/

namespace CausalOps.ControlPlane.Mirror

open Firestore (StreamOrder)
open Sqlite (Keys Orderly settled)

/-- The Firestore method answers as the SQLite method does and leaves the same records. -/
def Mirrors (streams : StreamOrder) (fs : Firestore.Database) (db : Sqlite.Database)
    (p : Firestore.Prog Reply) (result : Except Refusal (Reply × Sqlite.Database)) : Prop :=
  ∃ fs', p.run (Firestore.exec streams) fs = (result.map Prod.fst, fs') ∧
    Coupled (settled db result) fs'

section Guards

variable {now : Time} {token : String}

theorem claimOver_jobDoc (row : Sqlite.JobRow) :
    Firestore.claimOver now token (jobDoc row) = !Sqlite.claimCurrent now token row := by
  by_cases hrunning : row.status = .running <;>
    by_cases htoken : row.claimToken = some token <;>
      cases hend : row.claimExpiresAt <;>
        simp [Firestore.claimOver, Sqlite.claimCurrent, unexpired, jobDoc, hrunning, htoken, hend,
          ← decide_not]

theorem claimLost_jobDoc (row : Sqlite.JobRow) :
    Firestore.claimLost token (jobDoc row) = !Sqlite.claimHeld token row := by
  by_cases hrunning : row.status = .running <;>
    by_cases htoken : row.claimToken = some token <;>
      simp [Firestore.claimLost, Sqlite.claimHeld, jobDoc, hrunning, htoken]

theorem deliveryOver_deliveryDoc (row : Sqlite.DeliveryRow) :
    Firestore.deliveryOver now token (deliveryDoc row) =
      !Sqlite.deliveryCurrent now token row := by
  by_cases hsending : row.status = .sending <;>
    by_cases htoken : row.claimToken = some token <;>
      cases hend : row.claimExpiresAt <;>
        simp [Firestore.deliveryOver, Sqlite.deliveryCurrent, unexpired, deliveryDoc, hsending,
          htoken, hend, ← decide_not]

theorem deliveryLost_deliveryDoc (row : Sqlite.DeliveryRow) :
    Firestore.deliveryLost token (deliveryDoc row) = !Sqlite.deliveryHeld token row := by
  by_cases hsending : row.status = .sending <;>
    by_cases htoken : row.claimToken = some token <;>
      simp [Firestore.deliveryLost, Sqlite.deliveryHeld, deliveryDoc, hsending, htoken]

end Guards

section Guarded

variable {db : Sqlite.Database} {id : String} {e : Refusal}

/-- `UPDATE replay_jobs … WHERE id = ? AND …` with a check of `rowcount`. -/
theorem guarded_jobs (hkeys : Keys db) (guard : Sqlite.JobRow → Bool)
    (set : Sqlite.JobRow → Sqlite.JobRow)
    (finish : Sqlite.Database → Reply × Sqlite.Database) :
    (if db.jobs.countP (fun row => decide (row.key = id) && guard row) ≠ 1 then .error e
      else .ok (finish { db with
        jobs := Rows.update (fun row => decide (row.key = id) && guard row) set db.jobs }) :
        Except Refusal (Reply × Sqlite.Database)) =
      match db.job id with
      | none => .error e
      | some row => if guard row then .ok (finish (db.updateJob id set)) else .error e := by
  by_cases hcount : db.jobs.countP (fun row => decide (row.key = id) && guard row) = 1
  · obtain ⟨row, hrow, hguard⟩ := (Sqlite.countP_jobs hkeys guard).1 hcount
    rw [if_neg (not_not.2 hcount), Sqlite.update_jobs hkeys hrow hguard]
    simp [hrow, hguard, Sqlite.Database.updateJob]
  · rw [if_pos hcount]
    cases hrow : db.job id with
    | none => rfl
    | some row =>
        by_cases hguard : guard row = true
        · exact absurd ((Sqlite.countP_jobs hkeys guard).2 ⟨row, hrow, hguard⟩) hcount
        · simp [hguard]

theorem guarded_deliveries (hkeys : Keys db) (guard : Sqlite.DeliveryRow → Bool)
    (set : Sqlite.DeliveryRow → Sqlite.DeliveryRow)
    (finish : Sqlite.Database → Reply × Sqlite.Database) :
    (if db.deliveries.countP (fun row => decide (row.key = id) && guard row) ≠ 1 then .error e
      else .ok (finish { db with
        deliveries :=
          Rows.update (fun row => decide (row.key = id) && guard row) set db.deliveries }) :
        Except Refusal (Reply × Sqlite.Database)) =
      match db.delivery id with
      | none => .error e
      | some row => if guard row then .ok (finish (db.updateDelivery id set)) else .error e := by
  by_cases hcount : db.deliveries.countP (fun row => decide (row.key = id) && guard row) = 1
  · obtain ⟨row, hrow, hguard⟩ := (Sqlite.countP_deliveries hkeys guard).1 hcount
    rw [if_neg (not_not.2 hcount), Sqlite.update_deliveries hkeys hrow hguard]
    simp [hrow, hguard, Sqlite.Database.updateDelivery]
  · rw [if_pos hcount]
    cases hrow : db.delivery id with
    | none => rfl
    | some row =>
        by_cases hguard : guard row = true
        · exact absurd ((Sqlite.countP_deliveries hkeys guard).2 ⟨row, hrow, hguard⟩) hcount
        · simp [hguard]

end Guarded

section Updates

variable {s : Settings} {db : Sqlite.Database} {fs : Firestore.Database} {id : String}

theorem Coupled.updateJob (hkeys : Keys db) (hcoupled : Coupled db fs) {row : Sqlite.JobRow}
    (hrow : db.job id = some row) (set : Sqlite.JobRow → Sqlite.JobRow)
    (hrowid : (set row).rowid = row.rowid) (hid : (set row).id = row.id) :
    Coupled (db.updateJob id set) (fs.write (.job ⟨(set row).toJob, row.rowid - 1⟩)) := by
  rw [Sqlite.updateJob_eq_setJob hkeys hrow set hrowid]
  exact hcoupled.setJob hkeys hrow hid

theorem Coupled.updateJobEvent (hkeys : Keys db) (horderly : Orderly s db)
    (hcoupled : Coupled db fs) {row : Sqlite.JobRow} (hrow : db.job id = some row)
    (set : Sqlite.JobRow → Sqlite.JobRow) (hrowid : (set row).rowid = row.rowid)
    (hid : (set row).id = row.id) (o : Occurrence) :
    Coupled ((db.updateJob id set).event id o)
      ((fs.write (.job ⟨(set row).toJob, row.rowid - 1⟩)).record id o) :=
  (hcoupled.updateJob hkeys hrow set hrowid hid).event o (horderly.ordinals id)

theorem Coupled.updateDelivery (hkeys : Keys db) (hcoupled : Coupled db fs)
    {row : Sqlite.DeliveryRow} (hrow : db.delivery id = some row)
    (set : Sqlite.DeliveryRow → Sqlite.DeliveryRow) (hrowid : (set row).rowid = row.rowid)
    (hid : (set row).jobId = row.jobId) :
    Coupled (db.updateDelivery id set)
      (fs.write (.delivery ⟨(set row).toDelivery, row.rowid - 1⟩)) := by
  rw [Sqlite.updateDelivery_eq_setDelivery hkeys hrow set hrowid]
  exact hcoupled.setDelivery hkeys hrow hid

theorem Coupled.updateDeliveryEvent (hkeys : Keys db) (horderly : Orderly s db)
    (hcoupled : Coupled db fs) {row : Sqlite.DeliveryRow} (hrow : db.delivery id = some row)
    (set : Sqlite.DeliveryRow → Sqlite.DeliveryRow) (hrowid : (set row).rowid = row.rowid)
    (hid : (set row).jobId = row.jobId) (o : Occurrence) :
    Coupled ((db.updateDelivery id set).event id o)
      ((fs.write (.delivery ⟨(set row).toDelivery, row.rowid - 1⟩)).record id o) :=
  (hcoupled.updateDelivery hkeys hrow set hrowid hid).event o (horderly.ordinals id)

end Updates

section Worker

variable {s : Settings} {streams : StreamOrder} {db : Sqlite.Database}
  {fs : Firestore.Database} {id token : String} {now : Time}

theorem Mirrors.refused {p : Firestore.Prog Reply} {e : Refusal} (hcoupled : Coupled db fs)
    (hrun : p.run (Firestore.exec streams) fs = (.error e, fs)) :
    Mirrors streams fs db p (.error e) :=
  ⟨fs, hrun, hcoupled⟩

theorem Mirrors.answered {p : Firestore.Prog Reply} {reply : Reply} {db' : Sqlite.Database}
    {fs' : Firestore.Database} (hcoupled : Coupled db' fs')
    (hrun : p.run (Firestore.exec streams) fs = (.ok reply, fs')) :
    Mirrors streams fs db p (.ok (reply, db')) :=
  ⟨fs', hrun, hcoupled⟩

theorem renewRunning_mirrors (hkeys : Keys db) (hcoupled : Coupled db fs) :
    Mirrors streams fs db (Firestore.renewRunning s now id token)
      (Sqlite.renewRunning s now id token db) := by
  simp only [Sqlite.renewRunning]
  rw [guarded_jobs hkeys (Sqlite.claimCurrent now token)
    (fun row => { row with claimExpiresAt := some (now + s.claimLeaseSeconds) })
    fun db => (.done, db)]
  cases hrow : db.job id with
  | none => exact .refused hcoupled (by simp [Firestore.renewRunning, hcoupled.job, hrow])
  | some row =>
      cases hcurrent : Sqlite.claimCurrent now token row with
      | false =>
          simp only [hcurrent, Bool.false_eq_true, if_false]
          refine .refused hcoupled ?_
          simp [Firestore.renewRunning, hcoupled.job, hrow, claimOver_jobDoc, hcurrent]
      | true =>
          simp only [hcurrent, if_true]
          refine .answered (hcoupled.updateJob hkeys hrow
            (fun row => { row with claimExpiresAt := some (now + s.claimLeaseSeconds) })
            rfl rfl) ?_
          simp [Firestore.renewRunning, hcoupled.job, hrow, claimOver_jobDoc, hcurrent,
            Program.run_bind]
          rfl

theorem reserveIncident_mirrors (hkeys : Keys db) (horderly : Orderly s db)
    (hcoupled : Coupled db fs) :
    Mirrors streams fs db (Firestore.reserveIncident now id token)
      (Sqlite.reserveIncident now id token db) := by
  simp only [Sqlite.reserveIncident]
  cases hrow : db.job id with
  | none => exact .refused hcoupled (by simp [Firestore.reserveIncident, hcoupled.job, hrow])
  | some row =>
      cases hcurrent : Sqlite.claimCurrent now token row with
      | false =>
          simp only [hcurrent, Bool.not_false, if_true]
          refine .refused hcoupled ?_
          simp [Firestore.reserveIncident, hcoupled.job, hrow, claimOver_jobDoc, hcurrent]
      | true =>
          simp only [hcurrent, Bool.not_true, Bool.false_eq_true, if_false]
          cases hincident : row.incidentId with
          | none =>
              refine .answered (hcoupled.updateJobEvent hkeys horderly hrow
                (fun row => { row with incidentId := some (scenarioIncident id) }) rfl rfl _) ?_
              simp [Firestore.reserveIncident, hcoupled.job, hrow, claimOver_jobDoc, hcurrent,
                hincident, Program.run_bind]
              rfl
          | some stored =>
              by_cases halnum : Text.isAlnum stored = true
              · simp only [halnum, if_true]
                refine .answered hcoupled ?_
                simp [Firestore.reserveIncident, hcoupled.job, hrow, claimOver_jobDoc, hcurrent,
                  hincident, halnum]
              · simp only [halnum]
                refine .refused hcoupled ?_
                simp [Firestore.reserveIncident, hcoupled.job, hrow, claimOver_jobDoc, hcurrent,
                  hincident, halnum]

theorem markPaused_mirrors (hkeys : Keys db) (horderly : Orderly s db)
    (hcoupled : Coupled db fs) {checkpointId : String} :
    Mirrors streams fs db (Firestore.markPaused now id checkpointId token)
      (Sqlite.markPaused now id checkpointId token db) := by
  simp only [Sqlite.markPaused]
  cases hrow : db.job id with
  | none => exact .refused hcoupled (by simp [Firestore.markPaused, hcoupled.job, hrow])
  | some row =>
      cases hcurrent : Sqlite.claimCurrent now token row with
      | false =>
          simp only [hcurrent, Bool.not_false, if_true]
          refine .refused hcoupled ?_
          simp [Firestore.markPaused, hcoupled.job, hrow, claimOver_jobDoc, hcurrent]
      | true =>
          simp only [hcurrent, Bool.not_true, Bool.false_eq_true, if_false]
          refine .answered (hcoupled.updateJobEvent hkeys horderly hrow
            (fun row => { row with
              status := .pausedApproval
              checkpointId := some checkpointId
              claimToken := none
              claimExpiresAt := none }) rfl rfl _) ?_
          simp [Firestore.markPaused, hcoupled.job, hrow, claimOver_jobDoc, hcurrent,
            Program.run_bind]
          rfl

theorem requeueRunning_mirrors (hkeys : Keys db) (horderly : Orderly s db)
    (hcoupled : Coupled db fs) :
    Mirrors streams fs db (Firestore.requeueRunning id token)
      (Sqlite.requeueRunning id token db) := by
  simp only [Sqlite.requeueRunning]
  rw [guarded_jobs hkeys (Sqlite.claimHeld token)
    (fun row => { row with
      status := .queued
      claimToken := none
      claimExpiresAt := none })
    fun db => (.done, db.event id .investigationRequeued)]
  cases hrow : db.job id with
  | none => exact .refused hcoupled (by simp [Firestore.requeueRunning, hcoupled.job, hrow])
  | some row =>
      cases hheld : Sqlite.claimHeld token row with
      | false =>
          simp only [hheld, Bool.false_eq_true, if_false]
          refine .refused hcoupled ?_
          simp [Firestore.requeueRunning, hcoupled.job, hrow, claimLost_jobDoc, hheld]
      | true =>
          simp only [hheld, if_true]
          refine .answered (hcoupled.updateJobEvent hkeys horderly hrow
            (fun row => { row with
              status := .queued
              claimToken := none
              claimExpiresAt := none }) rfl rfl _) ?_
          simp [Firestore.requeueRunning, hcoupled.job, hrow, claimLost_jobDoc, hheld,
            Program.run_bind]
          rfl

theorem retryRunning_mirrors (hkeys : Keys db) (horderly : Orderly s db)
    (hcoupled : Coupled db fs) {errorName : String} :
    Mirrors streams fs db (Firestore.retryRunning s now id token errorName)
      (Sqlite.retryRunning s now id token errorName db) := by
  simp only [Sqlite.retryRunning]
  cases hrow : db.job id with
  | none => exact .refused hcoupled (by simp [Firestore.retryRunning, hcoupled.job, hrow])
  | some row =>
      cases hheld : Sqlite.claimHeld token row with
      | false =>
          simp only [hheld, Bool.not_false, if_true]
          refine .refused hcoupled ?_
          simp [Firestore.retryRunning, hcoupled.job, hrow, claimLost_jobDoc, hheld]
      | true =>
          simp only [hheld, Bool.not_true, Bool.false_eq_true, if_false]
          by_cases hlimit : s.maxReplayAttempts ≤ row.attemptCount + 1
          · simp only [hlimit, if_true]
            refine .answered (hcoupled.updateJobEvent hkeys horderly hrow
              (fun r => { r with
                status := .queued
                claimToken := none
                claimExpiresAt := none
                attemptCount := row.attemptCount + 1
                failureReason := some ("retry_limit:" ++ errorName) }) rfl rfl _) ?_
            simp [Firestore.retryRunning, hcoupled.job, hrow, claimLost_jobDoc, hheld,
              hlimit, Program.run_bind]
            rfl
          · simp only [hlimit, if_false]
            refine .answered (hcoupled.updateJobEvent hkeys horderly hrow
              (fun r => { r with
                status := .queued
                claimToken := none
                claimExpiresAt := none
                attemptCount := row.attemptCount + 1
                availableAt := now + s.retryDelay (row.attemptCount + 1) }) rfl rfl _) ?_
            simp [Firestore.retryRunning, hcoupled.job, hrow, claimLost_jobDoc, hheld,
              hlimit, Program.run_bind]
            rfl

theorem incidentIdFor_mirrors (hcoupled : Coupled db fs) :
    Mirrors streams fs db (Firestore.incidentIdFor id) (Sqlite.incidentIdFor id db) := by
  simp only [Sqlite.incidentIdFor]
  cases hrow : db.job id with
  | none => exact .refused hcoupled (by simp [Firestore.incidentIdFor, hcoupled.job, hrow])
  | some row =>
      cases hincident : row.incidentId with
      | none =>
          simp only [hincident]
          refine .answered hcoupled ?_
          simp [Firestore.incidentIdFor, hcoupled.job, hrow, hincident]
      | some stored =>
          by_cases halnum : Text.isAlnum stored = true
          · simp only [hincident, halnum, if_true]
            refine .answered hcoupled ?_
            simp [Firestore.incidentIdFor, hcoupled.job, hrow, hincident, halnum]
          · simp only [hincident, halnum]
            refine .refused hcoupled ?_
            simp [Firestore.incidentIdFor, hcoupled.job, hrow, hincident, halnum]

theorem finalize_mirrors (hkeys : Keys db) (horderly : Orderly s db)
    (hcoupled : Coupled db fs) {a : Ambient} {artifact : String} :
    Mirrors streams fs db (Firestore.finalize s a id artifact token)
      (Sqlite.finalize s a id artifact token db) := by
  simp only [Sqlite.finalize]
  cases hrow : db.job id with
  | none => exact .refused hcoupled (by simp [Firestore.finalize, hcoupled.job, hrow])
  | some row =>
      by_cases hcompleted : row.status = .completed
      · simp only [hcompleted, if_true]
        refine .refused hcoupled ?_
        simp [Firestore.finalize, hcoupled.job, hrow, hcompleted]
      · simp only [hcompleted, if_false]
        cases hcurrent : Sqlite.claimCurrent a.now token row with
        | false =>
            simp only [Bool.not_false, if_true]
            refine .refused hcoupled ?_
            simp [Firestore.finalize, hcoupled.job, hrow, hcompleted,
              claimOver_jobDoc, hcurrent]
        | true =>
            simp only [Bool.not_true, Bool.false_eq_true, if_false]
            cases hread : readReportSnapshot a.reportFile id artifact with
            | error e =>
                refine .refused hcoupled ?_
                simp [Firestore.finalize, hcoupled.job, hrow, hcompleted,
                  claimOver_jobDoc, hcurrent, hread]
            | ok content =>
                -- Only completed jobs have deliveries.
                have habsent : db.delivery id = none := by
                  cases hdelivery : db.delivery id with
                  | none => rfl
                  | some d =>
                      obtain ⟨r, hr, hdone⟩ :=
                        horderly.delivered d (Sqlite.delivery_mem hdelivery)
                      rw [Sqlite.delivery_jobId hdelivery, hrow] at hr
                      cases hr
                      exact absurd hdone hcompleted
                simp only [habsent, Option.isSome_none, Bool.false_eq_true, if_false]
                obtain rfl : row.id = id := Sqlite.job_id hrow
                have hjob := hcoupled.updateJob hkeys hrow (fun r => { r with
                  status := .completed
                  reportArtifact := some artifact
                  reportContent := some content
                  reportSha256 := some (s.sha256 content)
                  claimToken := none
                  claimExpiresAt := none }) rfl rfl
                have hdelivered : Coupled _ _ :=
                  @Coupled.insertDelivery _ _ hjob (Sqlite.newDelivery row.toJob)
                    horderly.deliveryRowids habsent
                refine .answered (hdelivered.event .reportFinalized (horderly.ordinals row.id)) ?_
                simp [Firestore.finalize, hcoupled.job, hrow, hcompleted,
                  claimOver_jobDoc, hcurrent, hread, Program.run_bind]
                rfl

end Worker

section Outbox

variable {s : Settings} {streams : StreamOrder} {db : Sqlite.Database}
  {fs : Firestore.Database} {id token : String} {now : Time}

theorem markDelivered_mirrors (hkeys : Keys db) (horderly : Orderly s db)
    (hcoupled : Coupled db fs) :
    Mirrors streams fs db (Firestore.markDelivered now id token)
      (Sqlite.markDelivered now id token db) := by
  simp only [Sqlite.markDelivered]
  rw [guarded_deliveries hkeys (Sqlite.deliveryCurrent now token)
    (fun row => { row with
      status := .sent
      claimToken := none
      claimExpiresAt := none })
    fun db => (.done, db.event id .reportDelivered)]
  cases hrow : db.delivery id with
  | none => exact .refused hcoupled (by simp [Firestore.markDelivered, hcoupled.delivery, hrow])
  | some row =>
      cases hcurrent : Sqlite.deliveryCurrent now token row with
      | false =>
          simp only [hcurrent, Bool.false_eq_true, if_false]
          refine .refused hcoupled ?_
          simp [Firestore.markDelivered, hcoupled.delivery, hrow, deliveryOver_deliveryDoc,
            hcurrent]
      | true =>
          simp only [hcurrent, if_true]
          refine .answered (hcoupled.updateDeliveryEvent hkeys horderly hrow
            (fun row => { row with
              status := .sent
              claimToken := none
              claimExpiresAt := none }) rfl rfl _) ?_
          simp [Firestore.markDelivered, hcoupled.delivery, hrow, deliveryOver_deliveryDoc,
            hcurrent, Program.run_bind]
          rfl

theorem renewDelivery_mirrors (hkeys : Keys db) (hcoupled : Coupled db fs) :
    Mirrors streams fs db (Firestore.renewDelivery s now id token)
      (Sqlite.renewDelivery s now id token db) := by
  simp only [Sqlite.renewDelivery]
  rw [guarded_deliveries hkeys (Sqlite.deliveryCurrent now token)
    (fun row => { row with claimExpiresAt := some (now + s.claimLeaseSeconds) })
    fun db => (.done, db)]
  cases hrow : db.delivery id with
  | none => exact .refused hcoupled (by simp [Firestore.renewDelivery, hcoupled.delivery, hrow])
  | some row =>
      cases hcurrent : Sqlite.deliveryCurrent now token row with
      | false =>
          simp only [hcurrent, Bool.false_eq_true, if_false]
          refine .refused hcoupled ?_
          simp [Firestore.renewDelivery, hcoupled.delivery, hrow, deliveryOver_deliveryDoc,
            hcurrent]
      | true =>
          simp only [hcurrent, if_true]
          refine .answered (hcoupled.updateDelivery hkeys hrow
            (fun row => { row with claimExpiresAt := some (now + s.claimLeaseSeconds) })
            rfl rfl) ?_
          simp [Firestore.renewDelivery, hcoupled.delivery, hrow, deliveryOver_deliveryDoc,
            hcurrent, Program.run_bind]
          rfl

theorem releaseDelivery_mirrors (hkeys : Keys db) (horderly : Orderly s db)
    (hcoupled : Coupled db fs) :
    Mirrors streams fs db (Firestore.releaseDelivery id token)
      (Sqlite.releaseDelivery id token db) := by
  simp only [Sqlite.releaseDelivery]
  rw [guarded_deliveries hkeys (Sqlite.deliveryHeld token)
    (fun row => { row with
      status := .pending
      claimToken := none
      claimExpiresAt := none })
    fun db => (.done, db.event id .reportDeliveryRequeued)]
  cases hrow : db.delivery id with
  | none => exact .refused hcoupled (by simp [Firestore.releaseDelivery, hcoupled.delivery, hrow])
  | some row =>
      cases hheld : Sqlite.deliveryHeld token row with
      | false =>
          simp only [hheld, Bool.false_eq_true, if_false]
          refine .refused hcoupled ?_
          simp [Firestore.releaseDelivery, hcoupled.delivery, hrow, deliveryLost_deliveryDoc, hheld]
      | true =>
          simp only [hheld, if_true]
          refine .answered (hcoupled.updateDeliveryEvent hkeys horderly hrow
            (fun row => { row with
              status := .pending
              claimToken := none
              claimExpiresAt := none }) rfl rfl _) ?_
          simp [Firestore.releaseDelivery, hcoupled.delivery, hrow, deliveryLost_deliveryDoc,
            hheld, Program.run_bind]
          rfl

theorem retryDelivery_mirrors (hkeys : Keys db) (horderly : Orderly s db)
    (hcoupled : Coupled db fs) {errorName : String} :
    Mirrors streams fs db (Firestore.retryDelivery s now id token errorName)
      (Sqlite.retryDelivery s now id token errorName db) := by
  simp only [Sqlite.retryDelivery]
  cases hrow : db.delivery id with
  | none => exact .refused hcoupled (by simp [Firestore.retryDelivery, hcoupled.delivery, hrow])
  | some row =>
      cases hheld : Sqlite.deliveryHeld token row with
      | false =>
          simp only [hheld, Bool.not_false, if_true]
          refine .refused hcoupled ?_
          simp [Firestore.retryDelivery, hcoupled.delivery, hrow, deliveryLost_deliveryDoc, hheld]
      | true =>
          simp only [hheld, Bool.not_true, Bool.false_eq_true, if_false]
          by_cases hlimit : s.maxDeliveryAttempts ≤ row.attemptCount + 1
          · simp only [hlimit, if_true]
            refine .answered (hcoupled.updateDeliveryEvent hkeys horderly hrow
              (fun r => { r with
                status := .pending
                claimToken := none
                claimExpiresAt := none
                attemptCount := row.attemptCount + 1
                failureReason := some ("retry_limit:" ++ errorName) }) rfl rfl _) ?_
            simp [Firestore.retryDelivery, hcoupled.delivery, hrow, deliveryLost_deliveryDoc,
              hheld, hlimit, Program.run_bind]
            rfl
          · simp only [hlimit, if_false]
            refine .answered (hcoupled.updateDeliveryEvent hkeys horderly hrow
              (fun r => { r with
                status := .pending
                claimToken := none
                claimExpiresAt := none
                attemptCount := row.attemptCount + 1
                availableAt := now + s.retryDelay (row.attemptCount + 1) }) rfl rfl _) ?_
            simp [Firestore.retryDelivery, hcoupled.delivery, hrow, deliveryLost_deliveryDoc,
              hheld, hlimit, Program.run_bind]
            rfl

end Outbox

section Owner

variable {s : Settings} {streams : StreamOrder} {db : Sqlite.Database}
  {fs : Firestore.Database} {id owner : String}

/-- One key: the row found by id and owner is the row of the id, if that is its owner. -/
theorem owned_eq (hkeys : Keys db) :
    Sqlite.owned db owner id =
      match db.job id with
      | none => .error (.notFound "investigation not found")
      | some row =>
          if row.owner ≠ owner then .error (.notFound "investigation not found") else .ok row := by
  simp only [Sqlite.owned]
  cases hfound : db.jobs.find? fun row => row.id = id && row.owner = owner with
  | some found =>
      have hguard := List.find?_some hfound
      simp only [Bool.and_eq_true, decide_eq_true_eq] at hguard
      have hrow : db.job id = some found :=
        (hkeys.jobs.lookup_iff).2 ⟨List.mem_of_find?_eq_some hfound, hguard.1⟩
      simp [hrow, hguard.2]
  | none =>
      cases hrow : db.job id with
      | none => rfl
      | some row =>
          have hnot := List.find?_eq_none.1 hfound row (Sqlite.job_mem hrow)
          simp only [Bool.and_eq_true, decide_eq_true_eq, not_and] at hnot
          have hother : row.owner ≠ owner := hnot (Sqlite.job_id hrow)
          simp [hother]

/-- `_owned` on the documents gives the document of the row. -/
theorem run_owned (hkeys : Keys db) (hcoupled : Coupled db fs) :
    (Firestore.owned id owner).run (Firestore.exec streams) fs =
      ((Sqlite.owned db owner id).map jobDoc, fs) := by
  rw [owned_eq hkeys]
  cases hrow : db.job id with
  | none => simp [Firestore.owned, hcoupled.job, hrow, Except.map]
  | some row =>
      by_cases howner : row.owner = owner
      · simp [Firestore.owned, hcoupled.job, hrow, howner, Except.map]
      · simp [Firestore.owned, hcoupled.job, hrow, howner, Except.map]

theorem status_mirrors (hkeys : Keys db) (hcoupled : Coupled db fs) :
    Mirrors streams fs db (Firestore.status owner id) (Sqlite.status owner id db) := by
  have hrun := @run_owned streams db fs id owner hkeys hcoupled
  simp only [Sqlite.status]
  cases howned : Sqlite.owned db owner id with
  | error e =>
      refine .refused hcoupled ?_
      simp [Firestore.status, Program.run_bind, hrun, howned, Except.map]
  | ok row =>
      refine .answered hcoupled ?_
      simp [Firestore.status, Program.run_bind, hrun, howned, Except.map]

theorem byOrdinal_order (horderly : Orderly s db) :
    Firestore.byOrdinal (streams.order (db.timeline id)) = Sqlite.byOrdinal (db.timeline id) := by
  have hperm : (Firestore.byOrdinal (streams.order (db.timeline id))).Perm
      (Sqlite.byOrdinal (db.timeline id)) :=
    (List.perm_insertionSort _ _).trans
      ((streams.perm _).trans (List.perm_insertionSort _ _).symm)
  have hinj : ∀ a ∈ db.timeline id, ∀ b ∈ db.timeline id, a.ordinal = b.ordinal → a = b := by
    have hnodup : ((db.timeline id).map TimelineEvent.ordinal).Nodup := by
      rw [horderly.ordinals id]
      exact List.nodup_range
    exact fun a ha b hb => List.inj_on_of_nodup_map hnodup ha hb
  refine hperm.eq_of_pairwise ?_ (List.pairwise_insertionSort _ _)
    (List.pairwise_insertionSort _ _)
  intro a b ha hb hab hba
  have ha' : a ∈ db.timeline id := by
    have hmem := (List.perm_insertionSort _ _).mem_iff.1 ha
    exact Firestore.mem_order.1 hmem
  have hb' : b ∈ db.timeline id := (List.perm_insertionSort _ _).mem_iff.1 hb
  exact hinj a ha' b hb' (le_antisymm hab hba)

theorem events_mirrors (hkeys : Keys db) (horderly : Orderly s db) (hcoupled : Coupled db fs) :
    Mirrors streams fs db (Firestore.events owner id) (Sqlite.events owner id db) := by
  have hrun := @run_owned streams db fs id owner hkeys hcoupled
  simp only [Sqlite.events]
  cases howned : Sqlite.owned db owner id with
  | error e =>
      refine .refused hcoupled ?_
      simp [Firestore.events, Program.run_bind, hrun, howned, Except.map]
  | ok row =>
      refine .answered hcoupled ?_
      have hsorted := @byOrdinal_order s streams db id horderly
      simp [Firestore.events, Program.run_bind, hrun, howned, Except.map, hcoupled.timelines,
        hsorted]

theorem report_mirrors (hkeys : Keys db) (hcoupled : Coupled db fs) :
    Mirrors streams fs db (Firestore.report s owner id) (Sqlite.report s owner id db) := by
  have hrun := @run_owned streams db fs id owner hkeys hcoupled
  have htext : ∀ job, Firestore.reportText s id job = Sqlite.reportText s id job := fun _ => rfl
  simp only [Sqlite.report]
  cases howned : Sqlite.owned db owner id with
  | error e =>
      refine .refused hcoupled ?_
      simp [Firestore.report, Program.run_bind, hrun, howned, Except.map]
  | ok row =>
      cases hcontent : Sqlite.reportText s id row.toJob with
      | error e =>
          have hresult : (do
              let job ← (Except.ok row : Except Refusal Sqlite.JobRow)
              let content ← Sqlite.reportText s id job.toJob
              return (Reply.report content, db)) = Except.error e := by
            simp [bind, Except.bind, hcontent]
          rw [hresult]
          refine .refused hcoupled ?_
          simp [Firestore.report, Program.run_bind, hrun, howned, Except.map, htext, hcontent]
      | ok content =>
          have hresult : (do
              let job ← (Except.ok row : Except Refusal Sqlite.JobRow)
              let content ← Sqlite.reportText s id job.toJob
              return (Reply.report content, db)) = Except.ok (Reply.report content, db) := by
            simp [bind, Except.bind, hcontent, pure, Except.pure]
          rw [hresult]
          refine .answered hcoupled ?_
          simp [Firestore.report, Program.run_bind, hrun, howned, Except.map, htext, hcontent]

/-- `_owned` and the query by idempotency key: at most one job answers a request. -/
theorem create_mirrors (horderly : Orderly s db) (hcoupled : Coupled db fs) {fresh : Uuid}
    {family : ScenarioFamily} {key : String} (hfresh : db.job fresh.hex = none) :
    Mirrors streams fs db (Firestore.create fresh owner family key)
      (Sqlite.create fresh owner family key db) := by
  have hfound : (streams.order (fs.jobs.filter (Firestore.JobQuery.owner owner).selects)).find?
      (fun data => data.idempotencyKey = some key) =
        (db.jobs.find? fun row =>
          row.owner = owner && row.idempotencyKey = some key).map jobDoc := by
    rw [hcoupled.jobs, Selection.find?_perm (streams.perm _) ?_, List.find?_filter, List.find?_map]
    · congr 2
      funext row
      by_cases howner : row.owner = owner <;>
        by_cases hkey : row.idempotencyKey = some key <;> simp [howner, hkey]
    · intro x hx y hy hxkey hykey
      simp only [List.mem_filter, List.mem_map, Firestore.JobQuery.selects,
        decide_eq_true_eq] at hx hy hxkey hykey
      obtain ⟨⟨a, ha, rfl⟩, haowner⟩ := hx
      obtain ⟨⟨b, hb, rfl⟩, hbowner⟩ := hy
      have hsame := horderly.requests a ha b hb (haowner.trans hbowner.symm)
        (hxkey.trans hykey.symm)
      rw [hsame]
  simp only [Sqlite.create]
  cases hexisting : db.jobs.find? fun row =>
      row.owner = owner && row.idempotencyKey = some key with
  | some existing =>
      simp only
      refine .answered hcoupled ?_
      simp [Firestore.create, hfound, hexisting]
  | none =>
      simp only [hfresh, Option.isSome_none, Bool.false_eq_true, if_false]
      have hinserted : Coupled (db.insertJob (Sqlite.newJob fresh owner family key)) _ :=
        hcoupled.insertJob horderly.rowids hfresh
      refine .answered (hinserted.event .investigationQueued (horderly.ordinals fresh.hex)) ?_
      simp [Firestore.create, hfound, hexisting, Program.run_bind]
      rfl

theorem scenarioStatus_mirrors (hkeys : Keys db) (horderly : Orderly s db)
    (hcoupled : Coupled db fs) {incident : String} :
    Mirrors streams fs db (Firestore.scenarioStatus incident)
      (Sqlite.scenarioStatus incident db) := by
  have hsame : ∀ a ∈ db.jobs, ∀ b ∈ db.jobs, a.incidentId = some incident →
      b.incidentId = some incident → a = b := by
    intro a ha b hb haincident hbincident
    have hid := (horderly.incidents a ha incident haincident).symm.trans
      (horderly.incidents b hb incident hbincident)
    exact hkeys.jobs.eq_of_key_eq ha hb (scenarioIncident_inj hid)
  have hfound : (streams.order
      (fs.jobs.filter (Firestore.JobQuery.incident incident).selects)).head? =
        (db.jobs.find? fun row => row.incidentId = some incident).map jobDoc := by
    have hhead : ∀ docs : List Firestore.JobDoc,
        (∀ doc ∈ docs, doc.incidentId = some incident) →
          docs.head? = docs.find? fun doc => doc.incidentId = some incident := by
      intro docs hdocs
      cases docs with
      | nil => rfl
      | cons doc rest => simp [hdocs doc (by simp)]
    rw [hhead _ ?_, hcoupled.jobs, Selection.find?_perm (streams.perm _) ?_, List.find?_filter,
      List.find?_map]
    · congr 2
      funext row
      by_cases hincident : row.incidentId = some incident <;> simp [hincident]
    · intro x hx y hy _ _
      simp only [List.mem_filter, List.mem_map, Firestore.JobQuery.selects,
        decide_eq_true_eq] at hx hy
      obtain ⟨⟨a, ha, rfl⟩, haincident⟩ := hx
      obtain ⟨⟨b, hb, rfl⟩, hbincident⟩ := hy
      rw [hsame a ha b hb haincident hbincident]
    · intro doc hdoc
      simpa [Firestore.JobQuery.selects] using
        (List.mem_filter.1 (Firestore.mem_order.1 hdoc)).2
  simp only [Sqlite.scenarioStatus]
  cases hrow : db.jobs.find? fun row => row.incidentId = some incident with
  | none =>
      refine .answered hcoupled ?_
      rw [hrow] at hfound
      have hnil := List.head?_eq_none_iff.1 hfound
      simp [Firestore.scenarioStatus, hnil]
  | some row =>
      refine .answered hcoupled ?_
      rw [hrow] at hfound
      obtain ⟨rest, hrest⟩ := List.head?_eq_some_iff.1 hfound
      simp [Firestore.scenarioStatus, hrest]

/-- `decide`, the ledger aside: a recorded decision is read back, a first one is stored. -/
theorem decide_mirrors (hkeys : Keys db) (horderly : Orderly s db) (hcoupled : Coupled db fs)
    {ledger : Ledger} (hlinked : Sqlite.Linked ledger db) {d : OwnerDecision} :
    Mirrors streams fs db (Firestore.decide owner id d) (Sqlite.decideAlone owner id d db) := by
  have hrun := @run_owned streams db fs id owner hkeys hcoupled
  have hpresent : ∀ o, Firestore.presentCheckpoint o = Sqlite.presentCheckpoint o := by
    intro o
    cases o <;> rfl
  simp only [Sqlite.decideAlone]
  cases howned : Sqlite.owned db owner id with
  | error e =>
      refine .refused hcoupled ?_
      simp [Firestore.decide, Program.run_bind, hrun, howned, Except.map]
  | ok job =>
      have hrow := Sqlite.owned_job hkeys howned
      have hdecision := hcoupled.decision id
      cases hprior : db.decision id with
      | some prior =>
          rw [hprior] at hdecision
          obtain ⟨mirrored, row, hcolumns, -⟩ := hlinked.recorded prior (Sqlite.decision_mem hprior)
          have hvalid : OwnerDecision.validate prior.decision prior.rejectionNote =
              some mirrored := by
            have hverdict : prior.decision = mirrored.decision.text :=
              congrArg DecisionColumns.decision hcolumns
            have hnote : prior.rejectionNote = mirrored.rejectionNote :=
              congrArg DecisionColumns.rejectionNote hcolumns
            rw [hverdict, hnote, OwnerDecision.validate_columns]
          have hfrom : Sqlite.decisionFromRow prior = .ok mirrored := by
            simp [Sqlite.decisionFromRow, hvalid]
          simp only [hfrom]
          cases hcheckpoint : Sqlite.presentCheckpoint job.checkpointId with
          | none =>
              refine .refused hcoupled ?_
              simp [Firestore.decide, Program.run_bind, hrun, howned, Except.map, hdecision,
                decisionDoc, hvalid, hpresent, hcheckpoint]
          | some c =>
              by_cases hsame : prior.checkpointId = c
              · by_cases hequal : mirrored = d
                · simp only [hsame, hequal, ne_eq, not_true, if_false]
                  refine .answered hcoupled ?_
                  simp [Firestore.decide, Program.run_bind, hrun, howned, Except.map, hdecision,
                    decisionDoc, hvalid, hpresent, hcheckpoint, hsame, hequal]
                · simp only [hsame, hequal, ne_eq, not_true, not_false_iff, if_true, if_false]
                  refine .refused hcoupled ?_
                  simp [Firestore.decide, Program.run_bind, hrun, howned, Except.map, hdecision,
                    decisionDoc, hvalid, hpresent, hcheckpoint, hsame, hequal]
              · simp only [hsame, ne_eq, not_false_iff, if_true]
                refine .refused hcoupled ?_
                simp [Firestore.decide, Program.run_bind, hrun, howned, Except.map, hdecision,
                  decisionDoc, hvalid, hpresent, hcheckpoint, hsame]
      | none =>
          rw [hprior] at hdecision
          by_cases hpaused : job.status = .pausedApproval
          · simp only [hpaused, ne_eq, not_true, if_false]
            cases hcheckpoint : Sqlite.presentCheckpoint job.checkpointId with
            | none =>
                refine .refused hcoupled ?_
                simp [Firestore.decide, Program.run_bind, hrun, howned, Except.map, hdecision,
                  hpaused, hpresent, hcheckpoint]
            | some c =>
                have hmirror : Coupled (Sqlite.insertMirror db id c d) _ :=
                  hcoupled.insertMirror hprior
                have hkeys' : Keys (Sqlite.insertMirror db id c d) :=
                  Sqlite.insertMirror_keys hkeys hprior
                have hqueued := hmirror.updateJob hkeys' hrow
                  (fun row => { row with status := .queued }) rfl rfl
                refine .answered (hqueued.event (.ownerDecisionRecorded c d.decision.text)
                  (horderly.ordinals id)) ?_
                simp [Firestore.decide, Program.run_bind, hrun, howned, Except.map, hdecision,
                  hpaused, hpresent, hcheckpoint]
                rfl
          · simp only [hpaused, ne_eq, not_false_iff, if_true]
            refine .refused hcoupled ?_
            simp [Firestore.decide, Program.run_bind, hrun, howned, Except.map, hdecision, hpaused]

end Owner

end CausalOps.ControlPlane.Mirror
