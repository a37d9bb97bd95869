import CausalOps.ControlPlane.Api.Requests

set_option autoImplicit false

/-! The worker methods that name an investigation: what each answers and writes follows from
that investigation alone. -/

namespace CausalOps.ControlPlane.Api

open Sqlite

section Acts

variable {s : Settings} {db : Database} {id : String}

/-- The tables have changed for one investigation only. -/
structure Acted (id : String) (db after : Database) : Prop where
  others : ∀ other, other ≠ id → after.thread other = db.thread other
  decisions : after.decisions = db.decisions
  job : ∃ job, (after.thread id).job = some job
  jobs : ∀ owner, ownedJobs after owner = (ownedJobs db owner).map fun old =>
    if old.id = id then ((after.thread id).job.getD old) else old

/-- A method that reads and writes the rows of one investigation, and no decision. -/
def ActsOn (s : Settings) (id : String)
    (method : Database → Except Refusal (Reply × Database)) : Prop :=
  ∀ db db', Governed s db → Governed s db' → db.thread id = db'.thread id →
    (∃ e, method db = .error e ∧ method db' = .error e) ∨
      ∃ reply after after', method db = .ok (reply, after) ∧ method db' = .ok (reply, after') ∧
        Acted id db after ∧ Acted id db' after' ∧ after.thread id = after'.thread id

def onJob (id : String) (missing : Refusal)
    (change : Job → Except Refusal (Reply × Job × Option Occurrence)) (db : Database) :
    Except Refusal (Reply × Database) :=
  match db.job id with
  | none => .error missing
  | some row =>
      match change row.toJob with
      | .error e => .error e
      | .ok (reply, job, o) => .ok (reply, (db.setJob id job).emit id o)

def onDelivery (id : String) (missing : Refusal)
    (change : Delivery → Except Refusal (Reply × Delivery × Option Occurrence)) (db : Database) :
    Except Refusal (Reply × Database) :=
  match db.delivery id with
  | none => .error missing
  | some row =>
      match change row.toDelivery with
      | .error e => .error e
      | .ok (reply, delivery, o) => .ok (reply, (db.setDelivery id delivery).emit id o)

theorem acted_setJob (hgoverned : Governed s db) {row : JobRow} (hrow : db.job id = some row)
    {job : Job} (hid : job.id = row.id) (howner : job.owner = row.owner)
    (o : Option Occurrence) :
    Acted id db ((db.setJob id job).emit id o) ∧
      ((db.setJob id job).emit id o).thread id =
        ⟨some job, (db.thread id).delivery, appended (db.thread id).timeline o⟩ := by
  have hnumbered : ∀ other, Numbered ((db.setJob id job).timeline other) :=
    hgoverned.orderly.ordinals
  have hthread : ∀ other, ((db.setJob id job).emit id o).thread other =
      if other = id then ⟨some job, (db.thread id).delivery, appended (db.thread id).timeline o⟩
      else db.thread other := by
    intro other
    rw [thread_emit hnumbered, thread_setJob hgoverned.keys hrow hid]
    by_cases h : other = id
    · subst h
      rw [if_pos rfl, if_pos rfl, if_pos rfl]
      rfl
    · rw [if_neg h, if_neg h, if_neg h]
  have hself := hthread id
  rw [if_pos rfl] at hself
  refine ⟨⟨fun other hne => (hthread other).trans (if_neg hne), emit_decisions o,
    ⟨job, by rw [hself]⟩, ?_⟩, hself⟩
  exact ownedJobs_replaced hgoverned.keys hrow (emit_jobs o) hid howner

theorem acted_setDelivery (hgoverned : Governed s db) {row : DeliveryRow}
    (hrow : db.delivery id = some row) {delivery : Delivery} (hid : delivery.jobId = row.jobId)
    (o : Option Occurrence) :
    Acted id db ((db.setDelivery id delivery).emit id o) ∧
      ((db.setDelivery id delivery).emit id o).thread id =
        ⟨(db.thread id).job, some delivery, appended (db.thread id).timeline o⟩ := by
  have hnumbered : ∀ other, Numbered ((db.setDelivery id delivery).timeline other) :=
    hgoverned.orderly.ordinals
  have hthread : ∀ other, ((db.setDelivery id delivery).emit id o).thread other =
      if other = id then
        ⟨(db.thread id).job, some delivery, appended (db.thread id).timeline o⟩
      else db.thread other := by
    intro other
    rw [thread_emit hnumbered, thread_setDelivery hgoverned.keys hrow hid]
    by_cases h : other = id
    · subst h
      rw [if_pos rfl, if_pos rfl, if_pos rfl]
      rfl
    · rw [if_neg h, if_neg h, if_neg h]
  have hself := hthread id
  rw [if_pos rfl] at hself
  have hjob : ∃ job, (db.thread id).job = some job := by
    by_contra hnone
    have habsent := (hgoverned.threads id).absent
      (Option.eq_none_iff_forall_ne_some.2 fun job hjob => hnone ⟨job, hjob⟩)
    rw [thread_of_delivery hrow] at habsent
    exact absurd habsent.2 (Option.some_ne_none _)
  refine ⟨⟨fun other hne => (hthread other).trans (if_neg hne), emit_decisions o, ?_, ?_⟩, hself⟩
  · rw [hself]
    exact hjob
  · intro owner
    have howned : ownedJobs ((db.setDelivery id delivery).emit id o) owner =
        ownedJobs db owner := by
      simp only [ownedJobs, emit_jobs]
      rfl
    rw [howned, hself]
    exact ownedJobs_same hgoverned.keys owner

theorem onJob_actsOn (missing : Refusal)
    (change : Job → Except Refusal (Reply × Job × Option Occurrence))
    (hchange : ∀ job reply job' o, change job = .ok (reply, job', o) →
      job'.id = job.id ∧ job'.owner = job.owner) :
    ActsOn s id (onJob id missing change) := by
  intro db db' hgoverned hgoverned' hthread
  have hjobs : (db.job id).map JobRow.toJob = (db'.job id).map JobRow.toJob :=
    congrArg Thread.job hthread
  cases hrow : db.job id with
  | none =>
      rw [hrow] at hjobs
      have hrow' : db'.job id = none := Option.map_eq_none_iff.1 hjobs.symm
      exact .inl ⟨missing, by simp only [onJob, hrow], by simp only [onJob, hrow']⟩
  | some row =>
      rw [hrow] at hjobs
      obtain ⟨row', hrow', hsame⟩ := Option.map_eq_some_iff.1 hjobs.symm
      cases hresult : change row.toJob with
      | error e =>
          exact .inl ⟨e, by simp only [onJob, hrow, hresult],
            by simp only [onJob, hrow', hsame, hresult]⟩
      | ok answered =>
          obtain ⟨reply, job, o⟩ := answered
          obtain ⟨hid, howner⟩ := hchange _ _ _ _ hresult
          have hid' : job.id = row'.id := hid.trans (congrArg Job.id hsame).symm
          have howner' : job.owner = row'.owner := howner.trans (congrArg Job.owner hsame).symm
          obtain ⟨hacted, hself⟩ := acted_setJob hgoverned hrow hid howner o
          obtain ⟨hacted', hself'⟩ := acted_setJob hgoverned' hrow' hid' howner' o
          exact .inr ⟨reply, _, _, by simp only [onJob, hrow, hresult],
            by simp only [onJob, hrow', hsame, hresult], hacted, hacted',
            by rw [hself, hself', hthread]⟩

theorem onDelivery_actsOn (missing : Refusal)
    (change : Delivery → Except Refusal (Reply × Delivery × Option Occurrence))
    (hchange : ∀ delivery reply delivery' o, change delivery = .ok (reply, delivery', o) →
      delivery'.jobId = delivery.jobId) :
    ActsOn s id (onDelivery id missing change) := by
  intro db db' hgoverned hgoverned' hthread
  have hdeliveries : (db.delivery id).map DeliveryRow.toDelivery =
      (db'.delivery id).map DeliveryRow.toDelivery := congrArg Thread.delivery hthread
  cases hrow : db.delivery id with
  | none =>
      rw [hrow] at hdeliveries
      have hrow' : db'.delivery id = none := Option.map_eq_none_iff.1 hdeliveries.symm
      exact .inl ⟨missing, by simp only [onDelivery, hrow], by simp only [onDelivery, hrow']⟩
  | some row =>
      rw [hrow] at hdeliveries
      obtain ⟨row', hrow', hsame⟩ := Option.map_eq_some_iff.1 hdeliveries.symm
      cases hresult : change row.toDelivery with
      | error e =>
          exact .inl ⟨e, by simp only [onDelivery, hrow, hresult],
            by simp only [onDelivery, hrow', hsame, hresult]⟩
      | ok answered =>
          obtain ⟨reply, delivery, o⟩ := answered
          have hid := hchange _ _ _ _ hresult
          have hid' : delivery.jobId = row'.jobId :=
            hid.trans (congrArg Delivery.jobId hsame).symm
          obtain ⟨hacted, hself⟩ := acted_setDelivery hgoverned hrow hid o
          obtain ⟨hacted', hself'⟩ := acted_setDelivery hgoverned' hrow' hid' o
          exact .inr ⟨reply, _, _, by simp only [onDelivery, hrow, hresult],
            by simp only [onDelivery, hrow', hsame, hresult], hacted, hacted',
            by rw [hself, hself', hthread]⟩

theorem ActsOn.congr {method method' : Database → Except Refusal (Reply × Database)}
    (h : ActsOn s id method') (heq : ∀ db, Governed s db → method db = method' db) :
    ActsOn s id method := by
  intro db db' hgoverned hgoverned' hthread
  rw [heq db hgoverned, heq db' hgoverned']
  exact h db db' hgoverned hgoverned' hthread

end Acts

section Methods

variable {s : Settings} {now : Time} {id token : String}

theorem guarded_actsOn (guard : JobRow → Bool) (hguard : ∀ row, guard row = guard ⟨row.toJob, 0⟩)
    (set : JobRow → JobRow) (hset : ∀ row, set row = { row with toJob := (set ⟨row.toJob, 0⟩).toJob })
    (hkeeps : ∀ row, (set row).id = row.id ∧ (set row).owner = row.owner)
    (e : Refusal) (reply : Reply) (o : Option Occurrence) :
    ActsOn s id fun db =>
      if db.jobs.countP (fun row => decide (row.key = id) && guard row) ≠ 1 then .error e
      else .ok (reply, ({ db with
        jobs := Rows.update (fun row => decide (row.key = id) && guard row) set db.jobs }).emit
          id o) := by
  refine ActsOn.congr (onJob_actsOn e (fun job =>
    if guard ⟨job, 0⟩ then .ok (reply, (set ⟨job, 0⟩).toJob, o) else .error e) ?_) ?_
  · intro job reply' job' o' h
    split at h
    · cases h
      exact hkeeps ⟨job, 0⟩
    · cases h
  · intro db hgoverned
    have hcount := @countP_jobs db id hgoverned.keys guard
    cases hrow : db.job id with
    | none =>
        rw [if_pos (by rw [Ne, hcount, hrow]; rintro ⟨row, h, -⟩; cases h)]
        simp only [onJob, hrow]
    | some row =>
        by_cases hheld : guard row = true
        · rw [if_neg (by rw [not_not, hcount]; exact ⟨row, hrow, hheld⟩)]
          rw [hguard] at hheld
          simp only [onJob, hrow, hheld, if_true]
          rw [← hguard] at hheld
          have hupdate := update_jobs hgoverned.keys hrow hheld set
          have hrowid : (set row).rowid = row.rowid := by rw [hset]
          have heq := updateJob_eq_setJob hgoverned.keys hrow set hrowid
          have hjob : (set row).toJob = (set ⟨row.toJob, 0⟩).toJob := by rw [hset]
          rw [hupdate, ← hjob, ← heq]
          rfl
        · rw [if_pos (by
            rw [Ne, hcount, hrow]
            rintro ⟨r, h, hr⟩
            cases h
            exact hheld hr)]
          rw [hguard] at hheld
          simp only [onJob, hrow, hheld]
          rfl

theorem guarded_delivery_actsOn (guard : DeliveryRow → Bool)
    (hguard : ∀ row, guard row = guard ⟨row.toDelivery, 0⟩) (set : DeliveryRow → DeliveryRow)
    (hset : ∀ row, set row = { row with toDelivery := (set ⟨row.toDelivery, 0⟩).toDelivery })
    (hkeeps : ∀ row, (set row).jobId = row.jobId) (e : Refusal) (reply : Reply)
    (o : Option Occurrence) :
    ActsOn s id fun db =>
      if db.deliveries.countP (fun row => decide (row.key = id) && guard row) ≠ 1 then .error e
      else .ok (reply, ({ db with
        deliveries := Rows.update (fun row => decide (row.key = id) && guard row) set
          db.deliveries }).emit id o) := by
  refine ActsOn.congr (onDelivery_actsOn e (fun delivery =>
    if guard ⟨delivery, 0⟩ then .ok (reply, (set ⟨delivery, 0⟩).toDelivery, o)
    else .error e) ?_) ?_
  · intro delivery reply' delivery' o' h
    split at h
    · cases h
      exact hkeeps ⟨delivery, 0⟩
    · cases h
  · intro db hgoverned
    have hcount := @countP_deliveries db id hgoverned.keys guard
    cases hrow : db.delivery id with
    | none =>
        rw [if_pos (by rw [Ne, hcount, hrow]; rintro ⟨row, h, -⟩; cases h)]
        simp only [onDelivery, hrow]
    | some row =>
        by_cases hheld : guard row = true
        · rw [if_neg (by rw [not_not, hcount]; exact ⟨row, hrow, hheld⟩)]
          rw [hguard] at hheld
          simp only [onDelivery, hrow, hheld, if_true]
          rw [← hguard] at hheld
          have hupdate := update_deliveries hgoverned.keys hrow hheld set
          have hrowid : (set row).rowid = row.rowid := by rw [hset]
          have heq := updateDelivery_eq_setDelivery hgoverned.keys hrow set hrowid
          have hdelivery : (set row).toDelivery = (set ⟨row.toDelivery, 0⟩).toDelivery := by
            rw [hset]
          rw [hupdate, ← hdelivery, ← heq]
          rfl
        · rw [if_pos (by
            rw [Ne, hcount, hrow]
            rintro ⟨r, h, hr⟩
            cases h
            exact hheld hr)]
          rw [hguard] at hheld
          simp only [onDelivery, hrow, hheld]
          rfl

theorem renewRunning_actsOn : ActsOn s id (renewRunning s now id token) :=
  guarded_actsOn (claimCurrent now token) (fun _ => rfl)
    (fun row => { row with claimExpiresAt := some (now + s.claimLeaseSeconds) }) (fun _ => rfl)
    (fun _ => ⟨rfl, rfl⟩) (.conflict "investigation claim is no longer current") .done none

theorem requeueRunning_actsOn : ActsOn s id (requeueRunning id token) :=
  guarded_actsOn (claimHeld token) (fun _ => rfl)
    (fun row => { row with status := .queued, claimToken := none, claimExpiresAt := none })
    (fun _ => rfl) (fun _ => ⟨rfl, rfl⟩)
    (.conflict "only a running investigation may be requeued") .done
    (some .investigationRequeued)

theorem markDelivered_actsOn : ActsOn s id (markDelivered now id token) :=
  guarded_delivery_actsOn (deliveryCurrent now token) (fun _ => rfl)
    (fun row => { row with status := .sent, claimToken := none, claimExpiresAt := none })
    (fun _ => rfl) (fun _ => rfl) (.conflict "delivery is not currently claimed") .done
    (some .reportDelivered)

theorem renewDelivery_actsOn : ActsOn s id (renewDelivery s now id token) :=
  guarded_delivery_actsOn (deliveryCurrent now token) (fun _ => rfl)
    (fun row => { row with claimExpiresAt := some (now + s.claimLeaseSeconds) }) (fun _ => rfl)
    (fun _ => rfl) (.conflict "delivery is not currently claimed") .done none

theorem releaseDelivery_actsOn : ActsOn s id (releaseDelivery id token) :=
  guarded_delivery_actsOn (deliveryHeld token) (fun _ => rfl)
    (fun row => { row with status := .pending, claimToken := none, claimExpiresAt := none })
    (fun _ => rfl) (fun _ => rfl) (.conflict "delivery is not currently claimed") .done
    (some .reportDeliveryRequeued)

theorem onJob_match_actsOn {method : Database → Except Refusal (Reply × Database)}
    (missing : Refusal) (change : Job → Except Refusal (Reply × Job × Option Occurrence))
    (hchange : ∀ job reply job' o, change job = .ok (reply, job', o) →
      job'.id = job.id ∧ job'.owner = job.owner)
    (hnone : ∀ db : Database, db.job id = none → method db = .error missing)
    (hsome : ∀ (db : Database) row, Governed s db → db.job id = some row →
      method db = match change row.toJob with
        | .error e => .error e
        | .ok (reply, job, o) => .ok (reply, (db.setJob id job).emit id o)) :
    ActsOn s id method := by
  refine ActsOn.congr (onJob_actsOn missing change hchange) fun db hgoverned => ?_
  cases hrow : db.job id with
  | none => simp only [onJob, hrow, hnone db hrow]
  | some row => simp only [onJob, hrow, hsome db row hgoverned hrow]

def incidentReserved (now : Time) (id token : String) (job : Job) :
    Except Refusal (Reply × Job × Option Occurrence) :=
  if claimCurrent now token ⟨job, 0⟩ then
    match job.incidentId with
    | none => .ok (.incident (scenarioIncident id),
        { job with incidentId := some (scenarioIncident id) },
        some (.scenarioReserved (scenarioIncident id)))
    | some stored =>
        if Text.isAlnum stored then .ok (.incident stored, job, none)
        else .error (.integrity "stored incident id is invalid")
  else .error (.conflict "investigation claim is no longer current")

theorem reserveIncident_actsOn : ActsOn s id (reserveIncident now id token) := by
  refine onJob_match_actsOn (.notFound "investigation not found")
    (incidentReserved now id token) ?_ ?_ ?_
  · intro job reply job' o h
    unfold incidentReserved at h
    split at h
    · split at h
      · cases h
        exact ⟨rfl, rfl⟩
      · split at h
        · cases h
          exact ⟨rfl, rfl⟩
        · cases h
    · cases h
  · intro db hrow
    simp only [reserveIncident, hrow]
  · intro db row hgoverned hrow
    have hcurrent : claimCurrent now token ⟨row.toJob, 0⟩ = claimCurrent now token row := rfl
    simp only [reserveIncident, hrow, incidentReserved, hcurrent]
    cases hheld : claimCurrent now token row with
    | false => rfl
    | true =>
        cases hincident : row.incidentId with
        | none =>
            have heq := updateJob_eq_setJob hgoverned.keys hrow
              (fun r => { r with incidentId := some (scenarioIncident id) }) rfl
            simp only [Bool.not_true, Bool.false_eq_true, if_false, if_true, heq]
            rfl
        | some stored =>
            have hsame : db.setJob id row.toJob = db := by
              have heq := updateJob_eq_setJob hgoverned.keys hrow (fun r => r) rfl
              rw [← heq]
              simp only [Database.updateJob, Rows.modify, ite_self, List.map_id']
            simp only [Bool.not_true, Bool.false_eq_true, if_false, if_true]
            split
            · simp only [hsame]
              rfl
            · rfl

theorem markPaused_actsOn {checkpointId : String} :
    ActsOn s id (markPaused now id checkpointId token) := by
  refine onJob_match_actsOn (.notFound "investigation not found") (fun job =>
    if claimCurrent now token ⟨job, 0⟩ then
      .ok (.done, { job with
        status := .pausedApproval
        checkpointId := some checkpointId
        claimToken := none
        claimExpiresAt := none }, some (.ownerDecisionRequested checkpointId))
    else .error (.conflict "investigation claim is no longer current")) ?_ ?_ ?_
  · intro job reply job' o h
    split at h
    · cases h
      exact ⟨rfl, rfl⟩
    · cases h
  · intro db hrow
    simp only [markPaused, hrow]
  · intro db row hgoverned hrow
    have hcurrent : claimCurrent now token ⟨row.toJob, 0⟩ = claimCurrent now token row := rfl
    have heq := updateJob_eq_setJob hgoverned.keys hrow (fun r => { r with
      status := .pausedApproval
      checkpointId := some checkpointId
      claimToken := none
      claimExpiresAt := none }) rfl
    simp only [markPaused, hrow, hcurrent, heq]
    cases claimCurrent now token row <;> rfl

theorem retryRunning_actsOn {errorName : String} :
    ActsOn s id (retryRunning s now id token errorName) := by
  refine onJob_match_actsOn (.notFound "investigation not found") (fun job =>
    if claimHeld token ⟨job, 0⟩ then
      if s.maxReplayAttempts ≤ job.attemptCount + 1 then
        .ok (.retryable false, { job with
          status := .queued
          claimToken := none
          claimExpiresAt := none
          attemptCount := job.attemptCount + 1
          failureReason := some ("retry_limit:" ++ errorName) },
          some (.investigationFailed (job.attemptCount + 1)))
      else
        .ok (.retryable true, { job with
          status := .queued
          claimToken := none
          claimExpiresAt := none
          attemptCount := job.attemptCount + 1
          availableAt := now + s.retryDelay (job.attemptCount + 1) },
          some (.investigationRetryScheduled (job.attemptCount + 1)
            (now + s.retryDelay (job.attemptCount + 1))))
    else .error (.conflict "only a running investigation may be retried")) ?_ ?_ ?_
  · intro job reply job' o h
    split at h
    · split at h <;> cases h <;> exact ⟨rfl, rfl⟩
    · cases h
  · intro db hrow
    simp only [retryRunning, hrow]
  · intro db row hgoverned hrow
    have hheld : claimHeld token ⟨row.toJob, 0⟩ = claimHeld token row := rfl
    have hfailed := updateJob_eq_setJob hgoverned.keys hrow (fun r => { r with
      status := .queued
      claimToken := none
      claimExpiresAt := none
      attemptCount := row.attemptCount + 1
      failureReason := some ("retry_limit:" ++ errorName) }) rfl
    have hscheduled := updateJob_eq_setJob hgoverned.keys hrow (fun r => { r with
      status := .queued
      claimToken := none
      claimExpiresAt := none
      attemptCount := row.attemptCount + 1
      availableAt := now + s.retryDelay (row.attemptCount + 1) }) rfl
    simp only [retryRunning, hrow, hheld, hfailed, hscheduled]
    cases claimHeld token row with
    | false => rfl
    | true =>
        simp only [Bool.not_true, Bool.false_eq_true, if_false, if_true]
        split <;> rfl

theorem retryDelivery_actsOn {errorName : String} :
    ActsOn s id (retryDelivery s now id token errorName) := by
  refine ActsOn.congr (onDelivery_actsOn (.notFound "report delivery not found")
    (fun delivery =>
      if deliveryHeld token ⟨delivery, 0⟩ then
        if s.maxDeliveryAttempts ≤ delivery.attemptCount + 1 then
          .ok (.retryable false, { delivery with
            status := .pending
            claimToken := none
            claimExpiresAt := none
            attemptCount := delivery.attemptCount + 1
            failureReason := some ("retry_limit:" ++ errorName) },
            some (.reportDeliveryFailed (delivery.attemptCount + 1)))
        else
          .ok (.retryable true, { delivery with
            status := .pending
            claimToken := none
            claimExpiresAt := none
            attemptCount := delivery.attemptCount + 1
            availableAt := now + s.retryDelay (delivery.attemptCount + 1) },
            some (.reportDeliveryRetryScheduled (delivery.attemptCount + 1)
              (now + s.retryDelay (delivery.attemptCount + 1))))
      else .error (.conflict "delivery is not currently claimed")) ?_) ?_
  · intro delivery reply delivery' o h
    split at h
    · split at h <;> cases h <;> rfl
    · cases h
  · intro db hgoverned
    cases hrow : db.delivery id with
    | none => simp only [retryDelivery, onDelivery, hrow]
    | some row =>
        have hheld : deliveryHeld token ⟨row.toDelivery, 0⟩ = deliveryHeld token row := rfl
        have hfailed := updateDelivery_eq_setDelivery hgoverned.keys hrow (fun r => { r with
          status := .pending
          claimToken := none
          claimExpiresAt := none
          attemptCount := row.attemptCount + 1
          failureReason := some ("retry_limit:" ++ errorName) }) rfl
        have hscheduled := updateDelivery_eq_setDelivery hgoverned.keys hrow (fun r => { r with
          status := .pending
          claimToken := none
          claimExpiresAt := none
          attemptCount := row.attemptCount + 1
          availableAt := now + s.retryDelay (row.attemptCount + 1) }) rfl
        simp only [retryDelivery, onDelivery, hrow, hheld, hfailed, hscheduled]
        cases deliveryHeld token row with
        | false => rfl
        | true =>
            simp only [Bool.not_true, Bool.false_eq_true, if_false, if_true]
            split <;> rfl

theorem acted_finalized {db : Database} (hgoverned : Governed s db) {row : JobRow}
    (hrow : db.job id = some row) (habsent : db.delivery id = none) (job : Job)
    (hid : job.id = row.id) (howner : job.owner = row.owner) (delivery : Delivery)
    (hdelivery : delivery.jobId = id) (o : Occurrence) :
    Acted id db (((db.setJob id job).insertDelivery delivery).event id o) ∧
      (((db.setJob id job).insertDelivery delivery).event id o).thread id =
        ⟨some job, some delivery, appended (db.thread id).timeline (some o)⟩ := by
  have hset : ∀ third, Numbered (((db.setJob id job).insertDelivery delivery).timeline third) :=
    hgoverned.orderly.ordinals
  have hnone : (db.setJob id job).delivery id = none := habsent
  have hthread : ∀ other, (((db.setJob id job).insertDelivery delivery).event id o).thread other =
      if other = id then
        ⟨some job, some delivery, appended (db.thread id).timeline (some o)⟩
      else db.thread other := by
    intro other
    rw [thread_event hset, thread_insertDelivery hnone hdelivery,
      thread_setJob hgoverned.keys hrow hid]
    by_cases h : other = id
    · subst h
      rw [if_pos rfl, if_pos rfl, if_pos rfl, if_pos rfl]
      rfl
    · rw [if_neg h, if_neg h, if_neg h, if_neg h]
  have hself := hthread id
  rw [if_pos rfl] at hself
  exact ⟨⟨fun other hne => (hthread other).trans (if_neg hne), rfl, ⟨job, by rw [hself]⟩,
    ownedJobs_replaced hgoverned.keys hrow rfl hid howner⟩, hself⟩

theorem finalize_actsOn {a : Ambient} {artifact : String} :
    ActsOn s id (finalize s a id artifact token) := by
  intro db db' hgoverned hgoverned' hthread
  have hjobs : (db.job id).map JobRow.toJob = (db'.job id).map JobRow.toJob :=
    congrArg Thread.job hthread
  have hdeliveries : (db.delivery id).map DeliveryRow.toDelivery =
      (db'.delivery id).map DeliveryRow.toDelivery := congrArg Thread.delivery hthread
  have hpresent : (db.delivery id).isSome = (db'.delivery id).isSome := by
    have h := congrArg Option.isSome hdeliveries
    simpa using h
  cases hrow : db.job id with
  | none =>
      rw [hrow] at hjobs
      have hrow' : db'.job id = none := Option.map_eq_none_iff.1 hjobs.symm
      exact .inl ⟨_, by simp only [finalize, hrow]; rfl, by simp only [finalize, hrow']⟩
  | some row =>
      rw [hrow] at hjobs
      obtain ⟨row', hrow', hsame⟩ := Option.map_eq_some_iff.1 hjobs.symm
      have hstatus : row'.status = row.status := congrArg Job.status hsame
      have hcurrent : claimCurrent a.now token row' = claimCurrent a.now token row := by
        have hguard : ∀ r : JobRow, claimCurrent a.now token r =
            claimCurrent a.now token ⟨r.toJob, 0⟩ := fun _ => rfl
        rw [hguard row', hguard row, hsame]
      by_cases hcompleted : row.status = .completed
      · exact .inl ⟨_, by simp only [finalize, hrow, hcompleted, if_true]; rfl,
          by simp only [finalize, hrow', hstatus, hcompleted, if_true]⟩
      cases hheld : claimCurrent a.now token row with
      | false =>
          exact .inl ⟨_, by simp [finalize, hrow, hcompleted, hheld]; rfl,
            by simp [finalize, hrow', hstatus, hcurrent, hcompleted, hheld]⟩
      | true =>
          cases hread : readReportSnapshot a.reportFile id artifact with
          | error e =>
              exact .inl ⟨e, by simp [finalize, hrow, hcompleted, hheld, hread],
                by simp [finalize, hrow', hstatus, hcurrent, hcompleted, hheld, hread]⟩
          | ok content =>
              cases hsome : (db.delivery id).isSome with
              | true =>
                  have hsome' := hpresent.symm.trans hsome
                  exact .inl ⟨_, by simp [finalize, hrow, hcompleted, hheld, hread, hsome]; rfl,
                    by simp [finalize, hrow', hstatus, hcurrent, hcompleted, hheld, hread,
                      hsome']⟩
              | false =>
                  have hsome' := hpresent.symm.trans hsome
                  have habsent : db.delivery id = none := by simpa using hsome
                  have habsent' : db'.delivery id = none := by simpa using hsome'
                  have hset := updateJob_eq_setJob hgoverned.keys hrow (fun r => { r with
                    status := .completed
                    reportArtifact := some artifact
                    reportContent := some content
                    reportSha256 := some (s.sha256 content)
                    claimToken := none
                    claimExpiresAt := none }) rfl
                  have hset' := updateJob_eq_setJob hgoverned'.keys hrow' (fun r => { r with
                    status := .completed
                    reportArtifact := some artifact
                    reportContent := some content
                    reportSha256 := some (s.sha256 content)
                    claimToken := none
                    claimExpiresAt := none }) rfl
                  obtain ⟨hacted, hself⟩ := acted_finalized hgoverned hrow habsent
                    (completedJob s row.toJob artifact content) rfl rfl
                    (newDelivery row.toJob) (job_id hrow) .reportFinalized
                  obtain ⟨hacted', hself'⟩ := acted_finalized hgoverned' hrow' habsent'
                    (completedJob s row'.toJob artifact content) rfl rfl
                    (newDelivery row'.toJob) (job_id hrow') .reportFinalized
                  refine .inr ⟨.done, _, _, ?_, ?_, hacted, hacted', ?_⟩
                  · simp only [finalize, hrow, hcompleted, hheld, hread, hsome, hset]
                    rfl
                  · simp only [finalize, hrow', hstatus, hcurrent, hcompleted, hheld, hread,
                      hsome', hset']
                    rfl
                  · rw [hself, hself', hsame, hthread]

end Methods

end CausalOps.ControlPlane.Api
