import CausalOps.ControlPlane.Sqlite.Reports

set_option autoImplicit false

/-! The incident of a job, over whole runs: it is named after the job, stays with it, and is the
incident of no other. -/

namespace CausalOps.ControlPlane

section Threads

variable {s : Settings} {t t' : Thread} {incidentId : String}

def Job.Finished (job : Job) : Prop := job.failureReason ≠ none ∨ job.status = .completed

/-- The incident of an investigation is named after it. -/
def Thread.Named (t : Thread) : Prop :=
  ∀ job, t.job = some job → ∀ incidentId, job.incidentId = some incidentId →
    incidentId = scenarioIncident job.id

def Thread.Holds (t : Thread) (incidentId : String) : Prop :=
  ∃ job, t.job = some job ∧ job.incidentId = some incidentId

/-- A change of a job leaves its incident, or reserves the one that is named after it. -/
theorem JobChange.incident {job job' : Job} {o : Option Occurrence} (h : JobChange s job job' o) :
    job'.id = job.id ∧ (job'.incidentId = job.incidentId ∨
      job.incidentId = none ∧ job'.incidentId = some (scenarioIncident job.id)) := by
  obtain ⟨rules, db, h⟩ := h
  cases h with
  | reserved hrunning hnone => exact ⟨rfl, .inr ⟨hnone, rfl⟩⟩
  | leaseFailed | leaseExpired | started | renewed | paused | requeued | retryFailed
  | retryScheduled => exact ⟨rfl, .inl rfl⟩

theorem Thread.Step.named (h : Thread.Step s t t') (hnamed : t.Named) : t'.Named := by
  cases h with
  | created fresh owner family key hjob =>
      intro job hnew incidentId hincident
      rw [← Option.some.inj hnew] at hincident
      cases hincident
  | @job job job' o hjob hchange =>
      obtain ⟨hid, hincident | ⟨hnone, hincident⟩⟩ := hchange.incident
      · intro after hafter incidentId hheld
        rw [← Option.some.inj hafter] at hheld ⊢
        rw [hid]
        exact hnamed job hjob incidentId (hincident ▸ hheld)
      · intro after hafter incidentId hheld
        rw [← Option.some.inj hafter] at hheld ⊢
        rw [hid]
        exact (Option.some.inj (hincident.symm.trans hheld)).symm
  | @decided job checkpointId decision hjob hpaused =>
      intro after hafter incidentId hheld
      rw [← Option.some.inj hafter] at hheld ⊢
      exact hnamed job hjob incidentId hheld
  | @finalized job artifact content hjob hrunning =>
      intro after hafter incidentId hheld
      rw [← Option.some.inj hafter] at hheld ⊢
      exact hnamed job hjob incidentId hheld
  | delivery hdelivery hchange => exact hnamed

theorem Thread.Steps.named (h : Thread.Steps s t t') (hnamed : t.Named) : t'.Named := by
  induction h with
  | refl => exact hnamed
  | tail _ hstep ih => exact hstep.named ih

theorem Thread.Step.holds (h : Thread.Step s t t') (hholds : t.Holds incidentId) :
    t'.Holds incidentId := by
  obtain ⟨held, hheld, hincident⟩ := hholds
  cases h with
  | created fresh owner family key hjob =>
      rw [hjob] at hheld
      cases hheld
  | @job job job' o hjob hchange =>
      rw [hjob] at hheld
      obtain rfl := Option.some.inj hheld
      obtain ⟨-, hsame | ⟨hnone, -⟩⟩ := hchange.incident
      · exact ⟨job', rfl, hsame.trans hincident⟩
      · rw [hnone] at hincident
        cases hincident
  | @decided job checkpointId decision hjob hpaused =>
      rw [hjob] at hheld
      obtain rfl := Option.some.inj hheld
      exact ⟨_, rfl, hincident⟩
  | @finalized job artifact content hjob hrunning =>
      rw [hjob] at hheld
      obtain rfl := Option.some.inj hheld
      exact ⟨_, rfl, hincident⟩
  | delivery hdelivery hchange => exact ⟨held, hheld, hincident⟩

theorem Thread.Steps.holds (h : Thread.Steps s t t') (hholds : t.Holds incidentId) :
    t'.Holds incidentId := by
  induction h with
  | refl => exact hholds
  | tail _ hstep ih => exact hstep.holds ih

end Threads

namespace Sqlite

section Incidents

variable {s : Settings} {db db' : Database} {id token incidentId : String} {reply : Reply}

/-- An investigation that holds the incident is over. -/
def Closed (db : Database) (incidentId : String) : Prop :=
  ∃ id job, (db.thread id).job = some job ∧ job.incidentId = some incidentId ∧ job.Finished

def Ended (db : Database) (id : String) : Prop :=
  ∃ job, (db.thread id).job = some job ∧ job.Finished

def Onward (s : Settings) (db db' : Database) : Prop :=
  ∀ id, Thread.Steps s (db.thread id) (db'.thread id)

theorem happen_onward {store : Store} (hgoverned : Governed s store.control)
    (incident : Incident) : Governed s (happen s store incident).2.control ∧
      Onward s store.control (happen s store incident).2.control := by
  have hmoves := @happen_moves s store hgoverned.keys incident
  exact ⟨hgoverned.moves hmoves, hmoves.thread hgoverned.keys hgoverned.orderly⟩

theorem Onward.finished (h : Onward s db db') (hgoverned : Governed s db) {job : Job}
    (hjob : (db.thread id).job = some job) (hfinished : job.Finished) :
    (db'.thread id).job = some job := by
  obtain ⟨job', hjob', hlater⟩ := ((h id).later (hgoverned.threads id)).job job hjob
  rw [hjob', hlater.absorbed hfinished]

theorem Ended.ahead (h : Onward s db db') (hgoverned : Governed s db) (hended : Ended db id) :
    Ended db' id := by
  obtain ⟨job, hjob, hfinished⟩ := hended
  exact ⟨job, h.finished hgoverned hjob hfinished, hfinished⟩

theorem Closed.ahead (h : Onward s db db') (hgoverned : Governed s db)
    (hclosed : Closed db incidentId) : Closed db' incidentId := by
  obtain ⟨id, job, hjob, hincident, hfinished⟩ := hclosed
  exact ⟨id, job, h.finished hgoverned hjob hfinished, hincident, hfinished⟩

theorem thread_job {job : Job} (h : (db.thread id).job = some job) :
    ∃ row, db.job id = some row ∧ row.toJob = job :=
  Option.map_eq_some_iff.1 h

theorem thread_id {job : Job} (h : (db.thread id).job = some job) : job.id = id := by
  obtain ⟨row, hrow, rfl⟩ := thread_job h
  exact job_id hrow

theorem Closed.ended (h : Closed db incidentId) (hnamed : ∀ id, (db.thread id).Named)
    (hholds : (db.thread id).Holds incidentId) : Ended db id := by
  obtain ⟨other, job, hjob, hincident, hfinished⟩ := h
  obtain ⟨held, hheld, hsame⟩ := hholds
  have hname := hnamed other job hjob incidentId hincident
  have hname' := hnamed id held hheld incidentId hsame
  rw [thread_id hjob] at hname
  rw [thread_id hheld] at hname'
  obtain rfl := scenarioIncident_inj (hname.symm.trans hname')
  exact ⟨job, hjob, hfinished⟩

theorem Ended.closed (h : Ended db id) (hholds : (db.thread id).Holds incidentId) :
    Closed db incidentId := by
  obtain ⟨job, hjob, hfinished⟩ := h
  obtain ⟨held, hheld, hincident⟩ := hholds
  rw [hjob] at hheld
  obtain rfl := Option.some.inj hheld
  exact ⟨id, job, hjob, hincident, hfinished⟩

/-- What `scenario_status` tells of a job that is over. -/
theorem scenarioStatus_closed {status : InvestigationStatus} (hkeys : Keys db)
    (h : scenarioStatus incidentId db = .ok (.scenario (some status), db'))
    (hended : status = .failedSafe ∨ status = .completed) : Closed db incidentId := by
  simp only [scenarioStatus] at h
  split at h
  · cases h
  rename_i row hrow
  obtain ⟨hreply, rfl⟩ := Prod.mk.inj (Except.ok.inj h)
  obtain rfl := Option.some.inj (Reply.scenario.inj hreply)
  have hmem := List.mem_of_find?_eq_some hrow
  have hjob : db.job row.id = some row := hkeys.jobs.lookup_of_mem hmem
  refine ⟨row.id, row.toJob, thread_of_job hjob, by simpa using List.find?_some hrow, ?_⟩
  cases hreason : row.failureReason with
  | some reason => exact .inl (by simp [hreason])
  | none =>
      right
      simp only [Job.view, hreason, Option.isSome_none, Bool.false_eq_true, if_false] at hended
      cases hstatus : row.status <;> simp_all [JobStatus.investigationStatus]

theorem incidentIdFor_holds (h : incidentIdFor id db = .ok (.incidentId (some incidentId), db')) :
    (db.thread id).Holds incidentId := by
  simp only [incidentIdFor] at h
  split at h
  · cases h
  rename_i row hrow
  split at h
  · cases h
  rename_i stored hstored
  split at h
  · cases h
    exact ⟨row.toJob, thread_of_job hrow, hstored⟩
  · cases h

theorem finalize_ended {a : Ambient} {artifact : String} (hkeys : Keys db)
    (h : finalize s a id artifact token db = .ok (reply, db')) : Ended db' id := by
  simp only [finalize] at h
  split at h
  · cases h
  rename_i row hrow
  split at h
  · cases h
  split at h
  · cases h
  split at h
  · cases h
  rename_i content hcontent
  split at h
  · cases h
  cases h
  have hjob := updateJob_job hkeys hrow (fun r => { r with
    status := .completed
    reportArtifact := some artifact
    reportContent := some content
    reportSha256 := some (s.sha256 content)
    claimToken := none
    claimExpiresAt := none }) rfl rfl id
  rw [if_pos rfl] at hjob
  exact ⟨_, thread_of_job hjob, .inr rfl⟩

theorem retryRunning_ended {now : Time} {errorName : String} (hkeys : Keys db)
    (h : retryRunning s now id token errorName db = .ok (.retryable false, db')) :
    Ended db' id := by
  obtain ⟨row, hrow, hreason, -⟩ := (retryRunning_counts hkeys h).2 rfl
  exact ⟨row.toJob, thread_of_job hrow, .inl (by simp [hreason])⟩

end Incidents

end Sqlite

end CausalOps.ControlPlane
