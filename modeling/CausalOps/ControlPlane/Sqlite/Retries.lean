import CausalOps.ControlPlane.Sqlite.Threads

set_option autoImplicit false

/-! Whole runs of the SQLite control plane, and the attempts that jobs and deliveries spend
in them: up to the maximum, at which a job or delivery has failed for good. -/

namespace CausalOps.ControlPlane.Sqlite

section Runs

variable {s : Settings} {db db' : Database}

def reached (s : Settings) (incidents : List Incident) : Store :=
  (Machine.run (happen s) Store.empty incidents).2

theorem reached_append (before after : List Incident) :
    reached s (before ++ after) = (Machine.run (happen s) (reached s before) after).2 := by
  simp only [reached, Machine.run_append]

/-- Tables with their keys and records in order, and every investigation sound. -/
structure Governed (s : Settings) (db : Database) : Prop where
  keys : Keys db
  orderly : Orderly s db
  threads : ∀ id, (db.thread id).Sound s

theorem governed_empty : Governed s .empty :=
  ⟨keys_empty, orderly_empty, fun _ => Thread.sound_absent⟩

theorem Governed.moves {rules : Rules} (h : Governed s db) (hmoves : Moves s rules db db') :
    Governed s db' := by
  obtain ⟨hkeys, horderly⟩ := hmoves.preserve
    (fun _ _ hkeys horderly hmove => horderly.move hkeys hmove) h.keys h.orderly
  exact ⟨hkeys, horderly, fun id =>
    Thread.Steps.sound (hmoves.thread h.keys h.orderly id) (h.threads id)⟩

theorem happen_moves {store : Store} (hkeys : Keys store.control) (incident : Incident) :
    Moves s anyRules store.control (happen s store incident).2.control := by
  cases incident with
  | ledger rows => exact .refl
  | call a call => exact (step_moves hkeys (a, call)).1

theorem run_moves (incidents : List Incident) {store : Store} (hkeys : Keys store.control) :
    Moves s anyRules store.control (Machine.run (happen s) store incidents).2.control := by
  induction incidents generalizing store with
  | nil => exact .refl
  | cons incident rest ih =>
      have hfirst := @happen_moves s store hkeys incident
      exact hfirst.trans (ih (hfirst.keys hkeys))

theorem reached_governed (incidents : List Incident) :
    Governed s (reached s incidents).control := by
  have hmoves : Moves s anyRules Store.empty.control (reached s incidents).control :=
    run_moves incidents keys_empty
  exact governed_empty.moves hmoves

theorem reached_later (before after : List Incident) (id : String) :
    ((reached s before).control.thread id).Later
      ((reached s (before ++ after)).control.thread id) := by
  have hgoverned := @reached_governed s before
  have hmoves : Moves s anyRules (reached s before).control
      (reached s (before ++ after)).control := by
    rw [reached_append]
    exact run_moves after hgoverned.keys
  exact Thread.Steps.later (hmoves.thread hgoverned.keys hgoverned.orderly id)
    (hgoverned.threads id)

end Runs

section Claims

variable {s : Settings} {store : Store}

/-- A job that `claim_next` hands out runs from then on. -/
theorem claimNext_running (hkeys : Keys store.control) {a : Ambient} {claim : WorkerClaim}
    (h : (step s store (a, .claimNext)).1 = .ok (.claim (some claim))) :
    ∃ row, (step s store (a, .claimNext)).2.control.job claim.investigationId = some row ∧
      row.status = .running := by
  have hclaim : (claimNext s a store.control).Meets exec ledgerOnly ()
      (ClaimOutcome s (fun _ _ _ _ => True) anyRules.toConduct
        (fun t => t.control = store.control ∧ t.history = store.history) False store
        store.control a.fresh.hex) store :=
    claimNext_meets (ledgerOnly_use store) nofun ⟨rfl, rfl⟩ hkeys a nofun trivial
  have hdone := hclaim.run
  revert h
  simp only [step, method, precheck, body, run_transaction]
  revert hdone
  cases (claimNext s a store.control).run exec store with
  | mk outcome store' =>
      intro hdone h
      cases outcome with
      | error e => cases h
      | ok answer =>
          obtain ⟨reply, db'⟩ := answer
          obtain rfl : reply = .claim (some claim) := Except.ok.inj h
          obtain ⟨row, hrow, hrunning, -⟩ := (hdone.handed claim db' rfl).running
          exact ⟨row, hrow, hrunning⟩

theorem claimDelivery_handed {db db' : Database} (hkeys : Keys db) {a : Ambient}
    {claim : DeliveryClaim}
    (h : claimDelivery s a db = .ok (.delivery (some claim), db')) :
    ∃ row, db'.delivery claim.investigationId = some row ∧ row.status = .sending := by
  have hmoves : Moves s anyRules db (reclaimExpiredDeliveries s a.now db) :=
    reclaimExpiredDeliveries_moves hkeys
  have hkeys' := hmoves.keys hkeys
  simp only [claimDelivery] at h
  split at h
  · cases h
  · rename_i delivery job hselected
    have hmem := List.argmin_mem hselected
    simp only [List.mem_filter] at hmem
    obtain ⟨hdelivery, hjob⟩ := joined_mem hmem.1
    have hrow : (reclaimExpiredDeliveries s a.now db).delivery job.id = some delivery := by
      rw [job_id hjob]
      exact hkeys'.deliveries.lookup_of_mem hdelivery
    split at h
    · cases h
    · rename_i handed hhanded
      obtain ⟨hreply, rfl⟩ := Prod.mk.inj (Except.ok.inj h)
      obtain rfl : handed = claim := by simpa using hreply
      have hid : handed.investigationId = job.id := by
        simp only [deliveryClaim] at hhanded
        split at hhanded
        · rw [← Except.ok.inj hhanded]
        · cases hhanded
      rw [hid, updateDelivery_eq_setDelivery hkeys' hrow (fun r => { r with
        status := .sending
        claimToken := some a.fresh.hex
        claimExpiresAt := some (a.now + s.claimLeaseSeconds) }) rfl]
      exact ⟨_, (setDelivery_delivery hkeys' hrow (by rfl) job.id).trans (if_pos rfl), rfl⟩

/-- A delivery that `claim_delivery` hands out is being sent from then on. -/
theorem claimDelivery_sending (hkeys : Keys store.control) {a : Ambient} {claim : DeliveryClaim}
    (h : (step s store (a, .claimDelivery)).1 = .ok (.delivery (some claim))) :
    ∃ row, (step s store (a, .claimDelivery)).2.control.delivery claim.investigationId =
      some row ∧ row.status = .sending := by
  revert h
  simp only [step, method, precheck, body, run_transaction]
  cases hanswer : claimDelivery s a store.control with
  | error e =>
      intro h
      cases h
  | ok answer =>
      obtain ⟨reply, db'⟩ := answer
      intro h
      obtain rfl : reply = .delivery (some claim) := Except.ok.inj h
      exact claimDelivery_handed hkeys hanswer

end Claims

section Retries

variable {s : Settings} {db : Database} {id : String}

theorem thread_job_mem (hkeys : Keys db) {row : JobRow} (hrow : row ∈ db.jobs) :
    (db.thread row.id).job = some row.toJob :=
  thread_of_job (hkeys.jobs.lookup_of_mem hrow : db.job row.id = some row)

theorem thread_delivery_mem (hkeys : Keys db) {row : DeliveryRow} (hrow : row ∈ db.deliveries) :
    (db.thread row.jobId).delivery = some row.toDelivery :=
  thread_of_delivery (hkeys.deliveries.lookup_of_mem hrow : db.delivery row.jobId = some row)

theorem job_of_thread {job : Job} (h : (db.thread id).job = some job) :
    ∃ row ∈ db.jobs, row.toJob = job ∧ row.id = id := by
  obtain ⟨row, hrow, hsame⟩ := Option.map_eq_some_iff.1 h
  exact ⟨row, job_mem hrow, hsame, job_id hrow⟩

theorem delivery_of_thread {delivery : Delivery} (h : (db.thread id).delivery = some delivery) :
    ∃ row ∈ db.deliveries, row.toDelivery = delivery ∧ row.jobId = id := by
  obtain ⟨row, hrow, hsame⟩ := Option.map_eq_some_iff.1 h
  exact ⟨row, delivery_mem hrow, hsame, delivery_jobId hrow⟩

/-- What holds of a job row, and of the same row in a later state. -/
structure JobBounded (s : Settings) (db later : Database) (row : JobRow) : Prop where
  spent : Spent s.maxReplayAttempts row.attemptCount row.failureReason
  apart : ¬ (row.failureReason ≠ none ∧ row.status = .completed)
  kept : ∃ row' ∈ later.jobs, row'.id = row.id ∧ row.attemptCount ≤ row'.attemptCount ∧
    (row.failureReason ≠ none ∨ row.status = .completed → row'.toJob = row.toJob)

structure DeliveryBounded (s : Settings) (db later : Database) (row : DeliveryRow) : Prop where
  spent : Spent s.maxDeliveryAttempts row.attemptCount row.failureReason
  kept : ∃ row' ∈ later.deliveries, row'.jobId = row.jobId ∧
    row.attemptCount ≤ row'.attemptCount ∧
    (row.failureReason ≠ none ∨ row.status = .sent → row'.toDelivery = row.toDelivery)

/-- Attempts are bounded, failures happen at the bound, and what has failed, been completed
or been sent is never claimed and never changes. -/
theorem bounded_retries (s : Settings) (before after : List Incident) :
    let store := reached s before
    let later := (reached s (before ++ after)).control
    (∀ row ∈ store.control.jobs, JobBounded s store.control later row) ∧
      (∀ row ∈ store.control.deliveries, DeliveryBounded s store.control later row) ∧
      (∀ a claim, (step s store (a, .claimNext)).1 = .ok (.claim (some claim)) →
        ∀ row ∈ store.control.jobs, row.id = claim.investigationId →
          row.failureReason = none ∧ row.status ≠ .completed) ∧
      ∀ a claim, (step s store (a, .claimDelivery)).1 = .ok (.delivery (some claim)) →
        ∀ row ∈ store.control.deliveries, row.jobId = claim.investigationId →
          row.failureReason = none ∧ row.status ≠ .sent := by
  intro store later
  have hgoverned : Governed s store.control := reached_governed before
  have hkeys := hgoverned.keys
  have hlater : ∀ id, (store.control.thread id).Later (later.thread id) :=
    reached_later before after
  have honce : ∀ input : Ambient × Call, ∀ id,
      (store.control.thread id).Later ((step s store input).2.control.thread id) := fun input id =>
    Thread.Steps.later ((step_moves hkeys input).1.thread hkeys hgoverned.orderly id)
      (hgoverned.threads id)
  refine ⟨?_, ?_, ?_, ?_⟩
  · intro row hrow
    have hjob := thread_job_mem hkeys hrow
    have hsound := (hgoverned.threads row.id).job _ hjob
    obtain ⟨job', hjob', hkept⟩ := (hlater row.id).job _ hjob
    obtain ⟨row', hrow', rfl, hid⟩ := job_of_thread hjob'
    refine ⟨hsound.attempts, ?_, row', hrow', hid, hkept.attempts, hkept.absorbed⟩
    rintro ⟨hfailed, hcompleted⟩
    rw [hsound.failed hfailed] at hcompleted
    cases hcompleted
  · intro row hrow
    have hdelivery := thread_delivery_mem hkeys hrow
    have hsound := (hgoverned.threads row.jobId).delivery _ hdelivery
    obtain ⟨delivery', hdelivery', hkept⟩ := (hlater row.jobId).delivery _ hdelivery
    obtain ⟨row', hrow', rfl, hid⟩ := delivery_of_thread hdelivery'
    exact ⟨hsound.attempts, row', hrow', hid, hkept.attempts, hkept.absorbed⟩
  · intro a claim hclaim row hrow hid
    have hjob := thread_job_mem hkeys hrow
    have hsound := (hgoverned.threads row.id).job _ hjob
    obtain ⟨running, hrunning, hstatus⟩ := claimNext_running hkeys hclaim
    obtain ⟨job', hjob', hkept⟩ := (honce (a, .claimNext) row.id).job _ hjob
    rw [hid, thread_of_job hrunning] at hjob'
    obtain rfl := Option.some.inj hjob'
    -- A row that has ended would still be as it was, and not run.
    have hopen : ¬ (row.failureReason ≠ none ∨ row.status = .completed) := fun hended => by
      have hsame := hkept.absorbed hended
      have hrunningBefore : row.status = .running :=
        (congrArg Job.status hsame).symm.trans hstatus
      rcases hended with hfailed | hcompleted
      · rw [hsound.failed hfailed] at hrunningBefore
        cases hrunningBefore
      · rw [hcompleted] at hrunningBefore
        cases hrunningBefore
    exact ⟨by_contra fun h => hopen (.inl h), fun h => hopen (.inr h)⟩
  · intro a claim hclaim row hrow hid
    have hdelivery := thread_delivery_mem hkeys hrow
    have hsound := (hgoverned.threads row.jobId).delivery _ hdelivery
    obtain ⟨sending, hsending, hstatus⟩ := claimDelivery_sending hkeys hclaim
    obtain ⟨delivery', hdelivery', hkept⟩ := (honce (a, .claimDelivery) row.jobId).delivery _
      hdelivery
    rw [hid, thread_of_delivery hsending] at hdelivery'
    obtain rfl := Option.some.inj hdelivery'
    have hopen : ¬ (row.failureReason ≠ none ∨ row.status = .sent) := fun hended => by
      have hsame := hkept.absorbed hended
      have hsendingBefore : row.status = .sending :=
        (congrArg Delivery.status hsame).symm.trans hstatus
      rcases hended with hfailed | hsent
      · rw [hsound.failed hfailed] at hsendingBefore
        cases hsendingBefore
      · rw [hsent] at hsendingBefore
        cases hsendingBefore
    exact ⟨by_contra fun h => hopen (.inl h), fun h => hopen (.inr h)⟩

end Retries

end CausalOps.ControlPlane.Sqlite
