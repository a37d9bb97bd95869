import CausalOps.ControlPlane.Sqlite.Moves

set_option autoImplicit false

/-! Every method that returns has made moves, and only moves. -/

namespace CausalOps.ControlPlane.Sqlite

variable {s : Settings} {rules : Rules}
  {db db' : Database} {id token : String} {now : Time} {reply : Reply}

section Guards

theorem countP_jobs (hkeys : Keys db) (guard : JobRow → Bool) :
    db.jobs.countP (fun row => decide (row.key = id) && guard row) = 1 ↔
      ∃ row, db.job id = some row ∧ guard row = true := by
  have hlookup : Rows.lookup JobRow.key id db.jobs = db.job id := rfl
  rw [Rows.countP_key hkeys.jobs, hlookup]
  cases hrow : db.job id with
  | none => simp
  | some row => by_cases hguard : guard row = true <;> simp [hguard]

theorem countP_deliveries (hkeys : Keys db) (guard : DeliveryRow → Bool) :
    db.deliveries.countP (fun row => decide (row.key = id) && guard row) = 1 ↔
      ∃ row, db.delivery id = some row ∧ guard row = true := by
  have hlookup : Rows.lookup DeliveryRow.key id db.deliveries = db.delivery id := rfl
  rw [Rows.countP_key hkeys.deliveries, hlookup]
  cases hrow : db.delivery id with
  | none => simp
  | some row => by_cases hguard : guard row = true <;> simp [hguard]

/-- A guarded UPDATE that reports one changed row is an update of that job. -/
theorem update_jobs (hkeys : Keys db) {row : JobRow} (hrow : db.job id = some row)
    {guard : JobRow → Bool} (hguard : guard row = true) (set : JobRow → JobRow) :
    Rows.update (fun row => decide (row.key = id) && guard row) set db.jobs =
      (db.updateJob id set).jobs := by
  have hlookup : Rows.lookup JobRow.key id db.jobs = db.job id := rfl
  rw [Rows.update_key hkeys.jobs, hlookup]
  simp [hrow, hguard, Database.updateJob]

theorem update_deliveries (hkeys : Keys db) {row : DeliveryRow}
    (hrow : db.delivery id = some row) {guard : DeliveryRow → Bool}
    (hguard : guard row = true) (set : DeliveryRow → DeliveryRow) :
    Rows.update (fun row => decide (row.key = id) && guard row) set db.deliveries =
      (db.updateDelivery id set).deliveries := by
  have hlookup : Rows.lookup DeliveryRow.key id db.deliveries = db.delivery id := rfl
  rw [Rows.update_key hkeys.deliveries, hlookup]
  simp [hrow, hguard, Database.updateDelivery]

theorem claimHeld_iff {row : JobRow} :
    claimHeld token row = true ↔ row.status = .running ∧ row.claimToken = some token := by
  simp [claimHeld]

theorem claimCurrent_iff {row : JobRow} :
    claimCurrent now token row = true ↔
      (row.status = .running ∧ row.claimToken = some token) ∧
        unexpired now row.claimExpiresAt = true := by
  simp [claimCurrent]

theorem deliveryHeld_iff {row : DeliveryRow} :
    deliveryHeld token row = true ↔
      row.status = .sending ∧ row.claimToken = some token := by
  simp [deliveryHeld]

theorem deliveryCurrent_iff {row : DeliveryRow} :
    deliveryCurrent now token row = true ↔
      (row.status = .sending ∧ row.claimToken = some token) ∧
        unexpired now row.claimExpiresAt = true := by
  simp [deliveryCurrent]

/-- An update of a job is a move when it makes a job step of the row that is there. -/
theorem Move.ofUpdate (hkeys : Keys db) {row : JobRow} (hrow : db.job id = some row)
    (set : JobRow → JobRow) (hrowid : (set row).rowid = row.rowid) {o : Option Occurrence}
    (hstep : JobStep s rules db row.toJob (set row).toJob o) :
    Move s rules db ((db.updateJob id set).emit id o) := by
  rw [updateJob_eq_setJob hkeys hrow set hrowid]
  exact .job hrow hstep

theorem Move.ofDeliveryUpdate (hkeys : Keys db) {row : DeliveryRow}
    (hrow : db.delivery id = some row) (set : DeliveryRow → DeliveryRow)
    (hrowid : (set row).rowid = row.rowid) {o : Option Occurrence}
    (hstep : DeliveryStep s row.toDelivery (set row).toDelivery o) :
    Move s rules db ((db.updateDelivery id set).emit id o) := by
  rw [updateDelivery_eq_setDelivery hkeys hrow set hrowid]
  exact .delivery hrow hstep

end Guards

section Readers

theorem owned_ok {owner : String} {row : JobRow} (h : owned db owner id = .ok row) :
    row ∈ db.jobs ∧ row.id = id ∧ row.owner = owner := by
  simp only [owned] at h
  split at h
  · rename_i found hfound
    obtain rfl := Except.ok.inj h
    have hguard := List.find?_some hfound
    simp only [Bool.and_eq_true, decide_eq_true_eq] at hguard
    exact ⟨List.mem_of_find?_eq_some hfound, hguard⟩
  · cases h

theorem owned_job (hkeys : Keys db) {owner : String} {row : JobRow}
    (h : owned db owner id = .ok row) : db.job id = some row := by
  obtain ⟨hmem, hid, -⟩ := owned_ok h
  exact (hkeys.jobs.lookup_iff).2 ⟨hmem, hid⟩

theorem status_moves {owner : String} (h : status owner id db = .ok (reply, db')) :
    db' = db := by
  simp only [status, bind, Except.bind] at h
  split at h
  · cases h
  · cases h
    rfl

theorem events_moves {owner : String} (h : events owner id db = .ok (reply, db')) :
    db' = db := by
  simp only [events, bind, Except.bind] at h
  split at h
  · cases h
  · cases h
    rfl

theorem report_moves {owner : String} (h : report s owner id db = .ok (reply, db')) :
    db' = db := by
  simp only [report, bind, Except.bind] at h
  split at h
  · cases h
  · split at h
    · cases h
    · cases h
      rfl

theorem scenarioStatus_moves {incident : String}
    (h : scenarioStatus incident db = .ok (reply, db')) : db' = db := by
  simp only [scenarioStatus] at h
  split at h <;> cases h <;> rfl

theorem incidentIdFor_moves (h : incidentIdFor id db = .ok (reply, db')) : db' = db := by
  simp only [incidentIdFor] at h
  split at h
  · cases h
  · split at h
    · cases h
      rfl
    · split at h
      · cases h
        rfl
      · cases h

end Readers

section Worker

theorem create_moves {fresh : Uuid} {owner key : String} {family : ScenarioFamily}
    (h : create fresh owner family key db = .ok (reply, db')) :
    Moves s rules db db' := by
  simp only [create] at h
  split at h
  · cases h
    exact .refl
  · rename_i hnone
    split at h
    · cases h
    · rename_i habsent
      cases h
      refine .single (.created fresh owner family key (by simpa using habsent) ?_)
      simpa using hnone

theorem renewRunning_moves (hkeys : Keys db)
    (h : renewRunning s now id token db = .ok (reply, db')) : Moves s rules db db' := by
  simp only [renewRunning] at h
  split at h
  · cases h
  · rename_i hcount
    obtain ⟨row, hrow, hguard⟩ := (countP_jobs hkeys _).1 (not_not.1 hcount)
    obtain ⟨⟨hrunning, -⟩, hcurrent⟩ := claimCurrent_iff.1 hguard
    cases h
    rw [update_jobs hkeys hrow hguard]
    exact .single (Move.ofUpdate hkeys hrow
      (fun row => { row with claimExpiresAt := some (now + s.claimLeaseSeconds) }) rfl
      (.renewed hrunning hcurrent))

theorem reserveIncident_moves (hkeys : Keys db)
    (h : reserveIncident now id token db = .ok (reply, db')) : Moves s rules db db' := by
  simp only [reserveIncident] at h
  split at h
  · cases h
  · rename_i row hrow
    split at h
    · cases h
    · rename_i hguard
      obtain ⟨⟨hrunning, -⟩, -⟩ := claimCurrent_iff.1 (by simpa using hguard)
      split at h
      · rename_i hnone
        cases h
        obtain rfl := job_id hrow
        exact .single (Move.ofUpdate hkeys hrow
          (fun r => { r with incidentId := some (scenarioIncident row.id) }) rfl
          (.reserved hrunning hnone))
      · split at h
        · cases h
          exact .refl
        · cases h

theorem markPaused_moves (hkeys : Keys db) {checkpointId : String}
    (hpresent : Text.strip checkpointId ≠ "")
    (hpausable : ∀ row, db.job id = some row → claimHeld token row = true →
      rules.pausable db id checkpointId)
    (h : markPaused now id checkpointId token db = .ok (reply, db')) :
    Moves s rules db db' := by
  simp only [markPaused] at h
  split at h
  · cases h
  · rename_i row hrow
    split at h
    · cases h
    · rename_i hguard
      obtain ⟨⟨hrunning, htoken⟩, -⟩ := claimCurrent_iff.1 (by simpa using hguard)
      have hpause := hpausable row hrow (claimHeld_iff.2 ⟨hrunning, htoken⟩)
      cases h
      obtain rfl := job_id hrow
      exact .single (Move.ofUpdate hkeys hrow
        (fun row => { row with
          status := .pausedApproval
          checkpointId := some checkpointId
          claimToken := none
          claimExpiresAt := none }) rfl (.paused hrunning htoken hpresent hpause))

theorem requeueRunning_moves (hkeys : Keys db)
    (h : requeueRunning id token db = .ok (reply, db')) : Moves s rules db db' := by
  simp only [requeueRunning] at h
  split at h
  · cases h
  · rename_i hcount
    obtain ⟨row, hrow, hguard⟩ := (countP_jobs hkeys _).1 (not_not.1 hcount)
    cases h
    rw [update_jobs hkeys hrow hguard]
    exact .single (Move.ofUpdate hkeys hrow
      (fun row => { row with status := .queued, claimToken := none, claimExpiresAt := none })
      rfl (.requeued (claimHeld_iff.1 hguard).1))

theorem retryRunning_moves (hkeys : Keys db) {errorName : String}
    (h : retryRunning s now id token errorName db = .ok (reply, db')) :
    Moves s rules db db' := by
  simp only [retryRunning] at h
  split at h
  · cases h
  · rename_i row hrow
    split at h
    · cases h
    · rename_i hguard
      have hrunning : row.status = .running := (claimHeld_iff.1 (by simpa using hguard)).1
      split at h
      · rename_i hlimit
        cases h
        exact .single (Move.ofUpdate hkeys hrow
          (fun r => { r with
            status := .queued
            claimToken := none
            claimExpiresAt := none
            attemptCount := row.attemptCount + 1
            failureReason := some ("retry_limit:" ++ errorName) }) rfl
          (.retryFailed hrunning hlimit))
      · rename_i hlimit
        cases h
        exact .single (Move.ofUpdate hkeys hrow
          (fun r => { r with
            status := .queued
            claimToken := none
            claimExpiresAt := none
            attemptCount := row.attemptCount + 1
            availableAt := now + s.retryDelay (row.attemptCount + 1) }) rfl
          (.retryScheduled hrunning (not_le.1 hlimit)))

theorem finalize_moves (hkeys : Keys db) {a : Ambient} {artifact : String}
    (hblank : Text.strip artifact ≠ "")
    (h : finalize s a id artifact token db = .ok (reply, db')) :
    Moves s rules db db' := by
  simp only [finalize] at h
  split at h
  · cases h
  · rename_i row hrow
    split at h
    · cases h
    · split at h
      · cases h
      · rename_i hguard
        obtain ⟨⟨hrunning, -⟩, -⟩ := claimCurrent_iff.1 (by simpa using hguard)
        split at h
        · cases h
        · rename_i content hcontent
          obtain ⟨path, hpath⟩ := readReportSnapshot_ok hcontent
          split at h
          · cases h
          · rename_i habsent
            cases h
            have hset := updateJob_eq_setJob hkeys hrow (fun r => { r with
              status := .completed
              reportArtifact := some artifact
              reportContent := some content
              reportSha256 := some (s.sha256 content)
              claimToken := none
              claimExpiresAt := none }) rfl
            rw [hset]
            exact .single (.finalized hrow hrunning hpath hblank (by simpa using habsent))

end Worker

section Outbox

theorem markDelivered_moves (hkeys : Keys db)
    (h : markDelivered now id token db = .ok (reply, db')) : Moves s rules db db' := by
  simp only [markDelivered] at h
  split at h
  · cases h
  · rename_i hcount
    obtain ⟨row, hrow, hguard⟩ := (countP_deliveries hkeys _).1 (not_not.1 hcount)
    obtain ⟨⟨hsending, -⟩, hcurrent⟩ := deliveryCurrent_iff.1 hguard
    cases h
    rw [update_deliveries hkeys hrow hguard]
    exact .single (Move.ofDeliveryUpdate hkeys hrow
      (fun row => { row with status := .sent, claimToken := none, claimExpiresAt := none })
      rfl (.delivered hsending hcurrent))

theorem renewDelivery_moves (hkeys : Keys db)
    (h : renewDelivery s now id token db = .ok (reply, db')) : Moves s rules db db' := by
  simp only [renewDelivery] at h
  split at h
  · cases h
  · rename_i hcount
    obtain ⟨row, hrow, hguard⟩ := (countP_deliveries hkeys _).1 (not_not.1 hcount)
    obtain ⟨⟨hsending, -⟩, hcurrent⟩ := deliveryCurrent_iff.1 hguard
    cases h
    rw [update_deliveries hkeys hrow hguard]
    exact .single (Move.ofDeliveryUpdate hkeys hrow
      (fun row => { row with claimExpiresAt := some (now + s.claimLeaseSeconds) }) rfl
      (.renewed hsending hcurrent))

theorem releaseDelivery_moves (hkeys : Keys db)
    (h : releaseDelivery id token db = .ok (reply, db')) : Moves s rules db db' := by
  simp only [releaseDelivery] at h
  split at h
  · cases h
  · rename_i hcount
    obtain ⟨row, hrow, hguard⟩ := (countP_deliveries hkeys _).1 (not_not.1 hcount)
    cases h
    rw [update_deliveries hkeys hrow hguard]
    exact .single (Move.ofDeliveryUpdate hkeys hrow
      (fun row => { row with status := .pending, claimToken := none, claimExpiresAt := none })
      rfl (.released (deliveryHeld_iff.1 hguard).1))

theorem retryDelivery_moves (hkeys : Keys db) {errorName : String}
    (h : retryDelivery s now id token errorName db = .ok (reply, db')) :
    Moves s rules db db' := by
  simp only [retryDelivery] at h
  split at h
  · cases h
  · rename_i row hrow
    split at h
    · cases h
    · rename_i hguard
      have hsending : row.status = .sending := (deliveryHeld_iff.1 (by simpa using hguard)).1
      split at h
      · rename_i hlimit
        cases h
        exact .single (Move.ofDeliveryUpdate hkeys hrow
          (fun r => { r with
            status := .pending
            claimToken := none
            claimExpiresAt := none
            attemptCount := row.attemptCount + 1
            failureReason := some ("retry_limit:" ++ errorName) }) rfl
          (.retryFailed hsending hlimit))
      · rename_i hlimit
        cases h
        exact .single (Move.ofDeliveryUpdate hkeys hrow
          (fun r => { r with
            status := .pending
            claimToken := none
            claimExpiresAt := none
            attemptCount := row.attemptCount + 1
            availableAt := now + s.retryDelay (row.attemptCount + 1) }) rfl
          (.retryScheduled hsending (not_le.1 hlimit)))

end Outbox

end CausalOps.ControlPlane.Sqlite
