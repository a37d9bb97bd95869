import CausalOps.ControlPlane.Sqlite.Records

set_option autoImplicit false

/-! What the tables keep from move to move: decisions and checkpoints, one announcement
of each decision, and that a claim without a decision is held by a job without one. -/

namespace CausalOps.ControlPlane.Sqlite

section Kept

variable {s : Settings} {rules : Rules} {db db' : Database} {id : String}

/-- A mirrored decision stays, and a job that has been paused keeps a checkpoint. -/
structure Kept (db db' : Database) : Prop where
  decisions : ∀ id, db.decision id ≠ none → db'.decision id ≠ none
  checkpoints : ∀ id row, db.job id = some row → row.checkpointId ≠ none →
    ∃ row', db'.job id = some row' ∧ row'.checkpointId ≠ none

theorem Kept.refl (db : Database) : Kept db db :=
  ⟨fun _ h => h, fun _ row hrow h => ⟨row, hrow, h⟩⟩

theorem Kept.trans {db'' : Database} (h : Kept db db') (h' : Kept db' db'') : Kept db db'' := by
  refine ⟨fun id hdecision => h'.decisions id (h.decisions id hdecision), ?_⟩
  intro id row hrow hcheckpoint
  obtain ⟨row', hrow', hcheckpoint'⟩ := h.checkpoints id row hrow hcheckpoint
  exact h'.checkpoints id row' hrow' hcheckpoint'

theorem setJob_checkpoints (hkeys : Keys db) {row : JobRow} (hrow : db.job id = some row)
    {job : Job} (hid : job.id = row.id)
    (hcheckpoint : row.checkpointId ≠ none → job.checkpointId ≠ none)
    {other : String} {r : JobRow} (hr : db.job other = some r) (hc : r.checkpointId ≠ none) :
    ∃ r', (db.setJob id job).job other = some r' ∧ r'.checkpointId ≠ none := by
  rw [setJob_job hkeys hrow hid]
  by_cases heq : other = id
  · subst heq
    rw [hrow] at hr
    cases hr
    exact ⟨_, if_pos rfl, hcheckpoint hc⟩
  · exact ⟨r, by rw [if_neg heq]; exact hr, hc⟩

theorem queueDecided_checkpoints (hkeys : Keys db) {row : JobRow} (hrow : db.job id = some row)
    {c : String} {d : OwnerDecision} {other : String} {r : JobRow}
    (hr : db.job other = some r) (hc : r.checkpointId ≠ none) :
    ∃ r', (queueDecided db id c d).job other = some r' ∧ r'.checkpointId ≠ none := by
  rw [queueDecided_job hkeys hrow]
  by_cases heq : other = id
  · subst heq
    rw [hrow] at hr
    cases hr
    exact ⟨_, if_pos rfl, hc⟩
  · exact ⟨r, by rw [if_neg heq]; exact hr, hc⟩

theorem kept_move (hkeys : Keys db) (h : Move s rules db db') : Kept db db' := by
  refine ⟨fun _ => h.decision_ne_none, ?_⟩
  cases h with
  | created fresh owner family key habsent hkey =>
      intro other r hr hc
      refine ⟨r, ?_, hc⟩
      have hlookup : Rows.lookup JobRow.key other db.jobs = some r := hr
      change Rows.lookup JobRow.key other (db.insertJob _).jobs = some r
      simp [Database.insertJob, Rows.lookup_append, hlookup]
  | @job id row job o hrow hstep =>
      intro other r hr hc
      rw [job_of_event]
      refine setJob_checkpoints hkeys hrow hstep.keeps.1 ?_ hr hc
      rcases hstep.checkpoint_or_paused.2 with ⟨hsame, -⟩ | ⟨c, -, -, hnew, -⟩
      · exact fun h => hsame ▸ h
      · exact fun _ => by simp [hnew]
  | @decided id c row d hrow hpaused hcheckpoint hpresent hrecorded hnone =>
      have hkeys' : Keys (insertMirror db id c d) := insertMirror_keys hkeys hnone
      intro other r hr hc
      have hrow' : (insertMirror db id c d).job id = some row := hrow
      have hr' : (insertMirror db id c d).job other = some r := hr
      exact queueDecided_checkpoints hkeys' hrow' hr' hc
  | redecided hrow hpaused hcheckpoint hpresent hrecorded hmirrored =>
      exact fun other r hr hc => queueDecided_checkpoints hkeys hrow hr hc
  | @finalized id artifact content row path hrow hrunning hpath hblank habsent =>
      have hid : (completedJob s row.toJob artifact content).id = row.id := rfl
      exact fun other r hr hc => setJob_checkpoints hkeys hrow hid (fun h => h) hr hc
  | @delivery id row delivery o hrow hstep =>
      intro other r hr hc
      rw [job_of_event]
      exact ⟨r, hr, hc⟩

theorem kept_moves (hkeys : Keys db) (h : Moves s rules db db') : Kept db db' := by
  induction h with
  | refl => exact .refl db
  | tail hmoves hmove ih => exact ih.trans (kept_move (Moves.keys hmoves hkeys) hmove)

end Kept

section Announced

variable {s : Settings} {rules : Rules} {db db' : Database} {id : String}

/-- The `owner_decision_recorded` events of a job. -/
def announcements (db : Database) (id : String) : Nat :=
  (db.timeline id).countP fun event => event.name = "owner_decision_recorded"

/-- A decision is announced once, when it is mirrored. -/
structure Announced (db : Database) : Prop where
  once : ∀ id, announcements db id ≤ 1
  undecided : ∀ id, db.decision id = none → announcements db id = 0

theorem announced_empty : Announced .empty :=
  ⟨fun _ => Nat.zero_le 1, fun _ _ => rfl⟩

theorem announcements_event (o : Occurrence) (other : String) :
    announcements (db.event id o) other = announcements db other +
      if id = other ∧ o.name = "owner_decision_recorded" then 1 else 0 := by
  simp only [announcements, timeline_event]
  by_cases hid : id = other
  · by_cases hname : o.name = "owner_decision_recorded" <;> simp [hid, hname]
  · simp [hid]

theorem JobStep.not_announced {job job' : Job} {o : Occurrence}
    (h : JobStep s rules db job job' (some o)) : o.name ≠ "owner_decision_recorded" := by
  cases h <;> simp [Occurrence.investigationFailed, Occurrence.investigationLeaseExpired,
    Occurrence.investigationStarted, Occurrence.scenarioReserved,
    Occurrence.ownerDecisionRequested, Occurrence.investigationRequeued,
    Occurrence.investigationRetryScheduled]

theorem DeliveryStep.not_announced {delivery delivery' : Delivery} {o : Occurrence}
    (h : DeliveryStep s delivery delivery' (some o)) :
    o.name ≠ "owner_decision_recorded" := by
  cases h <;> simp [Occurrence.reportDeliveryFailed, Occurrence.reportDeliveryLeaseExpired,
    Occurrence.reportDelivered, Occurrence.reportDeliveryRequeued,
    Occurrence.reportDeliveryRetryScheduled]

theorem Announced.event (h : Announced db) {o : Occurrence}
    (hname : o.name ≠ "owner_decision_recorded") : Announced (db.event id o) := by
  have hsame : ∀ other, announcements (db.event id o) other = announcements db other :=
    fun other => by simp [announcements_event, hname]
  exact ⟨fun other => hsame other ▸ h.once other, fun other hnone => hsame other ▸ h.undecided other hnone⟩

theorem Announced.move (h : Announced db)
    (hpaused : ∀ row ∈ db.jobs, row.status = .pausedApproval → db.decision row.id = none)
    (hmove : Move s rules db db') : Announced db' := by
  cases hmove with
  | created fresh owner family key habsent hkey =>
      have hinserted : Announced (db.insertJob (newJob fresh owner family key)) :=
        ⟨h.once, h.undecided⟩
      exact hinserted.event (by simp [Occurrence.investigationQueued])
  | @job id row job o hrow hstep =>
      have hset : Announced (db.setJob id job) := ⟨h.once, h.undecided⟩
      cases o with
      | none => exact hset
      | some o => exact hset.event hstep.not_announced
  | @decided id c row d hrow hpaused' hcheckpoint hpresent hrecorded hnone =>
      have hsame : ∀ other, announcements (queueDecided (insertMirror db id c d) id c d) other =
          announcements db other +
            if id = other ∧ (Occurrence.ownerDecisionRecorded c d.decision.text).name =
              "owner_decision_recorded" then 1 else 0 := fun other => announcements_event _ other
      have hdecision : ∀ other, (queueDecided (insertMirror db id c d) id c d).decision other =
          (db.decision other).or (if id = other then some ⟨.of c d, id⟩ else none) :=
        fun other => insertMirror_decision other
      refine ⟨?_, ?_⟩
      · intro other
        rw [hsame]
        by_cases hid : id = other
        · subst hid
          simp [h.undecided id hnone, Occurrence.ownerDecisionRecorded]
        · simpa [hid] using h.once other
      · intro other hundecided
        rw [hdecision] at hundecided
        have hid : id ≠ other := by
          rintro rfl
          simp at hundecided
        rw [hsame]
        simp only [hid, if_false, Option.or_none] at hundecided
        simpa [hid] using h.undecided other hundecided
  | redecided hrow hpaused' hcheckpoint hpresent hrecorded hmirrored =>
      have hnone := hpaused _ (job_mem hrow) hpaused'
      rw [job_id hrow, hmirrored] at hnone
      cases hnone
  | @finalized id artifact content row path hrow hrunning hpath hblank habsent =>
      have hset : Announced ((db.setJob id (completedJob s row.toJob artifact content)).insertDelivery
          (newDelivery row.toJob)) := ⟨h.once, h.undecided⟩
      exact hset.event (by simp [Occurrence.reportFinalized])
  | @delivery id row delivery o hrow hstep =>
      have hset : Announced (db.setDelivery id delivery) := ⟨h.once, h.undecided⟩
      cases o with
      | none => exact hset
      | some o => exact hset.event hstep.not_announced

end Announced

section Tracked

variable {s : Settings} {rules : Rules} {db db' : Database} {id : String}
  {history : List Reply}

def claims (history : List Reply) : List WorkerClaim :=
  history.filterMap fun
    | .claim claim => claim
    | _ => none

/-- A job that runs under a claim without a decision has no mirrored decision. -/
def Tracked (history : List Reply) (db : Database) : Prop :=
  ∀ row ∈ db.jobs, row.status = .running → ∀ claim ∈ claims history,
    row.claimToken = some claim.claimToken → claim.ownerDecision = none →
      db.decision row.id = none

theorem JobStep.running {job job' : Job} {o : Option Occurrence}
    (h : JobStep s rules db job job' o) (hrunning : job'.status = .running) :
    (∃ token, rules.issued token ∧ job'.claimToken = some token) ∨
      (job.status = .running ∧ job'.claimToken = job.claimToken) := by
  cases h with
  | started hissued => exact Or.inl ⟨_, hissued, rfl⟩
  | renewed hold => exact Or.inr ⟨hold, rfl⟩
  | reserved hold => exact Or.inr ⟨hold, rfl⟩
  | leaseFailed | leaseExpired | paused | requeued | retryFailed | retryScheduled =>
      cases hrunning

theorem Tracked.setJob (hkeys : Keys db) (h : Tracked history db) {row : JobRow}
    (hrow : db.job id = some row) {job : Job} (hid : job.id = row.id)
    (hstep : job.status = .running →
      (∃ token, (∀ claim ∈ claims history, claim.claimToken ≠ token) ∧
        job.claimToken = some token) ∨
      (row.status = .running ∧ job.claimToken = row.claimToken)) :
    Tracked history (db.setJob id job) := by
  intro r hr hrunning claim hclaim htoken hnone
  rcases (mem_setJob_jobs hkeys hrow).1 hr with rfl | ⟨hr, -⟩
  · change db.decision job.id = none
    rcases hstep hrunning with ⟨token, hfresh, hnew⟩ | ⟨hold, hsame⟩
    · have heq : some claim.claimToken = some token := htoken.symm.trans hnew
      exact absurd (Option.some.inj heq) (hfresh claim hclaim)
    · rw [hid]
      exact h row (job_mem hrow) hold claim hclaim (hsame.symm.trans htoken) hnone
  · exact h r hr hrunning claim hclaim htoken hnone

theorem Tracked.emit (h : Tracked history db) (o : Option Occurrence) :
    Tracked history (db.emit id o) := by
  cases o <;> exact h

theorem Tracked.move (hkeys : Keys db) (h : Tracked history db)
    (hissued : ∀ token, rules.issued token → ∀ claim ∈ claims history, claim.claimToken ≠ token)
    (hmove : Move s rules db db') : Tracked history db' := by
  cases hmove with
  | created fresh owner family key habsent hkey =>
      intro r hr hrunning
      rcases List.mem_append.1 hr with hr | hr
      · exact h r hr hrunning
      · obtain rfl := List.mem_singleton.1 hr
        cases hrunning
  | @job id row job o hrow hstep =>
      refine (h.setJob hkeys hrow hstep.keeps.1 fun hrunning => ?_).emit o
      rcases hstep.running hrunning with ⟨token, hnew, htoken⟩ | hold
      · exact Or.inl ⟨token, hissued token hnew, htoken⟩
      · exact Or.inr hold
  | @decided id c row d hrow hpaused hcheckpoint hpresent hrecorded hnone =>
      have hkeys' : Keys (insertMirror db id c d) := insertMirror_keys hkeys hnone
      have hrow' : (insertMirror db id c d).job id = some row := hrow
      intro r hr hrunning claim hclaim htoken hundecided
      rw [queueDecided_jobs hkeys' hrow', mem_setJob_jobs hkeys' hrow'] at hr
      rcases hr with rfl | ⟨hr, hne⟩
      · cases hrunning
      · rw [queueDecided_decision, insertMirror_decision, if_neg fun heq => hne heq.symm,
          Option.or_none]
        exact h r hr hrunning claim hclaim htoken hundecided
  | @redecided id c row d mirrored hrow hpaused hcheckpoint hpresent hrecorded hmirrored =>
      intro r hr hrunning claim hclaim htoken hundecided
      rw [queueDecided_jobs hkeys hrow, mem_setJob_jobs hkeys hrow] at hr
      rcases hr with rfl | ⟨hr, hne⟩
      · cases hrunning
      · exact h r hr hrunning claim hclaim htoken hundecided
  | @finalized id artifact content row path hrow hrunning hpath hblank habsent =>
      have hset : Tracked history (db.setJob id (completedJob s row.toJob artifact content)) :=
        h.setJob hkeys hrow rfl (by simp [completedJob])
      exact hset
  | @delivery id row delivery o hrow hstep =>
      refine Tracked.emit ?_ o
      exact h

end Tracked

end CausalOps.ControlPlane.Sqlite
