import CausalOps.ControlPlane.Mirror.Methods

set_option autoImplicit false

/-! The methods that reclaim leases and choose what to hand out: `claim_next` and
`claim_delivery`, on rows and on documents that arrive in any order. -/

namespace CausalOps.ControlPlane.Mirror

open Firestore (StreamOrder)
open Sqlite (Keys Orderly settled)

section ClaimNext

variable {s : Settings} {streams : StreamOrder} {db : Sqlite.Database}
  {fs : Firestore.Database} {now : Time}

theorem run_reclaimInvestigation (hkeys : Keys db) (horderly : Orderly s db)
    (hcoupled : Coupled db fs) {row : Sqlite.JobRow} (hrow : db.job row.id = some row) :
    ∃ fs', (Firestore.reclaimInvestigation s now (jobDoc row)).run (Firestore.exec streams) fs =
        (.ok (), fs') ∧
      Coupled (if expired now row.claimExpiresAt then Sqlite.reclaimInvestigation s now db row
        else db) fs' := by
  cases hexpired : expired now row.claimExpiresAt with
  | false => exact ⟨fs, by simp [Firestore.reclaimInvestigation, hexpired], by simpa using hcoupled⟩
  | true =>
      simp only [if_true, Sqlite.reclaimInvestigation]
      by_cases hlimit : s.maxReplayAttempts ≤ row.attemptCount + 1
      · simp only [hlimit, if_true]
        refine ⟨_, ?_, hcoupled.updateJobEvent hkeys horderly hrow (fun r => { r with
          status := .queued
          claimToken := none
          claimExpiresAt := none
          attemptCount := row.attemptCount + 1
          failureReason := some "retry_limit:lease_expired" }) rfl rfl _⟩
        simp [Firestore.reclaimInvestigation, hexpired, hlimit, Program.run_bind]
        rfl
      · simp only [hlimit, if_false]
        refine ⟨_, ?_, hcoupled.updateJobEvent hkeys horderly hrow (fun r => { r with
          status := .queued
          claimToken := none
          claimExpiresAt := none
          attemptCount := row.attemptCount + 1
          availableAt := now + s.retryDelay (row.attemptCount + 1) }) rfl rfl _⟩
        simp [Firestore.reclaimInvestigation, hexpired, hlimit, Program.run_bind]
        rfl

/-- The documents of a query on jobs are those of some of the rows, in some order. -/
theorem stream_jobs (hcoupled : Coupled db fs) (query : Firestore.JobQuery) :
    ∃ rows : List Sqlite.JobRow,
      rows.Perm (db.jobs.filter fun row => query.selects (jobDoc row)) ∧
        streams.order (fs.jobs.filter query.selects) = rows.map jobDoc := by
  have hperm := streams.perm (fs.jobs.filter query.selects)
  have hmap : fs.jobs.filter query.selects =
      (db.jobs.filter fun row => query.selects (jobDoc row)).map jobDoc := by
    rw [hcoupled.jobs, List.filter_map]
    rfl
  rw [hmap] at hperm ⊢
  exact Selection.exists_map_of_perm hperm

theorem run_reclaimExpiredInvestigations (hkeys : Keys db) (horderly : Orderly s db)
    (hfenced : Sqlite.Fenced db) (hcoupled : Coupled db fs) :
    ∃ fs', (Firestore.reclaimExpiredInvestigations s now).run (Firestore.exec streams) fs =
        (.ok (), fs') ∧
      Coupled (Sqlite.reclaimExpiredInvestigations s now db) fs' := by
  obtain ⟨rows, hperm, hdocs⟩ :=
    @stream_jobs streams db fs hcoupled (.status .running)
  have hselects : (fun row : Sqlite.JobRow =>
      (Firestore.JobQuery.status .running).selects (jobDoc row)) =
        fun row : Sqlite.JobRow => decide (row.status = .running) := rfl
  rw [hselects] at hperm
  have hchosen : (db.jobs.filter fun row =>
      row.status = .running && expired now row.claimExpiresAt) =
        (db.jobs.filter fun row => row.status = .running).filter
          fun row => expired now row.claimExpiresAt := by
    rw [List.filter_filter]
    exact List.filter_congr fun row _ => Bool.and_comm _ _
  have hrunning : ∀ row ∈ rows, row ∈ db.jobs ∧ row.status = .running := fun row hrow => by
    simpa using hperm.mem_iff.1 hrow
  simp only [Firestore.reclaimExpiredInvestigations, Program.run_call, Firestore.exec_streamJobs,
    hdocs, Sqlite.reclaimExpiredInvestigations, hchosen]
  cases rows with
  | nil =>
      have hnone := hperm.symm.eq_nil
      refine ⟨fs, rfl, ?_⟩
      rw [hnone]
      exact hcoupled
  | cons row rest =>
      have hrest : rest = [] := by
        have hnodup : (row :: rest).Nodup := hperm.nodup_iff.2 (hkeys.jobs.of_map.filter _)
        cases rest with
        | nil => rfl
        | cons other rest =>
            have hsame := hfenced.single row (hrunning row (by simp)).1 other
              (hrunning other (by simp)).1 (hrunning row (by simp)).2 (hrunning other (by simp)).2
            have hnot := (List.nodup_cons.1 hnodup).1
            exact absurd (by simp [hsame]) hnot
      subst hrest
      have hone : (db.jobs.filter fun row => row.status = .running) = [row] :=
        List.perm_singleton.1 hperm.symm
      have hrow : db.job row.id = some row :=
        hkeys.jobs.lookup_of_mem (hrunning row (by simp)).1
      obtain ⟨fs', hrun, hcoupled'⟩ :=
        @run_reclaimInvestigation s streams db fs now hkeys horderly hcoupled row hrow
      refine ⟨fs', ?_, ?_⟩
      · simp [Firestore.forEach, Program.run_bind, hrun]
      · rw [hone]
        cases hexpired : expired now row.claimExpiresAt <;>
          simpa [hexpired] using hcoupled'

theorem Orderly.rowid_pos (horderly : Orderly s db) {row : Sqlite.JobRow}
    (hrow : row ∈ db.jobs) : 0 < row.rowid := by
  have hmem := List.mem_map_of_mem (f := Sqlite.JobRow.rowid) hrow
  rw [horderly.rowids, List.mem_range'_1] at hmem
  exact hmem.1

theorem Orderly.rowid_inj (horderly : Orderly s db) {a b : Sqlite.JobRow} (ha : a ∈ db.jobs)
    (hb : b ∈ db.jobs) (hrowid : a.rowid = b.rowid) : a = b := by
  have hnodup : (db.jobs.map Sqlite.JobRow.rowid).Nodup := by
    rw [horderly.rowids]
    exact List.nodup_range'
  exact List.inj_on_of_nodup_map hnodup ha hb hrowid

theorem claimOrder_jobDoc (row : Sqlite.JobRow) :
    Firestore.claimOrder (jobDoc row) =
      toLex (if row.incidentId.isNone then 1 else 0, toLex (row.availableAt, row.rowid - 1)) := by
  cases hincident : row.incidentId <;> simp [Firestore.claimOrder, jobDoc, hincident]

theorem claimOrder_lt_iff (horderly : Orderly s db) {a b : Sqlite.JobRow} (ha : a ∈ db.jobs)
    (hb : b ∈ db.jobs) :
    Firestore.claimOrder (jobDoc a) < Firestore.claimOrder (jobDoc b) ↔
      Sqlite.claimOrder a < Sqlite.claimOrder b := by
  have ha' := Orderly.rowid_pos horderly ha
  have hb' := Orderly.rowid_pos horderly hb
  have hrowid : a.rowid - 1 < b.rowid - 1 ↔ a.rowid < b.rowid := by omega
  simp only [claimOrder_jobDoc, Sqlite.claimOrder, Prod.Lex.toLex_lt_toLex, hrowid]

theorem claimOrder_inj (horderly : Orderly s db) {a b : Sqlite.JobRow} (ha : a ∈ db.jobs)
    (hb : b ∈ db.jobs) (heq : Firestore.claimOrder (jobDoc a) = Firestore.claimOrder (jobDoc b)) :
    a = b := by
  have ha' := Orderly.rowid_pos horderly ha
  have hb' := Orderly.rowid_pos horderly hb
  have hsequence : a.rowid - 1 = b.rowid - 1 :=
    congrArg (fun k => (ofLex (ofLex k).2).2) heq
  exact Orderly.rowid_inj horderly ha hb (by omega)

theorem claim_candidates (hcoupled : Coupled db fs) :
    ((streams.order (fs.jobs.filter (Firestore.JobQuery.status .queued).selects)).filter
        fun data => data.failureReason.isNone).filter (fun data => data.availableAt ≤ now)
      |>.Perm ((db.jobs.filter (Sqlite.claimable now)).map jobDoc) := by
  refine (((streams.perm _).filter _).filter _).trans (List.Perm.of_eq ?_)
  rw [hcoupled.jobs, List.filter_filter, List.filter_filter, List.filter_map]
  congr 1
  refine List.filter_congr fun row _ => ?_
  rw [Bool.eq_iff_iff]
  simp only [Function.comp_apply, Sqlite.claimable, Bool.and_eq_true, decide_eq_true_eq,
    selects_status]
  simp only [jobDoc_toJob]
  tauto

theorem claim_selection (horderly : Orderly s db) (hcoupled : Coupled db fs) :
    (((streams.order (fs.jobs.filter (Firestore.JobQuery.status .queued).selects)).filter
        fun data => data.failureReason.isNone).filter fun data => data.availableAt ≤ now).argmin
        Firestore.claimOrder =
      ((db.jobs.filter (Sqlite.claimable now)).argmin Sqlite.claimOrder).map jobDoc := by
  have hmem : ∀ row, row ∈ db.jobs.filter (Sqlite.claimable now) → row ∈ db.jobs :=
    fun row hrow => (List.mem_filter.1 hrow).1
  rw [Selection.argmin_perm (claim_candidates hcoupled) ?_, Selection.argmin_map]
  · congr 1
    exact Selection.argmin_congr fun a ha b hb =>
      claimOrder_lt_iff horderly (hmem a ha) (hmem b hb)
  · intro x hx y hy heq
    obtain ⟨a, ha, rfl⟩ := List.mem_map.1 hx
    obtain ⟨b, hb, rfl⟩ := List.mem_map.1 hy
    rw [claimOrder_inj horderly (hmem a ha) (hmem b hb) heq]

theorem isEmpty_running (hcoupled : Coupled db fs) :
    (streams.order (fs.jobs.filter (Firestore.JobQuery.status .running).selects)).isEmpty =
      !(db.jobs.any fun row => row.status = .running) := by
  obtain ⟨rows, hperm, hdocs⟩ := @stream_jobs streams db fs hcoupled (.status .running)
  rw [hdocs, List.isEmpty_map]
  cases rows with
  | nil =>
      have hnone := hperm.symm.eq_nil
      simp only [List.filter_eq_nil_iff, selects_status] at hnone
      symm
      simpa using hnone
  | cons row rest =>
      have hrow : row ∈ db.jobs ∧ row.status = .running := by
        simpa using hperm.mem_iff.1 (by simp : row ∈ row :: rest)
      have hany : (db.jobs.any fun row => row.status = .running) = true :=
        List.any_eq_true.2 ⟨row, hrow.1, by simpa using hrow.2⟩
      simp [hany]

theorem any_deferred (hcoupled : Coupled db fs) :
    ((streams.order (fs.jobs.filter (Firestore.JobQuery.status .queued).selects)).filter
        fun data => data.failureReason.isNone).any (Firestore.deferredScenario now) =
      db.jobs.any (Sqlite.deferredScenario now) := by
  rw [Bool.eq_iff_iff]
  simp only [List.any_eq_true, List.mem_filter, Firestore.mem_order, hcoupled.jobs,
    List.mem_map]
  constructor
  · rintro ⟨_, ⟨⟨⟨row, hrow, rfl⟩, hqueued⟩, hlive⟩, hdeferred⟩
    refine ⟨row, hrow, ?_⟩
    simp only [selects_status, deferred_jobDoc, jobDoc_toJob, decide_eq_true_eq,
      Bool.and_eq_true] at hqueued hlive hdeferred
    simp [Sqlite.deferredScenario, hqueued, hlive, hdeferred]
  · rintro ⟨row, hrow, hdeferred⟩
    simp only [Sqlite.deferredScenario, Bool.and_eq_true, decide_eq_true_eq] at hdeferred
    obtain ⟨⟨⟨hqueued, hlive⟩, hincident⟩, hlater⟩ := hdeferred
    refine ⟨jobDoc row, ⟨⟨⟨row, hrow, rfl⟩, ?_⟩, hlive⟩, ?_⟩
    · simpa using hqueued
    · simp [hincident, hlater]

theorem run_claimDoc (hkeys : Keys db) (horderly : Orderly s db) (hcoupled : Coupled db fs)
    {ledger : Ledger} (hlinked : Sqlite.Linked ledger db) {a : Ambient} {row : Sqlite.JobRow}
    (hrow : db.job row.id = some row) (hopen : row.status ≠ .pausedApproval) :
    ∃ fs', (Firestore.claimDoc s a (jobDoc row)).run (Firestore.exec streams) fs =
        (.ok (.claim (some (Sqlite.workerClaim row (Sqlite.carriedDecision db row.id)
          a.fresh.hex))), fs') ∧
      Coupled (Sqlite.startClaim s a.now a.fresh.hex row db) fs' := by
  have hstarted : Coupled (Sqlite.startClaim s a.now a.fresh.hex row db) _ :=
    hcoupled.updateJobEvent hkeys horderly hrow (fun r => { r with
      status := .running
      claimToken := some a.fresh.hex
      claimExpiresAt := some (a.now + s.claimLeaseSeconds) }) rfl rfl .investigationStarted
  refine ⟨_, ?_, hstarted⟩
  have hdecision := hcoupled.decision row.id
  have hpresent : ∀ o, Firestore.presentCheckpoint o = Sqlite.presentCheckpoint o := by
    intro o
    cases o <;> rfl
  cases hm : db.decision row.id with
  | none =>
      rw [hm] at hdecision
      simp [Firestore.claimDoc, Program.run_bind, hdecision, Sqlite.carriedDecision, hm]
      exact ⟨rfl, rfl⟩
  | some m =>
      rw [hm] at hdecision
      obtain ⟨d, -, hcolumns, -⟩ := hlinked.recorded m (Sqlite.decision_mem hm)
      have hverdict : m.decision = d.decision.text := congrArg DecisionColumns.decision hcolumns
      have hnote : m.rejectionNote = d.rejectionNote :=
        congrArg DecisionColumns.rejectionNote hcolumns
      obtain ⟨r, hr, hcheckpoint⟩ := hlinked.decided m (Sqlite.decision_mem hm)
      have hid : m.jobId = row.id := (Rows.lookup_key hm : m.key = row.id)
      rw [hid, hrow] at hr
      cases hr
      have hc := hcheckpoint hopen
      have hsome := Sqlite.presentCheckpoint_eq.2
        ⟨hc, hlinked.checkpoint row (Sqlite.job_mem hrow) _ hc⟩
      simp [Firestore.claimDoc, Program.run_bind, hdecision, Sqlite.carriedDecision, hm,
        decisionDoc, hverdict, hnote, hpresent, hsome]
      exact ⟨rfl, rfl⟩

theorem claimNext_mirrors (hkeys : Keys db) (horderly : Orderly s db)
    (hfenced : Sqlite.Fenced db) (hcoupled : Coupled db fs) {ledger : Ledger}
    (hlinked : Sqlite.Linked ledger db) {a : Ambient} :
    Mirrors streams fs db (Firestore.claimNext s a) (Sqlite.claimAlone s a db) := by
  have hmoves : Sqlite.Moves s Sqlite.noDecision db
      (Sqlite.reclaimExpiredInvestigations s a.now db) :=
    Sqlite.reclaimExpiredInvestigations_moves hkeys
  have hkeys' := hmoves.keys hkeys
  have horderly' := (hmoves.preserve
    (fun _ _ hkeys horderly hmove => horderly.move hkeys hmove) hkeys horderly).2
  have hlinked' := hlinked.moves hkeys hmoves
  obtain ⟨fs₁, hrun, hcoupled'⟩ :=
    @run_reclaimExpiredInvestigations s streams db fs a.now hkeys horderly hfenced hcoupled
  simp only [Sqlite.claimAlone]
  generalize Sqlite.reclaimExpiredInvestigations s a.now db = db₁
    at hkeys' horderly' hlinked' hcoupled'
  have hempty := @isEmpty_running streams db₁ fs₁ hcoupled'
  have hdeferred := @any_deferred streams db₁ fs₁ a.now hcoupled'
  have hselected := @claim_selection s streams db₁ fs₁ a.now horderly' hcoupled'
  have hunfold : (Firestore.claimNext s a).run (Firestore.exec streams) fs = _ :=
    (Program.run_bind _ _ fs).trans (by rw [hrun])
  simp only [Program.run_call, Firestore.exec_streamJobs, hempty, Bool.not_not] at hunfold
  by_cases hrunning : (db₁.jobs.any fun row => row.status = .running) = true
  · simp only [hrunning, if_true] at hunfold ⊢
    exact .answered hcoupled' hunfold
  · simp only [hrunning, Bool.false_eq_true, if_false, Program.run_call,
      Firestore.exec_streamJobs, hdeferred] at hunfold ⊢
    by_cases hlab : db₁.jobs.any (Sqlite.deferredScenario a.now) = true
    · simp only [hlab, if_true] at hunfold ⊢
      exact .answered hcoupled' hunfold
    · simp only [hlab, Bool.false_eq_true, if_false] at hunfold ⊢
      rw [hselected] at hunfold
      cases hrow : (db₁.jobs.filter (Sqlite.claimable a.now)).argmin Sqlite.claimOrder with
      | none =>
          rw [hrow] at hunfold
          exact .answered hcoupled' hunfold
      | some row =>
          rw [hrow] at hunfold
          obtain ⟨hmem, hclaimable⟩ := List.mem_filter.1 (List.argmin_mem hrow)
          have hopen : row.status ≠ .pausedApproval := by
            simp only [Sqlite.claimable, Bool.and_eq_true, decide_eq_true_eq] at hclaimable
            simp [hclaimable.1.1]
          obtain ⟨fs₂, hclaim, hcoupled₂⟩ := @run_claimDoc s streams db₁ fs₁ hkeys' horderly'
            hcoupled' ledger hlinked' a row (hkeys'.jobs.lookup_of_mem hmem) hopen
          exact .answered hcoupled₂ (hunfold.trans hclaim)

end ClaimNext

section Reclaim

variable {s : Settings} {streams : StreamOrder} {db : Sqlite.Database}
  {fs : Firestore.Database} {now : Time}

/-- The columns that the reclaim of a delivery lease writes. -/
def reclaimSet (s : Settings) (now : Time) (row r : Sqlite.DeliveryRow) : Sqlite.DeliveryRow :=
  if s.maxDeliveryAttempts ≤ row.attemptCount + 1 then
    { r with
      status := .pending
      claimToken := none
      claimExpiresAt := none
      attemptCount := row.attemptCount + 1
      failureReason := some "retry_limit:lease_expired" }
  else
    { r with
      status := .pending
      claimToken := none
      claimExpiresAt := none
      attemptCount := row.attemptCount + 1
      availableAt := now + s.retryDelay (row.attemptCount + 1) }

def reclaimOccurrence (s : Settings) (now : Time) (row : Sqlite.DeliveryRow) : Occurrence :=
  if s.maxDeliveryAttempts ≤ row.attemptCount + 1 then
    .reportDeliveryFailed (row.attemptCount + 1)
  else
    .reportDeliveryLeaseExpired (row.attemptCount + 1)
      (now + s.retryDelay (row.attemptCount + 1))

theorem reclaimDelivery_eq (row : Sqlite.DeliveryRow) :
    Sqlite.reclaimDelivery s now db row =
      (db.updateDelivery row.jobId (reclaimSet s now row)).event row.jobId
        (reclaimOccurrence s now row) := by
  by_cases hlimit : s.maxDeliveryAttempts ≤ row.attemptCount + 1
  · have hset : reclaimSet s now row = _ := funext fun r => if_pos hlimit
    simp only [hset, Sqlite.reclaimDelivery, reclaimOccurrence, hlimit, if_true]
  · have hset : reclaimSet s now row = _ := funext fun r => if_neg hlimit
    simp only [hset, Sqlite.reclaimDelivery, reclaimOccurrence, hlimit, if_false]

theorem reclaimSet_key (row r : Sqlite.DeliveryRow) : (reclaimSet s now row r).key = r.key := by
  simp only [reclaimSet]
  split <;> rfl

theorem reclaimSet_rowid (row r : Sqlite.DeliveryRow) :
    (reclaimSet s now row r).rowid = r.rowid := by
  simp only [reclaimSet]
  split <;> rfl

theorem not_deliverable_reclaimSet (row r : Sqlite.DeliveryRow) :
    Sqlite.deliverable now (reclaimSet s now row r).toDelivery = false := by
  have hdelay := s.retryDelay_pos (row.attemptCount + 1)
  simp only [reclaimSet]
  split
  · simp [Sqlite.deliverable]
  · have hlate : ¬ now + s.retryDelay (row.attemptCount + 1) ≤ now := by linarith
    simp [Sqlite.deliverable, hlate]

/-- What the reclaim of deliveries reads and writes. -/
abbrev Outbox := List Sqlite.DeliveryRow × (String → List TimelineEvent)

def outbox (db : Sqlite.Database) : Outbox := (db.deliveries, db.timeline)

def reclaimOutbox (s : Settings) (now : Time) (o : Outbox) (row : Sqlite.DeliveryRow) : Outbox :=
  (Rows.modify Sqlite.DeliveryRow.key row.jobId (reclaimSet s now row) o.1,
    fun id =>
      if row.jobId = id then
        o.2 id ++ [⟨Sqlite.nextOrdinal (o.2 id), (reclaimOccurrence s now row).name,
          (reclaimOccurrence s now row).fields⟩]
      else o.2 id)

theorem outbox_reclaimDelivery (row : Sqlite.DeliveryRow) :
    outbox (Sqlite.reclaimDelivery s now db row) = reclaimOutbox s now (outbox db) row := by
  rw [reclaimDelivery_eq]
  refine Prod.ext rfl (funext fun id => ?_)
  exact Sqlite.timeline_event _ id

theorem reclaimOutbox_comm (o : Outbox) {a b : Sqlite.DeliveryRow} (hne : a.jobId ≠ b.jobId) :
    reclaimOutbox s now (reclaimOutbox s now o a) b =
      reclaimOutbox s now (reclaimOutbox s now o b) a := by
  refine Prod.ext ?_ (funext fun id => ?_)
  · exact Rows.modify_comm hne (reclaimSet_key a) (reclaimSet_key b)
  · simp only [reclaimOutbox]
    by_cases ha : a.jobId = id
    · have hb : ¬ b.jobId = id := fun hb => hne (ha.trans hb.symm)
      simp [ha, hb]
    · by_cases hb : b.jobId = id <;> simp [ha, hb]

theorem reclaim_perm {chosen chosen' : List Sqlite.DeliveryRow} (hperm : chosen'.Perm chosen)
    (hkeyed : Rows.Keyed Sqlite.DeliveryRow.key chosen) (db : Sqlite.Database) :
    outbox (chosen'.foldl (Sqlite.reclaimDelivery s now) db) =
      outbox (chosen.foldl (Sqlite.reclaimDelivery s now) db) := by
  have hfold : ∀ rows : List Sqlite.DeliveryRow,
      outbox (rows.foldl (Sqlite.reclaimDelivery s now) db) =
        rows.foldl (reclaimOutbox s now) (outbox db) := fun rows =>
    (List.foldl_hom outbox fun db row => (outbox_reclaimDelivery row).symm).symm
  rw [hfold, hfold]
  refine hperm.foldl_eq' (fun a ha b hb o => ?_) (outbox db)
  by_cases hkey : a.jobId = b.jobId
  · rw [hkeyed.eq_of_key_eq (hperm.mem_iff.1 ha) (hperm.mem_iff.1 hb) hkey]
  · exact reclaimOutbox_comm o hkey

theorem reclaim_jobs (chosen : List Sqlite.DeliveryRow) (db : Sqlite.Database) :
    (chosen.foldl (Sqlite.reclaimDelivery s now) db).jobs = db.jobs ∧
      (chosen.foldl (Sqlite.reclaimDelivery s now) db).decisions = db.decisions := by
  induction chosen generalizing db with
  | nil => exact ⟨rfl, rfl⟩
  | cons row rest ih =>
      obtain ⟨hjobs, hdecisions⟩ := ih (Sqlite.reclaimDelivery s now db row)
      have hstep : (Sqlite.reclaimDelivery s now db row).jobs = db.jobs ∧
          (Sqlite.reclaimDelivery s now db row).decisions = db.decisions := by
        rw [reclaimDelivery_eq]
        exact ⟨rfl, rfl⟩
      exact ⟨hjobs.trans hstep.1, hdecisions.trans hstep.2⟩

theorem run_reclaimDelivery (hkeys : Keys db) (horderly : Orderly s db)
    (hcoupled : Coupled db fs) {row : Sqlite.DeliveryRow}
    (hrow : db.delivery row.jobId = some row) (hexpired : expired now row.claimExpiresAt = true) :
    ∃ fs', (Firestore.reclaimDelivery s now (deliveryDoc row)).run (Firestore.exec streams) fs =
        (.ok (), fs') ∧
      Coupled (Sqlite.reclaimDelivery s now db row) fs' := by
  rw [reclaimDelivery_eq]
  refine ⟨_, ?_, hcoupled.updateDeliveryEvent hkeys horderly hrow (reclaimSet s now row)
    (reclaimSet_rowid row row) (reclaimSet_key row row) _⟩
  by_cases hlimit : s.maxDeliveryAttempts ≤ row.attemptCount + 1
  · simp [Firestore.reclaimDelivery, hexpired, hlimit, Program.run_bind, reclaimSet,
      reclaimOccurrence]
    rfl
  · simp [Firestore.reclaimDelivery, hexpired, hlimit, Program.run_bind, reclaimSet,
      reclaimOccurrence]
    rfl

/-- The loop over the documents, against the fold over the rows whose lease is over. -/
theorem run_reclaimDeliveries (rows : List Sqlite.DeliveryRow)
    (hkeyed : Rows.Keyed Sqlite.DeliveryRow.key rows) (db : Sqlite.Database)
    (fs : Firestore.Database) (hkeys : Keys db) (horderly : Orderly s db)
    (hcoupled : Coupled db fs)
    (hrows : ∀ row ∈ rows, db.delivery row.jobId = some row ∧ row.status = .sending) :
    ∃ fs', (Firestore.forEach (Firestore.reclaimDelivery s now) (rows.map deliveryDoc)).run
          (Firestore.exec streams) fs = (.ok (), fs') ∧
      Coupled ((rows.filter fun row => expired now row.claimExpiresAt).foldl
        (Sqlite.reclaimDelivery s now) db) fs' := by
  induction rows generalizing db fs with
  | nil => exact ⟨fs, rfl, hcoupled⟩
  | cons row rest ih =>
      have hnodup : (row.key :: rest.map Sqlite.DeliveryRow.key).Nodup := hkeyed
      have hrest := (List.nodup_cons.1 hnodup).2
      obtain ⟨hrow, hsending⟩ := hrows row (by simp)
      cases hexpired : expired now row.claimExpiresAt with
      | false =>
          obtain ⟨fs', hrun, hcoupled'⟩ := ih hrest db fs hkeys horderly hcoupled
            fun later hlater => hrows later (by simp [hlater])
          refine ⟨fs', ?_, by simpa [hexpired] using hcoupled'⟩
          simp [Firestore.forEach, Firestore.reclaimDelivery, hexpired, hrun]
      | true =>
          obtain ⟨fs₁, hrun₁, hcoupled₁⟩ := @run_reclaimDelivery s streams db fs now hkeys
            horderly hcoupled row hrow hexpired
          have hmove : Sqlite.Move s Sqlite.noDecision db (Sqlite.reclaimDelivery s now db row) :=
            Sqlite.reclaimDelivery_move hkeys hrow hsending hexpired
          obtain ⟨fs', hrun, hcoupled'⟩ := ih hrest (Sqlite.reclaimDelivery s now db row) fs₁
            (hmove.keys hkeys) (horderly.move hkeys hmove) hcoupled₁ (by
              intro later hlater
              obtain ⟨hdelivery, hstatus⟩ := hrows later (by simp [hlater])
              have hne : later.jobId ≠ row.jobId := fun heq =>
                (List.nodup_cons.1 hnodup).1 (List.mem_map.2 ⟨later, hlater, heq⟩)
              exact ⟨(Sqlite.reclaimDelivery_delivery_ne hne).trans hdelivery, hstatus⟩)
          refine ⟨fs', ?_, by simpa [hexpired] using hcoupled'⟩
          simp [Firestore.forEach, Program.run_bind, hrun₁, hrun]

theorem stream_deliveries (hcoupled : Coupled db fs) (query : Firestore.DeliveryQuery) :
    ∃ rows : List Sqlite.DeliveryRow,
      rows.Perm (db.deliveries.filter fun row => query.selects (deliveryDoc row)) ∧
        streams.order (fs.deliveries.filter query.selects) = rows.map deliveryDoc := by
  have hperm := streams.perm (fs.deliveries.filter query.selects)
  have hmap : fs.deliveries.filter query.selects =
      (db.deliveries.filter fun row => query.selects (deliveryDoc row)).map deliveryDoc := by
    rw [hcoupled.deliveries, List.filter_map]
    rfl
  rw [hmap] at hperm ⊢
  exact Selection.exists_map_of_perm hperm

theorem run_reclaimExpiredDeliveries (hkeys : Keys db) (horderly : Orderly s db)
    (hcoupled : Coupled db fs) :
    ∃ fs', (Firestore.reclaimExpiredDeliveries s now).run (Firestore.exec streams) fs =
        (.ok (), fs') ∧
      Coupled (Sqlite.reclaimExpiredDeliveries s now db) fs' := by
  obtain ⟨rows, hperm, hdocs⟩ :=
    @stream_deliveries streams db fs hcoupled (.status .sending)
  have hrows : ∀ row ∈ rows, db.delivery row.jobId = some row ∧ row.status = .sending := by
    intro row hrow
    have hmem := hperm.mem_iff.1 hrow
    simp only [List.mem_filter, selects_delivery, decide_eq_true_eq] at hmem
    exact ⟨hkeys.deliveries.lookup_of_mem hmem.1, hmem.2⟩
  have hkeyed : Rows.Keyed Sqlite.DeliveryRow.key rows :=
    (hkeys.deliveries.of_sublist List.filter_sublist).perm hperm
  obtain ⟨fs', hrun, hcoupled'⟩ := @run_reclaimDeliveries s streams now rows hkeyed db fs hkeys
    horderly hcoupled hrows
  refine ⟨fs', ?_, ?_⟩
  · simpa [Firestore.reclaimExpiredDeliveries, hdocs] using hrun
  · have hchosen : (rows.filter fun row => expired now row.claimExpiresAt).Perm
        (db.deliveries.filter fun row =>
          row.status = .sending && expired now row.claimExpiresAt) := by
      refine (hperm.filter _).trans (List.Perm.of_eq ?_)
      rw [List.filter_filter]
      exact List.filter_congr fun row _ => Bool.and_comm _ _
    have hsame := @reclaim_perm s now _ _ hchosen
      (hkeys.deliveries.of_sublist List.filter_sublist) db
    have hleft := @reclaim_jobs s now (rows.filter fun row => expired now row.claimExpiresAt) db
    have hright := @reclaim_jobs s now (db.deliveries.filter fun row =>
      row.status = .sending && expired now row.claimExpiresAt) db
    have hdeliveries := congrArg Prod.fst hsame
    have htimeline := congrArg Prod.snd hsame
    refine ⟨?_, ?_, ?_, ?_⟩
    · rw [hcoupled'.jobs, hleft.1]
      exact (congrArg (List.map jobDoc) hright.1).symm
    · rw [hcoupled'.decisions, hleft.2]
      exact (congrArg (List.map decisionDoc) hright.2).symm
    · rw [hcoupled'.deliveries]
      exact congrArg (List.map deliveryDoc) hdeliveries
    · exact fun id => (hcoupled'.timelines id).trans (congrFun htimeline id)

end Reclaim

section ClaimDelivery

variable {s : Settings} {streams : StreamOrder} {db : Sqlite.Database}
  {fs : Firestore.Database} {now : Time}

/-- The order in which Firestore hands out deliveries: by the sequence of their
finalization, where SQLite goes by the creation of their jobs. -/
def finalizedOrder (delivery : Sqlite.DeliveryRow) : Time ×ₗ ℕ :=
  toLex (delivery.availableAt, delivery.rowid)

/-- The delivery that is due and was finalized first belongs to the job created first. -/
def InOrder (now : Time) (db : Sqlite.Database) : Prop :=
  ∀ first ∈ Sqlite.joined db, Sqlite.deliverable now first.1.toDelivery = true →
    (∀ other ∈ Sqlite.joined db, Sqlite.deliverable now other.1.toDelivery = true →
      finalizedOrder first.1 ≤ finalizedOrder other.1) →
    ∀ other ∈ Sqlite.joined db, Sqlite.deliverable now other.1.toDelivery = true →
      Sqlite.deliveryOrder first ≤ Sqlite.deliveryOrder other

instance (now : Time) (db : Sqlite.Database) : Decidable (InOrder now db) := by
  unfold InOrder
  infer_instance

theorem mem_joined {d : Sqlite.DeliveryRow} {j : Sqlite.JobRow} :
    (d, j) ∈ Sqlite.joined db ↔ d ∈ db.deliveries ∧ db.job d.jobId = some j := by
  constructor
  · exact Sqlite.joined_mem
  · rintro ⟨hd, hj⟩
    exact List.mem_filterMap.2 ⟨d, hd, by simp [hj]⟩

theorem mem_reclaimed_deliverable (chosen : List Sqlite.DeliveryRow)
    (hchosen : Rows.Keyed Sqlite.DeliveryRow.key chosen) (db : Sqlite.Database) (hkeys : Keys db)
    (hrows : ∀ row ∈ chosen, db.delivery row.jobId = some row ∧ row.status = .sending ∧
      expired now row.claimExpiresAt = true)
    {d : Sqlite.DeliveryRow} (hdue : Sqlite.deliverable now d.toDelivery = true) :
    d ∈ (chosen.foldl (Sqlite.reclaimDelivery s now) db).deliveries ↔ d ∈ db.deliveries := by
  induction chosen generalizing db with
  | nil => exact Iff.rfl
  | cons row rest ih =>
      have hnodup : (row.key :: rest.map Sqlite.DeliveryRow.key).Nodup := hchosen
      obtain ⟨hrow, hsending, hexpired⟩ := hrows row (by simp)
      have hmove : Sqlite.Move s Sqlite.noDecision db (Sqlite.reclaimDelivery s now db row) :=
        Sqlite.reclaimDelivery_move hkeys hrow hsending hexpired
      have hrest := ih (List.nodup_cons.1 hnodup).2 (Sqlite.reclaimDelivery s now db row)
        (hmove.keys hkeys) (by
          intro later hlater
          obtain ⟨hdelivery, hstatus⟩ := hrows later (by simp [hlater])
          have hne : later.jobId ≠ row.jobId := fun heq =>
            (List.nodup_cons.1 hnodup).1 (List.mem_map.2 ⟨later, hlater, heq⟩)
          exact ⟨(Sqlite.reclaimDelivery_delivery_ne hne).trans hdelivery, hstatus⟩)
      rw [List.foldl_cons, hrest, reclaimDelivery_eq]
      have hset : (db.updateDelivery row.jobId (reclaimSet s now row)).deliveries =
          (db.setDelivery row.jobId (reclaimSet s now row row).toDelivery).deliveries := by
        rw [Sqlite.updateDelivery_eq_setDelivery hkeys hrow _ (reclaimSet_rowid row row)]
      rw [Sqlite.event_deliveries, hset, Sqlite.mem_setDelivery hkeys hrow]
      have hlate := @not_deliverable_reclaimSet s now row row
      constructor
      · rintro (rfl | ⟨hd, -⟩)
        · exact absurd hdue (by simp [hlate])
        · exact hd
      · intro hd
        refine .inr ⟨hd, fun heq => ?_⟩
        have hsame : d = row := hkeys.deliveries.eq_of_key_eq hd (Sqlite.delivery_mem hrow) heq
        subst hsame
        simp [Sqlite.deliverable, hsending] at hdue

theorem joined_reclaimed (hkeys : Keys db) {pair : Sqlite.DeliveryRow × Sqlite.JobRow}
    (hdue : Sqlite.deliverable now pair.1.toDelivery = true) :
    pair ∈ Sqlite.joined (Sqlite.reclaimExpiredDeliveries s now db) ↔ pair ∈ Sqlite.joined db := by
  have hmem : pair.1 ∈ (Sqlite.reclaimExpiredDeliveries s now db).deliveries ↔
      pair.1 ∈ db.deliveries := by
    refine mem_reclaimed_deliverable _ (hkeys.deliveries.of_sublist List.filter_sublist) db
      hkeys ?_ hdue
    intro row hrow
    simp only [List.mem_filter, Bool.and_eq_true, decide_eq_true_eq] at hrow
    exact ⟨hkeys.deliveries.lookup_of_mem hrow.1, hrow.2⟩
  have hjobs : (Sqlite.reclaimExpiredDeliveries s now db).jobs = db.jobs := (reclaim_jobs _ db).1
  obtain ⟨d, j⟩ := pair
  rw [mem_joined, mem_joined]
  simp only [Sqlite.Database.job, hjobs]
  rw [hmem]

theorem InOrder.reclaimed (hkeys : Keys db) (horder : InOrder now db) :
    InOrder now (Sqlite.reclaimExpiredDeliveries s now db) := by
  intro first hfirst hdue hleast other hother hotherdue
  refine horder first ((joined_reclaimed hkeys hdue).1 hfirst) hdue ?_ other
    ((joined_reclaimed hkeys hotherdue).1 hother) hotherdue
  exact fun pair hpair hpairdue => hleast pair ((joined_reclaimed hkeys hpairdue).2 hpair) hpairdue

theorem delivery_rowid_pos (horderly : Orderly s db) {row : Sqlite.DeliveryRow}
    (hrow : row ∈ db.deliveries) : 0 < row.rowid := by
  have hmem := List.mem_map_of_mem (f := Sqlite.DeliveryRow.rowid) hrow
  rw [horderly.deliveryRowids, List.mem_range'_1] at hmem
  exact hmem.1

theorem delivery_rowid_inj (horderly : Orderly s db) {a b : Sqlite.DeliveryRow}
    (ha : a ∈ db.deliveries) (hb : b ∈ db.deliveries) (hrowid : a.rowid = b.rowid) : a = b := by
  have hnodup : (db.deliveries.map Sqlite.DeliveryRow.rowid).Nodup := by
    rw [horderly.deliveryRowids]
    exact List.nodup_range'
  exact List.inj_on_of_nodup_map hnodup ha hb hrowid

theorem delivery_selection (horderly : Orderly s db) (hcoupled : Coupled db fs) :
    ((streams.order (fs.deliveries.filter
        (Firestore.DeliveryQuery.status .pending).selects)).filter fun data =>
          data.failureReason.isNone && decide (data.availableAt ≤ now)).argmin
            Firestore.deliveryOrder =
      ((db.deliveries.filter fun d => Sqlite.deliverable now d.toDelivery).argmin
        finalizedOrder).map deliveryDoc := by
  have hperm : ((streams.order (fs.deliveries.filter
      (Firestore.DeliveryQuery.status .pending).selects)).filter fun data =>
        data.failureReason.isNone && decide (data.availableAt ≤ now)).Perm
      ((db.deliveries.filter fun d => Sqlite.deliverable now d.toDelivery).map deliveryDoc) := by
    refine ((streams.perm _).filter _).trans (List.Perm.of_eq ?_)
    rw [hcoupled.deliveries, List.filter_filter, List.filter_map]
    congr 1
    refine List.filter_congr fun row _ => ?_
    rw [Bool.eq_iff_iff]
    simp only [Function.comp_apply, Sqlite.deliverable, Bool.and_eq_true, decide_eq_true_eq,
      selects_delivery]
    simp only [deliveryDoc_toDelivery]
    tauto
  have hmem : ∀ row, row ∈ (db.deliveries.filter fun d => Sqlite.deliverable now d.toDelivery) →
      row ∈ db.deliveries := fun row hrow => (List.mem_filter.1 hrow).1
  rw [Selection.argmin_perm hperm ?_, Selection.argmin_map]
  · congr 1
    refine Selection.argmin_congr fun a ha b hb => ?_
    have ha' := delivery_rowid_pos horderly (hmem a ha)
    have hb' := delivery_rowid_pos horderly (hmem b hb)
    have hsequence : a.rowid - 1 < b.rowid - 1 ↔ a.rowid < b.rowid := by omega
    simp only [Firestore.deliveryOrder, finalizedOrder, Prod.Lex.toLex_lt_toLex]
    exact or_congr Iff.rfl (and_congr Iff.rfl hsequence)
  · intro x hx y hy heq
    obtain ⟨a, ha, rfl⟩ := List.mem_map.1 hx
    obtain ⟨b, hb, rfl⟩ := List.mem_map.1 hy
    have ha' := delivery_rowid_pos horderly (hmem a ha)
    have hb' := delivery_rowid_pos horderly (hmem b hb)
    have hsequence : a.rowid - 1 = b.rowid - 1 := congrArg (fun k => (ofLex k).2) heq
    rw [delivery_rowid_inj horderly (hmem a ha) (hmem b hb) (by omega)]

theorem deliveryClaim_ok (horderly : Orderly s db) {job : Sqlite.JobRow} (hjob : job ∈ db.jobs)
    (hcompleted : job.status = .completed) (email token : String) :
    ∃ claim, Sqlite.deliveryClaim job.toJob email token = .ok claim ∧
      Firestore.deliveryClaim job.id job.toJob email token = .ok claim := by
  obtain ⟨artifact, content, -, hartifact, -, hcontent, hdigest, -⟩ :=
    horderly.finished job hjob hcompleted
  simp [Sqlite.deliveryClaim, Firestore.deliveryClaim, hartifact, hcontent, hdigest]

theorem claimDelivery_mirrors (hkeys : Keys db) (horderly : Orderly s db)
    (hcoupled : Coupled db fs) {a : Ambient} (horder : InOrder a.now db) :
    Mirrors streams fs db (Firestore.claimDelivery s a) (Sqlite.claimDelivery s a db) := by
  have hmoves : Sqlite.Moves s Sqlite.noDecision db
      (Sqlite.reclaimExpiredDeliveries s a.now db) :=
    Sqlite.reclaimExpiredDeliveries_moves hkeys
  have hkeys' := hmoves.keys hkeys
  have horderly' := (hmoves.preserve
    (fun _ _ hkeys horderly hmove => horderly.move hkeys hmove) hkeys horderly).2
  have horder' := @InOrder.reclaimed s db a.now hkeys horder
  obtain ⟨fs₁, hrun, hcoupled'⟩ :=
    @run_reclaimExpiredDeliveries s streams db fs a.now hkeys horderly hcoupled
  simp only [Sqlite.claimDelivery]
  generalize Sqlite.reclaimExpiredDeliveries s a.now db = db₁
    at hkeys' horderly' hcoupled' horder'
  have hselected := @delivery_selection s streams db₁ fs₁ a.now horderly' hcoupled'
  have hunfold : (Firestore.claimDelivery s a).run (Firestore.exec streams) fs = _ :=
    (Program.run_bind _ _ fs).trans (by rw [hrun])
  simp only [Program.run_call, Firestore.exec_streamDeliveries, hselected] at hunfold
  cases hfirst : (db₁.deliveries.filter fun d => Sqlite.deliverable a.now d.toDelivery).argmin
      finalizedOrder with
  | none =>
      rw [hfirst] at hunfold
      have hnone : ((Sqlite.joined db₁).filter
          fun pair => Sqlite.deliverable a.now pair.1.toDelivery) = [] := by
        rw [List.argmin_eq_none] at hfirst
        refine List.filter_eq_nil_iff.2 fun pair hpair => ?_
        exact List.filter_eq_nil_iff.1 hfirst pair.1 (Sqlite.joined_mem hpair).1
      rw [hnone]
      exact .answered hcoupled' hunfold
  | some d =>
      rw [hfirst] at hunfold
      obtain ⟨hmem, hdue⟩ := List.mem_filter.1 (List.argmin_mem hfirst)
      obtain ⟨j, hj, hcompleted⟩ := horderly'.delivered d hmem
      have hpair : (d, j) ∈ Sqlite.joined db₁ := mem_joined.2 ⟨hmem, hj⟩
      have hleast := horder' (d, j) hpair hdue fun other hother hotherdue =>
        List.le_of_mem_argmin
          (List.mem_filter.2 ⟨(Sqlite.joined_mem hother).1, hotherdue⟩) hfirst
      have hchosen : ((Sqlite.joined db₁).filter
          fun pair => Sqlite.deliverable a.now pair.1.toDelivery).argmin Sqlite.deliveryOrder =
            some (d, j) := by
        refine (Selection.argmin_eq_some_iff ?_).2
          ⟨List.mem_filter.2 ⟨hpair, hdue⟩, fun other hother => ?_⟩
        · rintro ⟨d₁, j₁⟩ h₁ ⟨d₂, j₂⟩ h₂ heq
          obtain ⟨hd₁, hj₁⟩ := Sqlite.joined_mem (List.mem_filter.1 h₁).1
          obtain ⟨hd₂, hj₂⟩ := Sqlite.joined_mem (List.mem_filter.1 h₂).1
          have hrowid : j₁.rowid = j₂.rowid := congrArg (fun k => (ofLex k).2) heq
          have hjobs := Orderly.rowid_inj horderly' (Sqlite.job_mem hj₁) (Sqlite.job_mem hj₂)
            hrowid
          have hids : d₁.jobId = d₂.jobId :=
            (Sqlite.job_id hj₁).symm.trans ((congrArg (fun r : Sqlite.JobRow => r.id) hjobs).trans
              (Sqlite.job_id hj₂))
          exact Prod.ext (hkeys'.deliveries.eq_of_key_eq hd₁ hd₂ hids) hjobs
        · obtain ⟨hother, hotherdue⟩ := List.mem_filter.1 hother
          exact hleast other hother hotherdue
      obtain ⟨claim, hclaim, hclaim'⟩ := deliveryClaim_ok horderly' (Sqlite.job_mem hj)
        hcompleted d.destinationEmail a.fresh.hex
      have hid : j.id = d.jobId := Sqlite.job_id hj
      have hrow : db₁.delivery d.jobId = some d := hkeys'.deliveries.lookup_of_mem hmem
      rw [hchosen]
      simp only [hclaim, hid]
      refine .answered (hcoupled'.updateDelivery hkeys' hrow (fun r => { r with
        status := .sending
        claimToken := some a.fresh.hex
        claimExpiresAt := some (a.now + s.claimLeaseSeconds) }) rfl rfl) (hunfold.trans ?_)
      simp only [Option.map_some, Program.run_call, Firestore.exec_getJob, deliveryDoc_toDelivery,
        hcoupled'.job, hj]
      rw [hid] at hclaim'
      simp [Program.run_bind, hclaim']
      rfl

end ClaimDelivery

end CausalOps.ControlPlane.Mirror
